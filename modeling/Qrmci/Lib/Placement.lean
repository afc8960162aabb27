import Mathlib.Algebra.Order.Group.Multiset

/-- Every live token is in exactly one place, and there once; no other token is anywhere. -/
structure PlacedOnce {P T : Type} [DecidableEq T] (live : T → Prop) (content : P → Multiset T) : Prop where
  placed : ∀ token, live token → ∃ place, (content place).count token = 1 ∧
    ∀ other, other ≠ place → token ∉ content other
  only : ∀ token place, token ∈ content place → live token

/-- The content of a place that holds one token, at the one place that does. -/
def tokenAt {P T : Type} [DecidableEq P] (token : T) (target place : P) : Multiset T :=
  if place = target then {token} else 0

@[simp] theorem tokenAt_self {P T : Type} [DecidableEq P] (token : T) (place : P) :
    tokenAt token place place = {token} := if_pos rfl

theorem tokenAt_ne {P T : Type} [DecidableEq P] (token : T) {target place : P} (away : place ≠ target) :
    tokenAt token target place = 0 := if_neg away

theorem count_tokenAt_ne {P T : Type} [DecidableEq P] [DecidableEq T] {token other : T} (different : other ≠ token)
    (target place : P) : (tokenAt token target place).count other = 0 := by
  unfold tokenAt
  split
  · rw [Multiset.count_singleton, if_neg different]
  · exact Multiset.count_zero other

/-- One token has left the first place for the second; a token may also stay where it is. -/
def Moved {P T : Type} [DecidableEq P] (content : P → Multiset T) (token : T) (source target : P)
    (after : P → Multiset T) : Prop :=
  ∀ place, after place + tokenAt token source place = content place + tokenAt token target place

/-- One token has turned up in a place. -/
def Entered {P T : Type} [DecidableEq P] (content : P → Multiset T) (token : T) (target : P)
    (after : P → Multiset T) : Prop :=
  ∀ place, after place = content place + tokenAt token target place

namespace PlacedOnce

variable {P T : Type} [DecidableEq T] {live : T → Prop} {content after : P → Multiset T}

/-- The place where a token is seen is its only one. -/
theorem count_eq_one (once : PlacedOnce live content) {token : T} {place : P} (member : token ∈ content place) :
    (content place).count token = 1 ∧ ∀ other, other ≠ place → token ∉ content other := by
  obtain ⟨found, single, elsewhere⟩ := once.placed token (once.only token place member)
  have same : place = found := by
    by_contra different
    exact elsewhere place different member
  subst same
  exact ⟨single, elsewhere⟩

theorem count_le_one (once : PlacedOnce live content) (token : T) (place : P) :
    (content place).count token ≤ 1 := by
  by_cases member : token ∈ content place
  · exact (once.count_eq_one member).1.le
  · rw [Multiset.count_eq_zero_of_notMem member]
    exact Nat.zero_le 1

/-- Where all but one token are where they were, and that one is in one place only, every live token
is still in exactly one place. -/
theorem rearranged (once : PlacedOnce live content) (token : T) (target : P) {lively : T → Prop}
    (others : ∀ other, other ≠ token → ∀ place, (after place).count other = (content place).count other)
    (arrived : (after target).count token = 1) (gone : ∀ place, place ≠ target → token ∉ after place)
    (grown : ∀ other, lively other ↔ live other ∨ other = token) : PlacedOnce lively after := by
  refine ⟨?_, ?_⟩
  · intro other alive
    by_cases same : other = token
    · subst same
      exact ⟨target, arrived, gone⟩
    · have before := ((grown other).mp alive).resolve_right same
      obtain ⟨place, one, none⟩ := once.placed other before
      refine ⟨place, (others other same place).trans one, ?_⟩
      intro away different
      rw [← Multiset.count_eq_zero, others other same away]
      exact Multiset.count_eq_zero_of_notMem (none away different)
  · intro other place member
    by_cases same : other = token
    · exact (grown other).mpr (Or.inr same)
    · have positive := Multiset.count_pos.mpr member
      rw [others other same place] at positive
      exact (grown other).mpr (Or.inl (once.only other place (Multiset.count_pos.mp positive)))

theorem move [DecidableEq P] (once : PlacedOnce live content) (token : T) (source target : P)
    (moved : Moved content token source target after) : PlacedOnce live after := by
  by_cases stays : source = target
  · subst stays
    have same : after = content := funext fun place => add_right_cancel (moved place)
    rw [same]
    exact once
  -- The token is seen at its source, so that is its only place; it now counts at the target instead.
  have left : after source + {token} = content source := by
    simpa [tokenAt_ne token stays] using moved source
  have seen : token ∈ content source := by
    rw [← left]
    simp
  obtain ⟨single, elsewhere⟩ := once.count_eq_one seen
  have counts (other : T) (place : P) : (after place).count other + (tokenAt token source place).count other =
      (content place).count other + (tokenAt token target place).count other := by
    rw [← Multiset.count_add, moved place, Multiset.count_add]
  refine once.rearranged token target ?_ ?_ ?_ ?_
  · intro other different place
    have balance := counts other place
    rw [count_tokenAt_ne different, count_tokenAt_ne different] at balance
    exact balance
  · have balance := counts token target
    have away : target ≠ source := fun same => stays same.symm
    rw [tokenAt_ne token away, tokenAt_self, Multiset.count_eq_zero_of_notMem (elsewhere target away)] at balance
    simpa using balance
  · intro place away
    have balance := counts token place
    rw [tokenAt_ne token away] at balance
    apply Multiset.count_eq_zero.mp
    by_cases atSource : place = source
    · subst atSource
      rw [tokenAt_self, single, Multiset.count_singleton_self, Multiset.count_zero] at balance
      omega
    · rw [tokenAt_ne token atSource, Multiset.count_eq_zero_of_notMem (elsewhere place atSource)] at balance
      exact balance
  · intro other
    refine ⟨Or.inl, ?_⟩
    rintro (alive | same)
    · exact alive
    · rw [same]
      exact once.only token source seen

theorem enter [DecidableEq P] (once : PlacedOnce live content) (token : T) (target : P) {lively : T → Prop}
    (fresh : ¬ live token) (grown : ∀ other, lively other ↔ live other ∨ other = token)
    (entered : Entered content token target after) : PlacedOnce lively after := by
  have absent (place : P) : token ∉ content place := fun member => fresh (once.only token place member)
  refine once.rearranged token target ?_ ?_ ?_ grown
  · intro other different place
    rw [entered place, Multiset.count_add, count_tokenAt_ne different]
    rfl
  · rw [entered target, tokenAt_self, Multiset.count_add, Multiset.count_eq_zero_of_notMem (absent target)]
    simp
  · intro place away
    rw [entered place, tokenAt_ne token away, add_zero]
    exact absent place

end PlacedOnce
