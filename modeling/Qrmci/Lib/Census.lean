import Qrmci.Lib.Queues

/-- One copy at a place, if there is one. -/
def copyIf {P : Type} (there : Prop) [Decidable there] (place : P) : Multiset P :=
  if there then {place} else 0

section CopyIf

variable {P : Type} {there : Prop} [Decidable there] {place other : P}

@[simp] theorem mem_copyIf : other ∈ copyIf there place ↔ there ∧ other = place := by
  unfold copyIf
  by_cases here : there
  · simp [here]
  · simp [here]

@[simp] theorem card_copyIf : (copyIf there place).card = if there then 1 else 0 := by
  unfold copyIf
  split
  · exact Multiset.card_singleton place
  · exact Multiset.card_zero

@[simp] theorem count_copyIf [DecidableEq P] :
    (copyIf there place).count other = if there ∧ other = place then 1 else 0 := by
  unfold copyIf
  by_cases here : there
  · simp [here, Multiset.count_singleton]
  · simp [here]

@[simp] theorem countP_copyIf (counted : P → Prop) [DecidablePred counted] :
    (copyIf there place).countP counted = if there ∧ counted place then 1 else 0 := by
  unfold copyIf
  by_cases here : there
  · by_cases one : counted place
    · simp [here, one, ← Multiset.cons_zero]
    · simp [here, one, ← Multiset.cons_zero]
  · simp [here]

end CopyIf

/-- The copies of one token, each listed under the place where it is. -/
def Census {P : Type} [DecidableEq P] (counts : P → ℕ) (copies : Multiset P) : Prop :=
  ∀ place, copies.count place = counts place

namespace Census

variable {P : Type} [DecidableEq P] {counts after : P → ℕ} {copies sources targets : Multiset P}

theorem count_le_card (census : Census counts copies) (place : P) : counts place ≤ copies.card := by
  rw [← census place]
  exact Multiset.count_le_card place copies

/-- Copies that leave some places and turn up in others are listed under their new places. -/
theorem shift (census : Census counts copies)
    (shifted : ∀ place, after place + sources.count place = counts place + targets.count place) :
    ∃ moved, Census after moved ∧ moved + sources = copies + targets := by
  have enough : sources ≤ copies + targets := by
    rw [Multiset.le_iff_count]
    intro place
    have balance := shifted place
    rw [Multiset.count_add, census place]
    omega
  refine ⟨copies + targets - sources, ?_, Multiset.sub_add_cancel enough⟩
  intro place
  have balance := shifted place
  rw [Multiset.count_sub, Multiset.count_add, census place]
  omega

end Census

namespace Queues

variable {N T L : Type} [DecidableEq N] [DecidableEq T] [DecidableEq L] {queues : Queues N T} {name place : N}
  {message : T}

omit [DecidableEq T] in
theorem count_map_put (queues : Queues N T) (name : N) (message : T) (delivered : Bool) (label : T → L) (token : L)
    (place : N) :
    ((queues.put name message delivered place).map label).count token =
      ((queues place).map label).count token +
        if (delivered = true ∧ label message = token) ∧ place = name then 1 else 0 := by
  cases delivered with
  | false => simp [put]
  | true =>
    rw [map_put, Multiset.count_add]
    unfold tokenAt
    by_cases here : place = name
    · simp [here, Multiset.count_singleton, eq_comm]
    · simp [here]

theorem count_map_consume (present : message ∈ queues name) (acked : Bool) (label : T → L) (token : L) (place : N) :
    ((queues.consume name message acked place).map label).count token +
        (if (acked = true ∧ label message = token) ∧ place = name then 1 else 0) =
      ((queues place).map label).count token := by
  cases acked with
  | false => simp [consume]
  | true =>
    rw [← map_consume present label place, Multiset.count_add]
    unfold tokenAt
    by_cases here : place = name
    · simp [here, Multiset.count_singleton, eq_comm]
    · simp [here]

end Queues
