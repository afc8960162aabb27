import Qrmci.Lib.Placement

/-- Named message queues. Nothing is assumed of the order in which a queue delivers. -/
abbrev Queues (N T : Type) := N → Multiset T

namespace Queues

variable {N T L : Type} [DecidableEq N] [DecidableEq T]

/-- A message that the broker refuses is nowhere. -/
def put (queues : Queues N T) (name : N) (message : T) (delivered : Bool) : Queues N T :=
  if delivered then Function.update queues name (message ::ₘ queues name) else queues

/-- A message whose acknowledgement fails stays on its queue, to be delivered again. -/
def consume (queues : Queues N T) (name : N) (message : T) (acked : Bool) : Queues N T :=
  if acked then Function.update queues name ((queues name).erase message) else queues

variable {queues : Queues N T} {name place : N} {message other : T}

omit [DecidableEq T] in
theorem mem_put {delivered : Bool} (member : other ∈ queues.put name message delivered place) :
    other ∈ queues place ∨ place = name ∧ other = message := by
  unfold put at member
  split at member
  · by_cases here : place = name
    · subst here
      rw [Function.update_self, Multiset.mem_cons] at member
      rcases member with new | old
      · exact Or.inr ⟨rfl, new⟩
      · exact Or.inl old
    · rw [Function.update_of_ne here] at member
      exact Or.inl member
  · exact Or.inl member

theorem mem_consume {acked : Bool} (member : other ∈ queues.consume name message acked place) :
    other ∈ queues place := by
  unfold consume at member
  split at member
  · by_cases here : place = name
    · subst here
      rw [Function.update_self] at member
      exact Multiset.mem_of_mem_erase member
    · rw [Function.update_of_ne here] at member
      exact member
  · exact member

omit [DecidableEq T] in
theorem map_put (queues : Queues N T) (name : N) (message : T) (label : T → L) (place : N) :
    (queues.put name message true place).map label = (queues place).map label + tokenAt (label message) name place := by
  unfold put
  by_cases here : place = name
  · subst here
    rw [if_pos rfl, Function.update_self, Multiset.map_cons, tokenAt_self, add_comm, Multiset.singleton_add]
  · rw [if_pos rfl, Function.update_of_ne here, tokenAt_ne _ here, add_zero]

theorem map_consume (present : message ∈ queues name) (label : T → L) (place : N) :
    (queues.consume name message true place).map label + tokenAt (label message) name place =
      (queues place).map label := by
  unfold consume
  by_cases here : place = name
  · subst here
    have split : queues place = message ::ₘ (queues place).erase message := (Multiset.cons_erase present).symm
    rw [if_pos rfl, Function.update_self, tokenAt_self, add_comm, Multiset.singleton_add, ← Multiset.map_cons, ← split]
  · rw [if_pos rfl, Function.update_of_ne here, tokenAt_ne _ here, add_zero]

end Queues
