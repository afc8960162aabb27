import Mathlib.Data.Multiset.Basic

/-- A container that hands back what was put in, once each and in any order it likes. -/
structure Bag (S T : Type) where
  empty : S
  put : T → S → S
  take : S → Option (T × S)
  content : S → Multiset T
  content_empty : content empty = 0
  content_put : ∀ item state, content (put item state) = item ::ₘ content state
  content_take : ∀ state item rest, take state = some (item, rest) → content state = item ::ₘ content rest
  take_none : ∀ state, take state = none → content state = 0

namespace Bag

variable {S T : Type} (bag : Bag S T) {state rest : S} {item : T} {holds : T → Prop}

/-- What holds of everything in a bag holds of what is taken and of what is left. -/
theorem forall_take (all : ∀ each ∈ bag.content state, holds each) (taken : bag.take state = some (item, rest)) :
    holds item ∧ ∀ each ∈ bag.content rest, holds each := by
  rw [bag.content_take state item rest taken] at all
  exact Multiset.forall_mem_cons.mp all

theorem forall_put (all : ∀ each ∈ bag.content state, holds each) (new : holds item) :
    ∀ each ∈ bag.content (bag.put item state), holds each := by
  rw [bag.content_put]
  exact Multiset.forall_mem_cons.mpr ⟨new, all⟩

/-- The bag that hands items back in the order they came. -/
def fifo (T : Type) : Bag (List T) T where
  empty := []
  put item state := state ++ [item]
  take
    | [] => none
    | item :: rest => some (item, rest)
  content state := state
  content_empty := rfl
  content_put item state := Multiset.coe_eq_coe.mpr (List.perm_append_singleton item state)
  content_take state item rest taken := by
    cases state with
    | nil => cases taken
    | cons head tail =>
      cases taken
      rfl
  take_none state taken := by
    cases state with
    | nil => rfl
    | cons head tail => cases taken

end Bag
