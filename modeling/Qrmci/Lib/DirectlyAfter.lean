import Mathlib.Logic.Basic

/-- Every event of one kind comes directly after one of another kind. -/
def DirectlyAfter {α : Type} (Guard Event : α → Prop) (events : List α) : Prop :=
  ∀ index event, events[index]? = some event → Event event →
    ∃ before guard, index = before + 1 ∧ events[before]? = some guard ∧ Guard guard

namespace DirectlyAfter

variable {α : Type} {Guard Event : α → Prop}

theorem of_none {events : List α} (none : ∀ event ∈ events, ¬ Event event) : DirectlyAfter Guard Event events := by
  intro index event located kind
  exact absurd kind (none event (List.mem_of_getElem? located))

theorem pair {guard event : α} (guards : Guard guard) (quiet : ¬ Event guard) : DirectlyAfter Guard Event [guard, event] := by
  intro index other located kind
  cases index with
  | zero =>
    cases located
    exact absurd kind quiet
  | succ index =>
    cases index with
    | zero => exact ⟨0, guard, rfl, rfl, guards⟩
    | succ index => cases located

theorem append {events later : List α} (first : DirectlyAfter Guard Event events)
    (second : DirectlyAfter Guard Event later) : DirectlyAfter Guard Event (events ++ later) := by
  intro index event located kind
  rcases Nat.lt_or_ge index events.length with inside | beyond
  · rw [List.getElem?_append_left inside] at located
    obtain ⟨before, guard, rfl, listed, guards⟩ := first index event located kind
    exact ⟨before, guard, rfl, by rw [List.getElem?_append_left (by omega), listed], guards⟩
  · rw [List.getElem?_append_right beyond] at located
    obtain ⟨before, guard, shifted, listed, guards⟩ := second _ event located kind
    refine ⟨events.length + before, guard, by omega, ?_, guards⟩
    rw [List.getElem?_append_right (by omega), Nat.add_sub_cancel_left, listed]

end DirectlyAfter
