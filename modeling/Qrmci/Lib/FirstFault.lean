/-- The first entry of a list with a fault, which may depend on where in the list an entry stands. -/
structure FirstFault {α : Type} (Fault : Nat → α → Prop) (entries : List α) (position : Nat) (entry : α) : Prop where
  located : entries[position]? = some entry
  fault : Fault position entry
  earlier : ∀ index other, index < position → entries[index]? = some other → ¬ Fault index other

namespace FirstFault

variable {α : Type} {Fault : Nat → α → Prop} {entries : List α} {position : Nat} {entry first : α}

/-- A fault in front is the first one. -/
theorem head (faulty : Fault 0 first) : FirstFault Fault (first :: entries) 0 first :=
  ⟨rfl, faulty, fun index _ before _ => absurd before (Nat.not_lt_zero index)⟩

/-- An entry without a fault in front of the list moves the first fault up by one. -/
theorem cons (sound : ¬ Fault 0 first) (later : FirstFault (fun index => Fault (index + 1)) entries position entry) :
    FirstFault Fault (first :: entries) (position + 1) entry := by
  refine ⟨later.located, later.fault, ?_⟩
  intro index other before located
  cases index with
  | zero =>
    cases located
    exact sound
  | succ index => exact later.earlier index other (Nat.lt_of_succ_lt_succ before) located

theorem unique {other : Nat} {also : α} (one : FirstFault Fault entries position entry)
    (two : FirstFault Fault entries other also) : position = other ∧ entry = also := by
  rcases Nat.lt_trichotomy position other with before | same | after
  · exact absurd one.fault (two.earlier position entry before one.located)
  · subst same
    exact ⟨rfl, Option.some.inj (one.located.symm.trans two.located)⟩
  · exact absurd two.fault (one.earlier other also after two.located)

/-- None of the entries in front of the first fault has one. -/
theorem sound_of_mem_take (first : FirstFault Fault entries position entry) {other : α}
    (member : other ∈ entries.take position) : ∃ index, entries[index]? = some other ∧ ¬ Fault index other := by
  obtain ⟨index, listed⟩ := List.mem_iff_getElem?.mp member
  rw [List.getElem?_take] at listed
  split at listed
  · rename_i before
    exact ⟨index, listed, first.earlier index other before listed⟩
  · cases listed

end FirstFault
