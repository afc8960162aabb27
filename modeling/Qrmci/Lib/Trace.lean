import Mathlib.Logic.Basic

/-- The runs of a labelled transition system: the labels so far, latest first, and the state
they lead to. -/
inductive Trace {S L : Type} (init : S → Prop) (step : S → L → S → Prop) : List L → S → Prop
  | start {s} : init s → Trace init step [] s
  | next {labels s label t} : Trace init step labels s → step s label t → Trace init step (label :: labels) t

namespace Trace

variable {S L : Type} {init : S → Prop} {step : S → L → S → Prop} {labels : List L} {s : S}

/-- What holds at the start and is kept by every step holds after every run. -/
theorem invariant (holds : S → Prop) (initial : ∀ s, init s → holds s)
    (kept : ∀ s label t, step s label t → holds s → holds t) (run : Trace init step labels s) : holds s := by
  induction run with
  | start first => exact initial _ first
  | next _ taken ih => exact kept _ _ _ taken ih

/-- The same where only the labels allowed in the run have to keep it. -/
theorem invariant_of_labels (holds : S → Prop) (allowed : L → Prop) (initial : ∀ s, init s → holds s)
    (kept : ∀ s label t, allowed label → step s label t → holds s → holds t)
    (run : Trace init step labels s) (within : ∀ label ∈ labels, allowed label) : holds s := by
  induction run with
  | start first => exact initial _ first
  | next _ taken ih =>
    have earlier := ih (fun label member => within label (List.mem_cons_of_mem _ member))
    exact kept _ _ _ (within _ (List.mem_cons_self ..)) taken earlier

/-- A run goes on from where it has led. -/
theorem onward (_ : Trace init step labels s) : Trace (· = s) step [] s := .start rfl

theorem append {more : List L} {t : S} (run : Trace init step labels s) (onward : Trace (· = s) step more t) :
    Trace init step (more ++ labels) t := by
  induction onward with
  | start first =>
    subst first
    exact run
  | next _ taken ih => exact ih.next taken

/-- Onward from a state with an invariant, a measure that every counted step lowers and no other step
raises bounds how many counted steps a run takes; and what each step is like, all of them are. -/
theorem countdown {more : List L} {t : S} (holds : S → Prop) (fine : L → Prop) (measure : S → Nat) (counted : L → Bool)
    (lowered : ∀ s label t, step s label t → holds s →
      holds t ∧ fine label ∧ measure t + (if counted label then 1 else 0) ≤ measure s)
    (onward : Trace (· = s) step more t) (now : holds s) :
    holds t ∧ (∀ label ∈ more, fine label) ∧ more.countP counted + measure t ≤ measure s := by
  induction onward with
  | start first =>
    subst first
    exact ⟨now, fun _ member => absurd member List.not_mem_nil, by simp⟩
  | next _ taken ih =>
    obtain ⟨before, earlier, bound⟩ := ih
    obtain ⟨after, latest, smaller⟩ := lowered _ _ _ taken before
    refine ⟨after, List.forall_mem_cons.mpr ⟨latest, earlier⟩, ?_⟩
    rw [List.countP_cons]
    omega

end Trace
