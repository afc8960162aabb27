import Mathlib.Data.List.ReduceOption
import Qrmci.Lib.Trace

/-- A process with a flag that may go up at any time. The steps that `looks` tells of read the flag before anything
else and not again; those that are `outside` are not the process's own; and where it `waits`, a step that has read
the flag as unset may also come back with nothing done. -/
structure Interruptible (S L : Type) where
  init : S → Prop
  step : S → L → S → Prop
  flag : S → Bool
  setFlag : Bool → S → S
  looks : L → Bool
  outside : L → Bool
  waits : S → Bool

namespace Interruptible

variable {S L : Type}

/-- The steps of a process seen from one look at the flag to the end of what it has led to. A state comes with
whether such a step is in progress: whatever happens outside meanwhile, the flag going up included, the rest of
it is done as if the flag were still unset. -/
inductive Step (process : Interruptible S L) : S × Bool → Option L → S × Bool → Prop
  | whole {s label t} : process.looks label = false → process.step s label t →
      Step process (s, false) (some label) (t, false)
  | look {s label t} : process.looks label = true → process.step s label t → Step process (s, false) none (s, true)
  | meanwhile {s label t} : process.outside label = true → process.step s label t →
      Step process (s, true) (some label) (t, true)
  | nothing {s} : process.waits s = true → Step process (s, true) none (s, false)
  | rest {s label t} : process.looks label = true → process.step (process.setFlag false s) label t →
      Step process (s, true) (some label) (process.setFlag (process.flag s) t, false)

/-- The runs seen so. -/
abbrev Run (process : Interruptible S L) : List (Option L) → S × Bool → Prop :=
  Trace (fun p => process.init p.1 ∧ p.2 = false) process.Step

def own (process : Interruptible S L) (label : L) : Bool := !process.outside label

/-- A step of its own that does not begin with a look at the flag. -/
def further (process : Interruptible S L) (label : L) : Bool := process.own label && !process.looks label

/-- The process can take a step of its own. -/
def GoesOn (process : Interruptible S L) (p : S × Bool) : Prop :=
  ∃ label q, process.Step p label q ∧ ∀ act ∈ label, process.outside act = false

/-- What makes the two views agree: a look reads the flag as unset and its step leaves it so, the flag never goes
down, it may go up at any time, and what happens outside could also happen with the flag unset. -/
structure Lawful (process : Interruptible S L) : Prop where
  inside : ∀ label, process.outside label = true → process.looks label = false
  looking : ∀ s label t, process.step s label t → process.looks label = true →
    process.flag s = false ∧ process.flag t = false
  latched : ∀ s label t, process.step s label t → process.flag s = true → process.flag t = true
  raises : ∃ label, process.outside label = true ∧ ∀ s, process.step s label (process.setFlag true s)
  apart : ∀ s label t, process.step s label t → process.outside label = true →
    process.setFlag false t = process.setFlag false s ∨ process.step (process.setFlag false s) label
      (process.setFlag false t)
  shown : ∀ raised s, process.flag (process.setFlag raised s) = raised
  same : ∀ s, process.setFlag (process.flag s) s = s
  overwritten : ∀ raised before s, process.setFlag raised (process.setFlag before s) = process.setFlag raised s

variable {process : Interruptible S L}

theorem GoesOn.whole {s : S}
    (takes : ∃ act t, process.step s act t ∧ process.looks act = false ∧ process.outside act = false) :
    process.GoesOn (s, false) := by
  obtain ⟨act, t, step, whole, inside⟩ := takes
  refine ⟨some act, (t, false), .whole whole step, ?_⟩
  rintro _ ⟨⟩
  exact inside

theorem GoesOn.nothing {s : S} (waits : process.waits s = true) : process.GoesOn (s, true) :=
  ⟨none, (s, false), .nothing waits, fun _ never => by cases never⟩

/-- What is so wherever a step looks, and stays so whatever happens outside, is so while a step is in progress. -/
theorem pending (holds : S → Prop)
    (looking : ∀ s label t, process.step s label t → process.looks label = true → holds s)
    (outside : ∀ s label t, process.step s label t → process.outside label = true → holds s → holds t)
    {labels : List (Option L)} {p : S × Bool} (run : process.Run labels p) : p.2 = true → holds p.1 := by
  refine run.invariant (fun p => p.2 = true → holds p.1) ?_ ?_
  · intro p first busy
    rw [first.2] at busy
    cases busy
  · intro p label q taken before
    cases taken with
    | whole => exact fun busy => by cases busy
    | look looks taken => exact fun _ => looking _ _ _ taken looks
    | meanwhile apart taken => exact fun _ => outside _ _ _ taken apart (before rfl)
    | nothing => exact fun busy => by cases busy
    | rest => exact fun busy => by cases busy

/-- Once the flag is up, no step looks at it but the one in progress, which ends at most once. -/
theorem Lawful.ends_once (lawful : process.Lawful) {labels : List (Option L)} {p q : S × Bool}
    (onward : Trace (· = p) process.Step labels q) (raised : process.flag p.1 = true) :
    process.flag q.1 = true ∧ labels.countP (·.any process.looks) + q.2.toNat ≤ p.2.toNat := by
  obtain ⟨up, _, bound⟩ := onward.countdown (fun p => process.flag p.1 = true) (fun _ => True) (fun p => p.2.toNat)
    (·.any process.looks) (fun p label q taken raised => by
      cases taken with
      | whole looks taken => exact ⟨lawful.latched _ _ _ taken raised, trivial, by simp [looks]⟩
      | look looks taken => exact absurd raised (by simp [(lawful.looking _ _ _ taken looks).1])
      | meanwhile outside taken =>
        exact ⟨lawful.latched _ _ _ taken raised, trivial, by simp [lawful.inside _ outside]⟩
      | nothing => exact ⟨raised, trivial, by simp⟩
      | rest looks => exact ⟨(lawful.shown _ _).trans raised, trivial, by simp [looks]⟩) raised
  exact ⟨up, bound⟩

/-- Once the flag is up, a bound on the steps left that each further step lowers bounds them, with what the step in
progress may leave behind. -/
theorem Lawful.winds_down (lawful : process.Lawful) (holds : S × Bool → Prop) (remaining most : S → Nat)
    (kept : ∀ p label q, process.Step p label q → holds p → holds q)
    (lowers : ∀ s label t, process.step s label t → process.flag s = true →
      remaining t + (if process.own label then 1 else 0) ≤ remaining s)
    (steady : ∀ s label t, process.step s label t → process.outside label = true → most t ≤ most s)
    (nothing : ∀ s, holds (s, false) → process.waits s = true → remaining s ≤ most s)
    (rest : ∀ s label t, holds (process.setFlag true t, false) → process.looks label = true →
      process.step (process.setFlag false s) label t → remaining (process.setFlag true t) ≤ most s)
    {labels : List (Option L)} {p q : S × Bool} (onward : Trace (· = p) process.Step labels q)
    (raised : process.flag p.1 = true) (now : holds p) :
    labels.countP (·.any process.further) ≤ if p.2 then most p.1 else remaining p.1 := by
  obtain ⟨_, _, bound⟩ := onward.countdown (fun p => process.flag p.1 = true ∧ holds p) (fun _ => True)
    (fun p => if p.2 then most p.1 else remaining p.1) (·.any process.further) (fun p label q taken before => by
      obtain ⟨raised, before⟩ := before
      have after := kept _ _ _ taken before
      cases taken with
      | @whole s label t looks taken =>
        have lower := lowers _ _ _ taken raised
        refine ⟨⟨lawful.latched _ _ _ taken raised, after⟩, trivial, ?_⟩
        simpa [further, looks] using lower
      | look looks taken => exact absurd raised (by simp [(lawful.looking _ _ _ taken looks).1])
      | @meanwhile s label t outside taken =>
        refine ⟨⟨lawful.latched _ _ _ taken raised, after⟩, trivial, ?_⟩
        simpa [further, own, outside] using steady _ _ _ taken outside
      | nothing waits => exact ⟨⟨raised, after⟩, trivial, by simpa using nothing _ after waits⟩
      | @rest s label t looks taken =>
        dsimp only at raised
        rw [raised] at after ⊢
        refine ⟨⟨lawful.shown _ _, after⟩, trivial, ?_⟩
        simpa [further, looks] using rest _ _ _ after looks taken) ⟨raised, now⟩
  omega

end Interruptible
