import Mathlib.Logic.Basic

/-- A program over a state, run with some amount of fuel. It returns a value, or `none` where the
fuel ended; the state is then the one it was cut off in. -/
def Program (σ α : Type) : Type := σ → Option α × σ

namespace Program

variable {σ α β : Type}

instance : Monad (Program σ) where
  pure value := fun s => (some value, s)
  bind program next := fun s =>
    match program s with
    | (none, t) => (none, t)
    | (some value, t) => next value t

/-- An action that always comes back. -/
def act (action : σ → α × σ) : Program σ α := fun s => (some (action s).1, (action s).2)

/-- An action that returns nothing. -/
def update (action : σ → σ) : Program σ Unit := fun s => (some (), action s)

/-- `while (!stop) body`, for as many turns as the fuel allows. -/
def loop (stop : Program σ Bool) (body : Program σ Unit) : Nat → Program σ Unit
  | 0 => fun s => (none, s)
  | turns + 1 => do
    if ← stop then return ()
    body
    loop stop body turns

/-- The outcome is a return where `post` holds of the value, or a cut where `cut` holds. -/
def Ends (post : α → σ → Prop) (cut : σ → Prop) : Option α × σ → Prop
  | (some value, t) => post value t
  | (none, t) => cut t

/-- Started where `pre` holds, the program returns where `post` holds of its value, or is cut off
where `cut` holds. -/
def Meets (pre : σ → Prop) (program : Program σ α) (post : α → σ → Prop) (cut : σ → Prop) : Prop :=
  ∀ s, pre s → Ends post cut (program s)

variable {pre before : σ → Prop} {program : Program σ α} {next : α → Program σ β} {post after : α → σ → Prop}
  {last : β → σ → Prop} {cut stopped : σ → Prop}

theorem Meets.pure {value : α} (returns : ∀ s, pre s → post value s) :
    Meets pre (Pure.pure value : Program σ α) post cut := returns

theorem Meets.act {action : σ → α × σ} (keeps : ∀ s, pre s → post (action s).1 (action s).2) :
    Meets pre (Program.act action) post cut := keeps

theorem Meets.update {action : σ → σ} {target : σ → Prop} (keeps : ∀ s, pre s → target (action s)) :
    Meets pre (Program.update action) (fun _ => target) cut := keeps

theorem Meets.bind (first : Meets pre program post cut) (second : ∀ value, Meets (post value) (next value) last cut) :
    Meets pre (program >>= next) last cut := by
  intro s holds
  have ended := first s holds
  change Ends last cut (match program s with
    | (none, t) => (none, t)
    | (some value, t) => next value t)
  cases ran : program s with
  | mk outcome t =>
    rw [ran] at ended
    cases outcome with
    | none => exact ended
    | some value => exact second value t ended

theorem Meets.weaken (meets : Meets pre program post stopped) (stronger : ∀ s, before s → pre s)
    (weaker : ∀ value s, post value s → after value s) (cuts : ∀ s, stopped s → cut s) :
    Meets before program after cut := by
  intro s holds
  have ended := meets s (stronger s holds)
  cases ran : program s with
  | mk outcome t =>
    rw [ran] at ended
    cases outcome with
    | none => exact cuts t ended
    | some value => exact weaker value t ended

/-- The invariant of a loop: it holds whenever the condition is read. -/
theorem Meets.loop {stop : Program σ Bool} {body : Program σ Unit} {head inside done : σ → Prop}
    (reads : Meets head stop (fun stopped s => (stopped = true → done s) ∧ (stopped = false → inside s)) cut)
    (turn : Meets inside body (fun _ => head) cut) (unfinished : ∀ s, head s → cut s) (turns : Nat) :
    Meets head (Program.loop stop body turns) (fun _ => done) cut := by
  induction turns with
  | zero => exact unfinished
  | succ turns ih =>
    refine reads.bind ?_
    intro stopped
    cases stopped with
    | true => exact Meets.pure fun s read => read.1 rfl
    | false =>
      have goesOn : Meets inside (body >>= fun _ => Program.loop stop body turns) (fun _ => done) cut :=
        turn.bind fun _ => ih
      exact goesOn.weaken (fun s read => read.2 rfl) (fun _ _ holds => holds) fun _ holds => holds

/-- A program that always comes back is never cut off. -/
theorem Meets.returning (meets : Meets pre program post stopped) (returns : ∀ s, pre s → (program s).1 ≠ none) :
    Meets pre program post cut := by
  intro s holds
  have ended := meets s holds
  have back := returns s holds
  cases ran : program s with
  | mk outcome t =>
    rw [ran] at ended back
    cases outcome with
    | none => exact absurd rfl back
    | some value => exact ended

/-- Whole turns of `while (!stop) body`: before each the condition is read as unset, and the body returns. -/
inductive Turns (stop : Program σ Bool) (body : Program σ Unit) : Nat → σ → σ → Prop
  | none (s : σ) : Turns stop body 0 s s
  | next {turns : Nat} {s t u v : σ} : stop s = (some false, t) → body t = (some (), u) → Turns stop body turns u v →
      Turns stop body (turns + 1) s v

section Unfolding

variable {stop : Program σ Bool} {body : Program σ Unit} {turns : Nat} {s t u : σ}

theorem loop_stops (read : stop s = (some true, t)) : loop stop body (turns + 1) s = (some (), t) := by
  simp only [loop, bind, read]
  rfl

theorem loop_turn (read : stop s = (some false, t)) (ran : body t = (some (), u)) :
    loop stop body (turns + 1) s = loop stop body turns u := by
  have goesOn : loop stop body (turns + 1) s = (body >>= fun _ => loop stop body turns) t := by
    simp only [loop, bind, read]
    rfl
  rw [goesOn]
  simp only [bind, ran]

end Unfolding

/-- A loop whose turns always end is cut off only between two of them, after as many as it has fuel for. -/
theorem loop_turns {stop : Program σ Bool} {body : Program σ Unit} {head inside : σ → Prop}
    (reads : Meets head stop (fun stopped s => stopped = false → inside s) fun _ => False)
    (turn : Meets inside body (fun _ => head) fun _ => False) (turns : Nat) (s : σ) (holds : head s) :
    ∃ completed t, Turns stop body completed s t ∧ head t ∧
      (completed = turns ∧ loop stop body turns s = (none, t) ∨
        completed < turns ∧ ∃ u, stop t = (some true, u) ∧ loop stop body turns s = (some (), u)) := by
  induction turns generalizing s with
  | zero => exact ⟨0, s, .none s, holds, Or.inl ⟨rfl, rfl⟩⟩
  | succ turns ih =>
    have checked := reads s holds
    rcases read : stop s with ⟨_ | _ | _, t⟩
    · rw [read] at checked
      exact checked.elim
    · rw [read] at checked
      have ended := turn t (checked rfl)
      rcases ran : body t with ⟨_ | _, u⟩
      · rw [ran] at ended
        exact ended.elim
      · rw [ran] at ended
        rw [loop_turn read ran]
        obtain ⟨completed, v, whole, stays, ends⟩ := ih u ended
        refine ⟨completed + 1, v, .next read ran whole, stays, ?_⟩
        rcases ends with ⟨all, cutOff⟩ | ⟨fewer, stopped⟩
        · exact Or.inl ⟨by omega, cutOff⟩
        · exact Or.inr ⟨by omega, stopped⟩
    · exact ⟨0, s, .none s, holds, Or.inr ⟨by omega, t, read, loop_stops read⟩⟩

end Program
