import Qrmci.Runners.Device

namespace Qrmci

/-- What the runners meet on their way: a reading of the termination flag, or a call with its answer. -/
inductive Event
  | flag (raised : Bool)
  | children (answer : Except SubmitterError (List Child))
  | submitJob (request : JobRequest) (placement : Placement) (answer : Except SubmitterError Job)
  | cancel (job : Job) (answer : Except SubmitterError Unit)
  | wait (job : Job) (answer : Except SubmitterError JobStatus)
  | counts (job : Job) (answer : Except SubmitterError Counts)
  | now (reading : Time)

def Event.isCall : Event → Bool
  | .flag _ => false
  | _ => true

/-- The calls among the events, in their order. -/
def calls (events : List Event) : List Event := events.filter Event.isCall

@[simp] theorem calls_nil : calls [] = [] := rfl

@[simp] theorem calls_append (events later : List Event) : calls (events ++ later) = calls events ++ calls later :=
  List.filter_append ..

@[simp] theorem calls_cons (event : Event) (rest : List Event) :
    calls (event :: rest) = if event.isCall then event :: calls rest else calls rest :=
  List.filter_cons

namespace Surroundings

variable {σ : Type}

/-- The surroundings give that answer in one state, and are in the other one afterwards. Reading the flag
leaves them as they are. -/
def Answers (around : Surroundings σ) (s : σ) (event : Event) (after : σ) : Prop :=
  match event with
  | .flag raised => around.terminationFlag s = raised ∧ after = s
  | .children answer => around.children s = (answer, after)
  | .submitJob request placement answer => around.submitJob request placement s = (answer, after)
  | .cancel job answer => around.cancel job s = (answer, after)
  | .wait job answer => around.wait job s = (answer, after)
  | .counts job answer => around.counts job s = (answer, after)
  | .now reading => around.now s = (reading, after)

/-- The surroundings give these answers one after the other. -/
def Plays (around : Surroundings σ) (s : σ) (events : List Event) (after : σ) : Prop :=
  match events with
  | [] => after = s
  | event :: rest => ∃ middle, around.Answers s event middle ∧ around.Plays middle rest after

/-- The same surroundings, with a record of the calls made to them. -/
def recorded (around : Surroundings σ) : Surroundings (σ × List Event) where
  terminationFlag s := around.terminationFlag s.1
  children s := ((around.children s.1).1, (around.children s.1).2, s.2 ++ [.children (around.children s.1).1])
  submitJob request placement s :=
    ((around.submitJob request placement s.1).1, (around.submitJob request placement s.1).2,
      s.2 ++ [.submitJob request placement (around.submitJob request placement s.1).1])
  cancel job s := ((around.cancel job s.1).1, (around.cancel job s.1).2, s.2 ++ [.cancel job (around.cancel job s.1).1])
  wait job s := ((around.wait job s.1).1, (around.wait job s.1).2, s.2 ++ [.wait job (around.wait job s.1).1])
  counts job s := ((around.counts job s.1).1, (around.counts job s.1).2, s.2 ++ [.counts job (around.counts job s.1).1])
  now s := ((around.now s.1).1, (around.now s.1).2, s.2 ++ [.now (around.now s.1).1])

section Recorded

variable (around : Surroundings σ) (s : σ) (log : List Event)

@[simp] theorem recorded_flag : around.recorded.terminationFlag (s, log) = around.terminationFlag s := rfl

@[simp] theorem recorded_children : around.recorded.children (s, log) =
    ((around.children s).1, (around.children s).2, log ++ [.children (around.children s).1]) := rfl

@[simp] theorem recorded_submitJob (request : JobRequest) (placement : Placement) :
    around.recorded.submitJob request placement (s, log) =
      ((around.submitJob request placement s).1, (around.submitJob request placement s).2,
        log ++ [.submitJob request placement (around.submitJob request placement s).1]) := rfl

@[simp] theorem recorded_cancel (job : Job) : around.recorded.cancel job (s, log) =
    ((around.cancel job s).1, (around.cancel job s).2, log ++ [.cancel job (around.cancel job s).1]) := rfl

@[simp] theorem recorded_wait (job : Job) : around.recorded.wait job (s, log) =
    ((around.wait job s).1, (around.wait job s).2, log ++ [.wait job (around.wait job s).1]) := rfl

@[simp] theorem recorded_counts (job : Job) : around.recorded.counts job (s, log) =
    ((around.counts job s).1, (around.counts job s).2, log ++ [.counts job (around.counts job s).1]) := rfl

@[simp] theorem recorded_now : around.recorded.now (s, log) =
    ((around.now s).1, (around.now s).2, log ++ [.now (around.now s).1]) := rfl

end Recorded

variable {around : Surroundings σ} {s middle after : σ}

theorem Plays.append {events later : List Event} (first : around.Plays s events middle)
    (second : around.Plays middle later after) : around.Plays s (events ++ later) after := by
  induction events generalizing s with
  | nil =>
    cases first
    exact second
  | cons event rest ih =>
    obtain ⟨next, answered, played⟩ := first
    exact ⟨next, answered, ih played⟩

end Surroundings

end Qrmci
