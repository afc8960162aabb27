import Qrmci.Lib.Program
import Qrmci.OwnDevice
import Qrmci.QueueDrain

namespace Qrmci

/-- What every daemon reaches outside itself: the flag that its signal handlers set, the steady
clock, the sleep between turns, its task messages and its result messages. Each call may answer
anything and move the state to any other. -/
structure Host (σ : Type) where
  terminationRequested : σ → Bool × σ
  now : σ → Time × σ
  sleepFor : Int64 → σ → σ
  tasks : Messenger σ QuantumTask
  sendResult : String → QuantumResult → σ → Except Status Unit × σ

/-- A selector also receives statuses and forwards tasks. -/
structure SelectorHost (σ : Type) extends Host σ where
  statuses : Messenger σ Backend
  sendTask : String → QuantumTask → σ → Except Status Unit × σ

/-- A daemon over a device opens it, reads it, compiles for it, executes on it and may publish its
status. An opened device is known by its ID; `compiler` is the compiler as it answers the calls of one
task. -/
structure DeviceHost (σ : Type) extends Host σ where
  openDevice : String → String → Option String → Option String → σ → Except SubmitterError String × σ
  around : Surroundings σ
  readDevice : σ → DeviceReading × σ
  compiler : σ → MQSSCompiler × σ
  sendStatus : String → Backend → σ → Except Status Unit × σ

/-- How a process ends. -/
inductive ExitCode
  | success | failure
  deriving DecidableEq, Repr

/-- What the flag and the clock show in a state, whether or not anybody reads them there. -/
structure HostView (σ : Type) where
  raised : σ → Bool
  clock : σ → Time

variable {σ V A M : Type}

/-- Nothing clears the flag, and the clock does not go back. -/
structure HostView.Later (view : HostView σ) (s t : σ) : Prop where
  latched : view.raised s = true → view.raised t = true
  clock : view.clock s ≤ view.clock t

/-- A reading of the flag: the value it has at some moment of the call. -/
structure HostView.Reads (view : HostView σ) (load : σ → Bool × σ) : Prop where
  later : ∀ s, view.Later s (load s).2
  raised : ∀ s, (load s).1 = true → view.raised (load s).2 = true
  lowered : ∀ s, (load s).1 = false → view.raised s = false

/-- A reading of the clock: the time at some moment of the call. -/
structure HostView.Shows (view : HostView σ) (now : σ → Time × σ) : Prop where
  later : ∀ s, view.Later s (now s).2
  after : ∀ s, view.clock s ≤ (now s).1
  before : ∀ s, (now s).1 ≤ view.clock (now s).2

structure Messenger.Lawful (messenger : Messenger σ M) (view : HostView σ) : Prop where
  flag : view.Reads messenger.terminationFlag
  receive : ∀ queueName wait s, view.Later s (messenger.receiveExtended queueName wait s).2
  ack : ∀ message s, view.Later s (messenger.ack message s).2

structure Host.Lawful (host : Host σ) (view : HostView σ) : Prop where
  flag : view.Reads host.terminationRequested
  now : view.Shows host.now
  sleep : ∀ interval s, view.Later s (host.sleepFor interval s)
  tasks : host.tasks.Lawful view
  sendResult : ∀ queueName result s, view.Later s (host.sendResult queueName result s).2

structure SelectorHost.Lawful (host : SelectorHost σ) (view : HostView σ) : Prop extends
    host.toHost.Lawful view where
  statuses : host.statuses.Lawful view
  sendTask : ∀ queueName task s, view.Later s (host.sendTask queueName task s).2

/-- Between two looks at the flag the device's calls may take any time. -/
structure DeviceHost.Lawful (host : DeviceHost σ) (view : HostView σ) : Prop extends host.toHost.Lawful view where
  shown : ∀ s, host.around.terminationFlag s = view.raised s
  children : ∀ s, view.Later s (host.around.children s).2
  submitJob : ∀ request placement s, view.Later s (host.around.submitJob request placement s).2
  cancel : ∀ job s, view.Later s (host.around.cancel job s).2
  wait : ∀ job s, view.Later s (host.around.wait job s).2
  counts : ∀ job s, view.Later s (host.around.counts job s).2
  elapsed : ∀ s, view.Later s (host.around.now s).2
  readDevice : ∀ s, view.Later s (host.readDevice s).2
  compiler : ∀ s, view.Later s (host.compiler s).2
  sendStatus : ∀ queueName status s, view.Later s (host.sendStatus queueName status s).2

/-- `CommunicationHandler::send`, for a kind of message with the label it has in errors. -/
def sendMessage (transport : String → M → σ → Except Status Unit × σ) (label : String) (message : M)
    (queueName : String) (s : σ) : Except Error Unit × σ :=
  match transport queueName message s with
  | (.ok (), t) => (.ok (), t)
  | (.error status, t) => (.error ⟨.messagingFailed, "Failed to send " ++ label ++ ": " ++ status.reason⟩, t)

def QuantumTask.messageLabel (task : QuantumTask) : String := "quantum task " ++ toString task.taskId

def QuantumResult.messageLabel (result : QuantumResult) : String := "quantum result for task " ++ toString result.taskId

def Backend.messageLabel (backend : Backend) : String := "backend status for backend " ++ backend.name

/-- The `send` of a work loop: a failure is only logged, and here returned as a refusal. -/
def sendLogged (transport : String → M → σ → Except Status Unit × σ) (label : String) (message : M)
    (queueName : String) (s : σ) : Bool × σ :=
  match sendMessage transport label message queueName s with
  | (.ok (), t) => (true, t)
  | (.error _, t) => (false, t)

theorem sendLogged_state (transport : String → M → σ → Except Status Unit × σ) (label : String) (message : M)
    (queueName : String) (s : σ) :
    (sendLogged transport label message queueName s).2 = (transport queueName message s).2 := by
  unfold sendLogged sendMessage
  split
  · rename_i delivered
    split at delivered
    · rename_i answered
      rw [answered]
      cases delivered
      rfl
    · cases delivered
  · rename_i refused
    split at refused
    · cases refused
    · rename_i answered
      rw [answered]
      cases refused
      rfl

namespace HostView.Later

variable {view : HostView σ} {s t u : σ}

theorem refl (view : HostView σ) (s : σ) : view.Later s s := ⟨id, le_refl _⟩

theorem trans (first : view.Later s t) (second : view.Later t u) : view.Later s u :=
  ⟨fun raised => second.latched (first.latched raised), le_trans first.clock second.clock⟩

end HostView.Later

instance (view : HostView σ) : IsPreorder σ view.Later where
  refl := .refl view
  trans _ _ _ := .trans

/-- The messenger of a process that keeps its variables beside the state of the world. -/
def Messenger.beside (messenger : Messenger σ M) (V : Type) : Messenger (σ × V) M where
  terminationFlag p := ((messenger.terminationFlag p.1).1, (messenger.terminationFlag p.1).2, p.2)
  receiveExtended queueName wait p :=
    ((messenger.receiveExtended queueName wait p.1).1, (messenger.receiveExtended queueName wait p.1).2, p.2)
  ack message p := ((messenger.ack message p.1).1, (messenger.ack message p.1).2, p.2)

/-- Messages in memory, handed out by `take`. -/
def Messenger.scripted (flag : σ → Bool) (take : σ → Option (M × σ)) : Messenger σ M where
  terminationFlag s := (flag s, s)
  receiveExtended _ _ s :=
    match take s with
    | none => (.error ⟨.timeout, "no message"⟩, s)
    | some (message, rest) => (.ok message, rest)
  ack _ s := (.ok (), s)

theorem Messenger.scripted_lawful {flag : σ → Bool} {take : σ → Option (M × σ)}
    (keeps : ∀ s message rest, take s = some (message, rest) → flag rest = flag s) :
    (Messenger.scripted flag take).Lawful ⟨flag, fun _ => 0⟩ where
  flag := ⟨fun s => .refl _ s, fun _ set => set, fun _ unset => unset⟩
  receive queueName wait s := by
    simp only [Messenger.scripted]
    split
    · exact .refl _ s
    · rename_i message rest taken
      exact ⟨fun set => (keeps s message rest taken).trans set, le_refl _⟩
  ack _ s := .refl _ s

section Receiving

/-- What is kept while a process receives: `idle` when it is about to look at the flag, `lowered` from a
reading of the flag as unset to the end of the attempt. -/
structure Messenger.Carries (messenger : Messenger σ M) (idle lowered : σ → Prop) : Prop where
  raised : ∀ s, idle s → (messenger.terminationFlag s).1 = true → idle (messenger.terminationFlag s).2
  lowers : ∀ s, idle s → (messenger.terminationFlag s).1 = false → lowered (messenger.terminationFlag s).2
  received : ∀ queueName wait s, lowered s → lowered (messenger.receiveExtended queueName wait s).2
  acked : ∀ message s, lowered s → lowered (messenger.ack message s).2
  idles : ∀ s, lowered s → idle s

variable {messenger : Messenger σ M} {idle lowered after : σ → Prop} {handle : M → σ → σ}

theorem receive_meets (carries : messenger.Carries idle lowered) (queueName : String) (timeout : Int) (polls : Nat) :
    Program.Meets idle (receive messenger queueName timeout polls)
      (fun result s => idle s ∧ ∀ message, result = .ok (some message) → lowered s) idle := by
  induction polls with
  | zero => exact fun s holds => holds
  | succ polls ih =>
    intro s holds
    have raised := carries.raised s holds
    have lowers := carries.lowers s holds
    cases read : messenger.terminationFlag s with
    | mk flag checked =>
      rw [read] at raised lowers
      cases flag with
      | true =>
        simp only [receive, read]
        exact ⟨raised rfl, by simp⟩
      | false =>
        have attempted := carries.received queueName (pollInterval timeout) checked (lowers rfl)
        cases tried : messenger.receiveExtended queueName (pollInterval timeout) checked with
        | mk outcome taken =>
          rw [tried] at attempted
          cases outcome with
          | ok message =>
            have settled := carries.acked message taken attempted
            simp only [receive, read, tried]
            exact ⟨carries.idles _ settled, fun _ _ => settled⟩
          | error status =>
            have missed := carries.idles taken attempted
            by_cases timedOut : status.code = .timeout
            · by_cases forever : timeout = WaitForever
              · simp only [receive, read, tried, timedOut, ne_eq, not_true_eq_false, if_false, if_pos forever]
                exact ih taken missed
              · simp only [receive, read, tried, timedOut, ne_eq, not_true_eq_false, if_false, if_neg forever]
                exact ⟨missed, by simp⟩
            · simp only [receive, read, tried, ne_eq, timedOut, not_false_eq_true, if_true]
              exact ⟨missed, by simp⟩

/-- The handler runs where the flag was last read as unset. -/
theorem receiveNext_meets (carries : messenger.Carries idle lowered)
    (handles : ∀ message s, lowered s → after (handle message s)) (queueName : String) (timeout : Int) (polls : Nat) :
    Program.Meets idle (receiveNext messenger queueName timeout handle polls)
      (fun received s => (received = true → after s) ∧ (received = false → idle s)) idle := by
  intro s holds
  have ended := receive_meets carries queueName timeout polls s holds
  cases ran : receive messenger queueName timeout polls s with
  | mk outcome t =>
    rw [ran] at ended
    simp only [receiveNext, ran]
    rcases outcome with _ | error | _ | message
    · exact ended
    · exact ⟨by simp, fun _ => ended.1⟩
    · exact ⟨by simp, fun _ => ended.1⟩
    · exact ⟨fun _ => handles message t (ended.2 message rfl), by simp⟩

theorem drainTurns_meets (carries : messenger.Carries idle lowered)
    (handles : ∀ message s, lowered s → idle (handle message s)) (queueName : String) (handledAny : Bool) (turns : Nat) :
    Program.Meets idle (drainTurns messenger queueName handle handledAny turns) (fun _ => idle) idle := by
  induction turns generalizing handledAny with
  | zero => exact fun s holds => holds
  | succ turns ih =>
    intro s holds
    have ended := receiveNext_meets carries handles queueName 0 1 s holds
    cases ran : receiveNext messenger queueName 0 handle 1 s with
    | mk outcome t =>
      rw [ran] at ended
      simp only [drainTurns, ran]
      rcases outcome with _ | _ | _
      · exact ended
      · exact ended.2 rfl
      · exact ih true t (ended.1 rfl)

theorem drainQueue_meets (carries : messenger.Carries idle lowered)
    (handles : ∀ message s, lowered s → idle (handle message s)) (queueName : String) (turns : Nat) :
    Program.Meets idle (drainQueue messenger queueName handle turns) (fun _ => idle) idle :=
  drainTurns_meets carries handles queueName false turns

end Receiving

section Following

/-- A model state that goes with the variables of a process and lags behind the world: its clock and
its flag show nothing that has not come about. With `lowered` its flag is not set. -/
def Follows (view : HostView σ) (shown : HostView A) (model : A → V → Prop) (lowered : Bool) (p : σ × V) : Prop :=
  ∃ a, model a p.2 ∧ shown.clock a ≤ view.clock p.1 ∧ (shown.raised a = true → view.raised p.1 = true) ∧
    (lowered = true → shown.raised a = false)

variable {view : HostView σ} {shown : HostView A} {model other : A → V → Prop} {lowered : Bool} {s t : σ} {v w : V}

namespace Follows

theorem intro {a : A} (goes : model a v) (clock : shown.clock a ≤ view.clock s)
    (flag : shown.raised a = true → view.raised s = true) : Follows view shown model false (s, v) :=
  ⟨a, goes, clock, flag, fun low => by cases low⟩

/-- The world may go on without the process. -/
theorem later (follows : Follows view shown model lowered (s, v)) (step : view.Later s t) :
    Follows view shown model lowered (t, v) := by
  obtain ⟨a, goes, clock, flag, unset⟩ := follows
  exact ⟨a, goes, le_trans clock step.clock, fun set => step.latched (flag set), unset⟩

theorem forget (follows : Follows view shown model lowered (s, v)) : Follows view shown model false (s, v) := by
  obtain ⟨a, goes, clock, flag, _⟩ := follows
  exact .intro goes clock flag

/-- A flag that is not set now has not been set before. -/
theorem lower (follows : Follows view shown model lowered (s, v)) (unset : view.raised s = false) :
    Follows view shown model true (s, v) := by
  obtain ⟨a, goes, clock, flag, _⟩ := follows
  refine ⟨a, goes, clock, flag, ?_⟩
  intro _
  by_contra set
  rw [flag (by simpa using set)] at unset
  cases unset

/-- A step of the model that leaves the flag and the clock alone. -/
theorem step (follows : Follows view shown model lowered (s, v))
    (takes : ∀ a, model a v → (lowered = true → shown.raised a = false) →
      ∃ b, other b w ∧ shown.raised b = shown.raised a ∧ shown.clock b = shown.clock a) :
    Follows view shown other lowered (s, w) := by
  obtain ⟨a, goes, clock, flag, unset⟩ := follows
  obtain ⟨b, reached, sameFlag, sameClock⟩ := takes a goes unset
  exact ⟨b, reached, by rw [sameClock]; exact clock, by rw [sameFlag]; exact flag, by rw [sameFlag]; exact unset⟩

/-- A step of the model that reads the clock: the model lets time pass up to the reading first. -/
theorem stepAt {now : σ → Time × σ} (follows : Follows view shown model lowered (s, v)) (showing : view.Shows now)
    (passes : ∀ a time, model a v → shown.clock a ≤ time →
      ∃ b, model b v ∧ shown.raised b = shown.raised a ∧ shown.clock b = time)
    (takes : ∀ a, model a v → (lowered = true → shown.raised a = false) → shown.clock a = (now s).1 →
      ∃ b, other b w ∧ shown.raised b = shown.raised a ∧ shown.clock b = shown.clock a) :
    Follows view shown other lowered ((now s).2, w) := by
  obtain ⟨a, goes, clock, flag, unset⟩ := follows
  obtain ⟨b, passed, sameFlag, atTime⟩ := passes a (now s).1 goes (le_trans clock (showing.after s))
  have unsetThen : lowered = true → shown.raised b = false := by
    rw [sameFlag]
    exact unset
  obtain ⟨c, reached, thenFlag, thenClock⟩ := takes b passed unsetThen atTime
  refine ⟨c, reached, ?_, ?_, ?_⟩
  · rw [thenClock, atTime]
    exact showing.before s
  · intro set
    rw [thenFlag, sameFlag] at set
    exact (showing.later s).latched (flag set)
  · intro low
    rw [thenFlag]
    exact unsetThen low

/-- A model that has caught up with the flag. -/
theorem caughtUp (follows : Follows view shown model lowered (s, v))
    (signals : ∀ a, model a v → ∃ b, model b v ∧ shown.raised b = true ∧ shown.clock b = shown.clock a) :
    ∃ a, model a v ∧ shown.clock a ≤ view.clock s ∧ shown.raised a = view.raised s := by
  obtain ⟨a, goes, clock, flag, _⟩ := follows
  cases now : view.raised s with
  | true =>
    obtain ⟨b, signalled, set, sameClock⟩ := signals a goes
    exact ⟨b, signalled, by rw [sameClock]; exact clock, set⟩
  | false =>
    refine ⟨a, goes, clock, ?_⟩
    by_contra set
    rw [flag (by simpa using set)] at now
    cases now

end Follows

/-- A lawful messenger carries whatever the model does. -/
theorem Messenger.Lawful.carries {messenger : Messenger σ M} (lawful : messenger.Lawful view)
    (shown : HostView A) (model : A → V → Prop) :
    (messenger.beside V).Carries (Follows view shown model false) (Follows view shown model true) where
  raised p follows _ := follows.later (lawful.flag.later p.1)
  lowers p follows read := (follows.lower (lawful.flag.lowered p.1 read)).later (lawful.flag.later p.1)
  received queueName wait p follows := follows.later (lawful.receive queueName wait p.1)
  acked message p follows := follows.later (lawful.ack message p.1)
  idles _ follows := follows.forget

/-- A read of the flag between two steps of a daemon. -/
theorem HostView.Reads.meets {load : σ → Bool × σ} {cut : σ × V → Prop} (reads : view.Reads load) :
    Program.Meets (Follows view shown model false) (Program.act fun p => ((load p.1).1, (load p.1).2, p.2))
      (fun set p => (set = true → Follows view shown model false p ∧ view.raised p.1 = true) ∧
        (set = false → Follows view shown model true p)) cut := by
  refine Program.Meets.act ?_
  intro p follows
  refine ⟨?_, ?_⟩
  · intro set
    exact ⟨follows.later (reads.later p.1), reads.raised p.1 set⟩
  · intro unset
    exact (follows.lower (reads.lowered p.1 unset)).later (reads.later p.1)

end Following

end Qrmci
