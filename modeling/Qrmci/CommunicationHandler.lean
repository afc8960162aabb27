import Qrmci.Error
import Qrmci.Lib.DirectlyAfter

namespace Qrmci

/-- The status codes of the messaging library. Only a timeout is told apart. -/
inductive StatusCode
  | timeout
  | other (number : Nat)
  deriving DecidableEq, Repr

/-- A failure as the messaging library reports it. -/
structure Status where
  code : StatusCode
  reason : String
  deriving DecidableEq, Repr

/-- The transport, and the termination flag, which other threads may set between any two calls. -/
structure Messenger (σ M : Type) where
  terminationFlag : σ → Bool × σ
  receiveExtended : String → Int → σ → Except Status M × σ
  ack : M → σ → Except Status Unit × σ

/-- In milliseconds, as all timeouts here. -/
def DefaultReceiveTimeout : Int := 500

def WaitForever : Int := -1

/-- How long one attempt waits. -/
def pollInterval (timeout : Int) : Int := if timeout = WaitForever then DefaultReceiveTimeout else timeout

def receiveError (status : Status) : Error := ⟨.messagingFailed, "Receive error: " ++ status.reason⟩

variable {σ M : Type}

/-- The poll loop, for as many polls as the fuel allows; `none` means that it is still waiting. -/
def receive (messenger : Messenger σ M) (queueName : String) (timeout : Int) :
    Nat → σ → Option (Except Error (Option M)) × σ
  | 0, s => (none, s)
  | polls + 1, s =>
    match messenger.terminationFlag s with
    | (true, s) => (some (.ok none), s)
    | (false, s) =>
      match messenger.receiveExtended queueName (pollInterval timeout) s with
      | (.ok message, s) =>
        -- a failed ack is only logged
        (some (.ok (some message)), (messenger.ack message s).2)
      | (.error status, s) =>
        if status.code ≠ .timeout then (some (.error (receiveError status)), s)
        else if timeout = WaitForever then receive messenger queueName timeout polls s
        else (some (.ok none), s)

/-- What a receive or a drain does, one by one, with the answers it gets. -/
inductive Contact (M : Type)
  | flag (raised : Bool)
  | attempt (queueName : String) (wait : Int) (outcome : Except Status M)
  | ack (message : M) (outcome : Except Status Unit)
  | handle (message : M)

namespace Contact

def attempt? : Contact M → Option (Except Status M)
  | attempt _ _ outcome => some outcome
  | _ => none

def delivery? : Contact M → Option M
  | attempt _ _ (.ok message) => some message
  | _ => none

def ack? : Contact M → Option M
  | ack message _ => some message
  | _ => none

def handle? : Contact M → Option M
  | handle message => some message
  | _ => none

end Contact

/-- The outcomes of the attempts, in their order. -/
def attempts (events : List (Contact M)) : List (Except Status M) := events.filterMap Contact.attempt?

/-- The messages taken from the transport. -/
def deliveries (events : List (Contact M)) : List M := events.filterMap Contact.delivery?

def acks (events : List (Contact M)) : List M := events.filterMap Contact.ack?

/-- The messages the handler has got. -/
def handled (events : List (Contact M)) : List M := events.filterMap Contact.handle?

/-- Directly before each attempt the flag was read, and it was not set. -/
def Guarded (events : List (Contact M)) : Prop :=
  DirectlyAfter (· = .flag false) (fun contact => contact.attempt?.isSome = true) events

section Attempts

variable (rest : List (Contact M))

@[simp] theorem attempts_nil : attempts ([] : List (Contact M)) = [] := rfl

@[simp] theorem attempts_flag (raised : Bool) : attempts (.flag raised :: rest) = attempts rest := rfl

@[simp] theorem attempts_attempt (queueName : String) (wait : Int) (outcome : Except Status M) :
    attempts (.attempt queueName wait outcome :: rest) = outcome :: attempts rest := rfl

@[simp] theorem attempts_ack (message : M) (outcome : Except Status Unit) :
    attempts (.ack message outcome :: rest) = attempts rest := rfl

end Attempts

/-- The same messenger, with a record of all that is asked of it. -/
def Messenger.recorded (messenger : Messenger σ M) : Messenger (σ × List (Contact M)) M where
  terminationFlag s :=
    ((messenger.terminationFlag s.1).1, (messenger.terminationFlag s.1).2,
      s.2 ++ [.flag (messenger.terminationFlag s.1).1])
  receiveExtended queueName wait s :=
    ((messenger.receiveExtended queueName wait s.1).1, (messenger.receiveExtended queueName wait s.1).2,
      s.2 ++ [.attempt queueName wait (messenger.receiveExtended queueName wait s.1).1])
  ack message s :=
    ((messenger.ack message s.1).1, (messenger.ack message s.1).2, s.2 ++ [.ack message (messenger.ack message s.1).1])

/-- What a receive looks like, from its start to its end or to where it still waits. Before each attempt the
flag is read; after a timeout only an endless wait goes on. -/
inductive ReceiveTrace (queueName : String) (timeout : Int) :
    List (Contact M) → Option (Except Error (Option M)) → Prop
  | waiting : ReceiveTrace queueName timeout [] none
  | stopped : ReceiveTrace queueName timeout [.flag true] (some (.ok none))
  | delivered (message : M) (acked : Except Status Unit) : ReceiveTrace queueName timeout
      [.flag false, .attempt queueName (pollInterval timeout) (.ok message), .ack message acked]
      (some (.ok (some message)))
  | failed (status : Status) : status.code ≠ .timeout → ReceiveTrace queueName timeout
      [.flag false, .attempt queueName (pollInterval timeout) (.error status)] (some (.error (receiveError status)))
  | expired (status : Status) : status.code = .timeout → timeout ≠ WaitForever → ReceiveTrace queueName timeout
      [.flag false, .attempt queueName (pollInterval timeout) (.error status)] (some (.ok none))
  | again (status : Status) {rest : List (Contact M)} {result : Option (Except Error (Option M))} :
      status.code = .timeout → timeout = WaitForever → ReceiveTrace queueName timeout rest result →
      ReceiveTrace queueName timeout
        (.flag false :: .attempt queueName (pollInterval timeout) (.error status) :: rest) result

/-- A receive, plain and recorded. The record is the trace of what was done. Only an endless wait is still
waiting after a poll. -/
theorem receive_recorded (messenger : Messenger σ M) (queueName : String) (timeout : Int) (polls : Nat) (s : σ)
    (log : List (Contact M)) :
    ∃ result after events, receive messenger queueName timeout polls s = (result, after) ∧
      receive messenger.recorded queueName timeout polls (s, log) = (result, after, log ++ events) ∧
      ReceiveTrace queueName timeout events result ∧
      (result = none → (attempts events).length = polls ∧ (polls = 0 ∨ timeout = WaitForever)) := by
  induction polls generalizing s log with
  | zero => exact ⟨none, s, [], rfl, by simp [receive], .waiting, fun _ => ⟨rfl, Or.inl rfl⟩⟩
  | succ polls ih =>
    cases read : messenger.terminationFlag s with
    | mk raised checked =>
      cases raised with
      | true =>
        refine ⟨some (.ok none), checked, [.flag true], ?_, ?_, .stopped, by simp⟩
        · simp [receive, read]
        · simp [receive, Messenger.recorded, read]
      | false =>
        cases tried : messenger.receiveExtended queueName (pollInterval timeout) checked with
        | mk outcome taken =>
          cases outcome with
          | ok message =>
            refine ⟨some (.ok (some message)), (messenger.ack message taken).2, _, ?_, ?_,
              .delivered message (messenger.ack message taken).1, by simp⟩
            · simp [receive, read, tried]
            · simp [receive, Messenger.recorded, read, tried]
          | error status =>
            by_cases timedOut : status.code = .timeout
            · by_cases forever : timeout = WaitForever
              · obtain ⟨result, after, events, plain, record, trace, waits⟩ :=
                  ih taken (log ++ [.flag false, .attempt queueName (pollInterval timeout) (.error status)])
                refine ⟨result, after, _, ?_, ?_, .again status timedOut forever trace, ?_⟩
                · rw [← plain]
                  simp only [receive, read, tried, timedOut, ne_eq, not_true_eq_false, if_false, if_pos forever]
                · rw [List.append_assoc] at record
                  refine Eq.trans ?_ record
                  simp only [receive, Messenger.recorded, read, tried, timedOut, ne_eq, not_true_eq_false, if_false,
                    if_pos forever, List.append_assoc, List.singleton_append]
                · intro waiting
                  exact ⟨congrArg Nat.succ (waits waiting).1, Or.inr forever⟩
              · refine ⟨some (.ok none), taken, _, ?_, ?_, .expired status timedOut forever, by simp⟩
                · simp [receive, read, tried, timedOut, forever]
                · simp [receive, Messenger.recorded, read, tried, timedOut, forever]
            · refine ⟨some (.error (receiveError status)), taken, _, ?_, ?_, .failed status timedOut, by simp⟩
              · simp [receive, read, tried, timedOut]
              · simp [receive, Messenger.recorded, read, tried, timedOut]

/-- Every attempt asks for that queue, and waits for so long. -/
def Asks (queueName : String) (wait : Int) (events : List (Contact M)) : Prop :=
  ∀ asked waited outcome, .attempt asked waited outcome ∈ events → asked = queueName ∧ waited = wait

theorem ReceiveTrace.asks {queueName : String} {timeout : Int} {events : List (Contact M)}
    {result : Option (Except Error (Option M))} (trace : ReceiveTrace queueName timeout events result) :
    Asks queueName (pollInterval timeout) events := by
  induction trace with
  | waiting => simp [Asks]
  | stopped => simp [Asks]
  | delivered => simp +contextual [Asks]
  | failed => simp +contextual [Asks]
  | expired => simp +contextual [Asks]
  | again status timedOut forever later ih =>
    intro asked waited outcome member
    simp only [List.mem_cons, reduceCtorEq, Contact.attempt.injEq, false_or] at member
    rcases member with ⟨same, wait, _⟩ | earlier
    · exact ⟨same, wait⟩
    · exact ih asked waited outcome earlier

/-- The message of a receive that returned one. -/
def received : Option (Except Error (Option M)) → List M
  | some (.ok (some message)) => [message]
  | _ => []

/-- What a receive has asked of the transport, how often, and what it made of the answers. -/
structure SoundReceive (queueName : String) (timeout : Int) (events : List (Contact M))
    (result : Option (Except Error (Option M))) : Prop where
  asked : Asks queueName (pollInterval timeout) events
  once : timeout ≠ WaitForever → (attempts events).length ≤ 1
  repeats : ∀ outcome ∈ (attempts events).dropLast, ∃ status, outcome = .error status ∧ status.code = .timeout
  guarded : Guarded events
  message : ∀ message, result = some (.ok (some message)) ↔ .ok message ∈ attempts events
  taken : deliveries events = received result
  acked : acks events = received result
  error : ∀ error, result = some (.error error) ↔
    ∃ status, .error status ∈ attempts events ∧ status.code ≠ .timeout ∧ error = receiveError status
  empty : result = some (.ok none) ↔ .flag true ∈ events ∨
    timeout ≠ WaitForever ∧ ∃ status, .error status ∈ attempts events ∧ status.code = .timeout

variable {queueName : String} {timeout : Int} {events : List (Contact M)} {result : Option (Except Error (Option M))}

theorem guarded_of_silent (silent : attempts events = []) : Guarded events := by
  refine DirectlyAfter.of_none ?_
  intro contact member present
  obtain ⟨outcome, tried⟩ := Option.isSome_iff_exists.mp present
  have listed : outcome ∈ attempts events := List.mem_filterMap.mpr ⟨contact, member, tried⟩
  rw [silent] at listed
  cases listed

/-- A reading of the flag and the attempt after it, in front of what follows. -/
theorem guarded_attempt {wait : Int} {outcome : Except Status M} {rest : List (Contact M)} (later : Guarded rest) :
    Guarded (.flag false :: .attempt queueName wait outcome :: rest) := by
  have first : Guarded [.flag false, .attempt queueName wait outcome] :=
    DirectlyAfter.pair rfl (by simp [Contact.attempt?])
  exact first.append later

theorem ReceiveTrace.sound (trace : ReceiveTrace queueName timeout events result) :
    SoundReceive queueName timeout events result := by
  induction trace with
  | waiting =>
    exact ⟨ReceiveTrace.waiting.asks, by simp, by simp, guarded_of_silent rfl, by simp, rfl, rfl, by simp, by simp⟩
  | stopped =>
    exact ⟨ReceiveTrace.stopped.asks, by simp, by simp, guarded_of_silent rfl, by simp, rfl, rfl, by simp, by simp⟩
  | delivered message acked =>
    exact ⟨(ReceiveTrace.delivered message acked).asks, by simp, by simp, guarded_attempt (guarded_of_silent rfl),
      by simp [eq_comm], rfl, rfl, by simp, by simp⟩
  | failed status other =>
    refine ⟨(ReceiveTrace.failed status other).asks, by simp, by simp, guarded_attempt (guarded_of_silent rfl),
      by simp, rfl, rfl, ?_, by simp [other]⟩
    intro error
    constructor
    · rintro ⟨⟩
      exact ⟨status, List.mem_singleton_self _, other, rfl⟩
    · rintro ⟨_, tried, _, rfl⟩
      cases List.mem_singleton.mp tried
      rfl
  | expired status timedOut bounded =>
    exact ⟨(ReceiveTrace.expired status timedOut bounded).asks, by simp, by simp,
      guarded_attempt (guarded_of_silent rfl), by simp, rfl, rfl, by simp [timedOut], by simp [timedOut, bounded]⟩
  | @again status rest result timedOut forever later ih =>
    refine ⟨(ReceiveTrace.again status timedOut forever later).asks, fun bounded => absurd forever bounded, ?_,
      guarded_attempt ih.guarded, ?_, ih.taken, ih.acked, ?_, ?_⟩
    · intro outcome member
      rw [attempts_flag, attempts_attempt] at member
      cases tail : attempts rest with
      | nil =>
        rw [tail] at member
        cases member
      | cons next others =>
        rw [tail, List.dropLast_cons_cons, List.mem_cons, ← tail] at member
        rcases member with rfl | member
        · exact ⟨status, rfl, timedOut⟩
        · exact ih.repeats outcome member
    · intro message
      rw [ih.message]
      simp
    · intro error
      rw [ih.error]
      constructor
      · rintro ⟨other, tried, failed⟩
        exact ⟨other, List.mem_cons_of_mem _ tried, failed⟩
      · rintro ⟨other, tried, failed, text⟩
        rcases List.mem_cons.mp tried with same | tried
        · cases same
          exact absurd timedOut failed
        · exact ⟨other, tried, failed, text⟩
    · rw [ih.empty]
      simp [forever]

end Qrmci
