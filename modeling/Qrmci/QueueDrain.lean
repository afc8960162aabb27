import Qrmci.CommunicationHandler

namespace Qrmci

variable {σ M : Type}

/-- One receive, whose message goes to the handler. -/
def receiveNext (messenger : Messenger σ M) (queueName : String) (timeout : Int) (handle : M → σ → σ) (polls : Nat)
    (s : σ) : Option Bool × σ :=
  match receive messenger queueName timeout polls s with
  | (none, s) => (none, s)
  | (some (.error _), s) => (some false, s)
  | (some (.ok none), s) => (some false, s)
  | (some (.ok (some message)), s) => (some true, handle message s)

/-- The loop of a drain that has handled a message or not, for as many turns as the fuel allows. Each turn
polls once. -/
def drainTurns (messenger : Messenger σ M) (queueName : String) (handle : M → σ → σ) (handledAny : Bool) :
    Nat → σ → Option Bool × σ
  | 0, s => (none, s)
  | turns + 1, s =>
    match receiveNext messenger queueName 0 handle 1 s with
    | (none, s) => (none, s)
    | (some true, s) => drainTurns messenger queueName handle true turns s
    | (some false, s) => (some handledAny, s)

def drainQueue (messenger : Messenger σ M) (queueName : String) (handle : M → σ → σ) (turns : Nat) (s : σ) :
    Option Bool × σ :=
  drainTurns messenger queueName handle false turns s

/-- The handler, with a record of the messages it gets. -/
def recordedHandle (handle : M → σ → σ) (message : M) (s : σ × List (Contact M)) : σ × List (Contact M) :=
  (handle message s.1, s.2 ++ [.handle message])

/-- What a drain looks like, over so many turns at most. -/
inductive DrainTrace (queueName : String) : Nat → Bool → List (Contact M) → Option Bool → Prop
  | unfinished (handledAny : Bool) : DrainTrace queueName 0 handledAny [] none
  | finished (turns : Nat) (handledAny : Bool) {events : List (Contact M)} {result : Except Error (Option M)} :
      ReceiveTrace queueName 0 events (some result) → (∀ message, result ≠ .ok (some message)) →
      DrainTrace queueName (turns + 1) handledAny events (some handledAny)
  | next (handledAny : Bool) {turns : Nat} {message : M} {events rest : List (Contact M)} {result : Option Bool} :
      ReceiveTrace queueName 0 events (some (.ok (some message))) → DrainTrace queueName turns true rest result →
      DrainTrace queueName (turns + 1) handledAny (events ++ .handle message :: rest) result

/-- What one turn of a drain can do, plain and recorded: it hands over a message, or there is none. -/
theorem drain_turn (messenger : Messenger σ M) (queueName : String) (handle : M → σ → σ) (s : σ)
    (log : List (Contact M)) :
    (∃ message events after, ReceiveTrace queueName 0 events (some (.ok (some message))) ∧
      receiveNext messenger queueName 0 handle 1 s = (some true, handle message after) ∧
      receiveNext messenger.recorded queueName 0 (recordedHandle handle) 1 (s, log) =
        (some true, handle message after, log ++ (events ++ [.handle message]))) ∨
    ∃ result events after, ReceiveTrace queueName 0 events (some result) ∧ (∀ message, result ≠ .ok (some message)) ∧
      receiveNext messenger queueName 0 handle 1 s = (some false, after) ∧
      receiveNext messenger.recorded queueName 0 (recordedHandle handle) 1 (s, log) =
        (some false, after, log ++ events) := by
  obtain ⟨result, after, events, plain, record, trace, waits⟩ := receive_recorded messenger queueName 0 1 s log
  cases result with
  | none =>
    obtain ⟨_, empty | forever⟩ := waits rfl
    · cases empty
    · cases forever
  | some result =>
    cases result with
    | error error =>
      right
      refine ⟨.error error, events, after, trace, by simp, ?_, ?_⟩
      · simp only [receiveNext, plain]
      · simp only [receiveNext, record]
    | ok message =>
      cases message with
      | none =>
        right
        refine ⟨.ok none, events, after, trace, by simp, ?_, ?_⟩
        · simp only [receiveNext, plain]
        · simp only [receiveNext, record]
      | some message =>
        left
        refine ⟨message, events, after, trace, ?_, ?_⟩
        · simp only [receiveNext, plain]
        · simp only [receiveNext, record, recordedHandle, List.append_assoc]

/-- A drain, plain and recorded. -/
theorem drainTurns_recorded (messenger : Messenger σ M) (queueName : String) (handle : M → σ → σ) (handledAny : Bool)
    (turns : Nat) (s : σ) (log : List (Contact M)) :
    ∃ result after events, drainTurns messenger queueName handle handledAny turns s = (result, after) ∧
      drainTurns messenger.recorded queueName (recordedHandle handle) handledAny turns (s, log) =
        (result, after, log ++ events) ∧
      DrainTrace queueName turns handledAny events result := by
  induction turns generalizing handledAny s log with
  | zero => exact ⟨none, s, [], rfl, by simp [drainTurns], .unfinished handledAny⟩
  | succ turns ih =>
    rcases drain_turn messenger queueName handle s log with
      ⟨message, events, after, trace, plain, record⟩ | ⟨result, events, after, trace, empty, plain, record⟩
    · obtain ⟨result, final, rest, plainRest, recordRest, later⟩ :=
        ih true (handle message after) (log ++ (events ++ [.handle message]))
      refine ⟨result, final, _, ?_, ?_, .next handledAny trace later⟩
      · simp only [drainTurns, plain, plainRest]
      · simp only [drainTurns, record, recordRest, List.append_assoc, List.singleton_append]
    · refine ⟨some handledAny, after, events, ?_, ?_, .finished turns handledAny trace empty⟩
      · simp only [drainTurns, plain]
      · simp only [drainTurns, record]

/-- The contact after which a drain has nothing left to do: a flag that is set, or an attempt that times out or
fails. -/
def Contact.Ends : Contact M → Prop
  | flag raised => raised = true
  | attempt _ _ (.error _) => True
  | _ => False

/-- Nothing comes after such a contact. -/
def StopsAtEnd (events : List (Contact M)) : Prop :=
  ∀ index contact, events[index]? = some contact → contact.Ends → index + 1 = events.length

theorem StopsAtEnd.append {events later : List (Contact M)} (quiet : ∀ contact ∈ events, ¬ contact.Ends)
    (stops : StopsAtEnd later) : StopsAtEnd (events ++ later) := by
  intro index contact located ends
  rcases Nat.lt_or_ge index events.length with inside | beyond
  · rw [List.getElem?_append_left inside] at located
    exact absurd ends (quiet contact (List.mem_of_getElem? located))
  · rw [List.getElem?_append_right beyond] at located
    have last := stops _ contact located ends
    rw [List.length_append]
    omega

variable {queueName : String} {events : List (Contact M)} {message : M}

theorem ReceiveTrace.quiet (trace : ReceiveTrace queueName 0 events (some (.ok (some message)))) :
    ∀ contact ∈ events, ¬ contact.Ends := by
  cases trace with
  | delivered message acked => simp [Contact.Ends]
  | again _ _ forever _ => cases forever

theorem stopsAtEnd_singleton (contact : Contact M) : StopsAtEnd [contact] := by
  intro index other located _
  cases index with
  | zero => rfl
  | succ index => cases located

theorem ReceiveTrace.stops {result : Except Error (Option M)} (trace : ReceiveTrace queueName 0 events (some result))
    (none : ∀ message, result ≠ .ok (some message)) : StopsAtEnd events := by
  have unset : ∀ contact ∈ [(Contact.flag false : Contact M)], ¬ contact.Ends := by simp [Contact.Ends]
  cases trace with
  | stopped => exact stopsAtEnd_singleton _
  | delivered message acked => exact absurd rfl (none message)
  | failed status other => exact (stopsAtEnd_singleton _).append unset
  | expired status timedOut bounded => exact (stopsAtEnd_singleton _).append unset
  | again _ _ forever _ => cases forever

/-- Receiving does not run the handler. -/
theorem ReceiveTrace.unhandled {timeout : Int} {result : Option (Except Error (Option M))}
    (trace : ReceiveTrace queueName timeout events result) : handled events = [] := by
  induction trace with
  | waiting => rfl
  | stopped => rfl
  | delivered => rfl
  | failed => rfl
  | expired => rfl
  | again _ _ _ _ ih => exact ih

/-- What the handler gets of what a drain takes from the transport, and where the drain ends. -/
structure SoundDrain (queueName : String) (turns : Nat) (events : List (Contact M)) (result : Option Bool) : Prop where
  asked : Asks queueName 0 events
  handled : handled events = deliveries events
  acked : acks events = deliveries events
  guarded : Guarded events
  stops : StopsAtEnd events
  returned : ∀ handledAny, result = some handledAny → (handledAny = true ↔ Qrmci.handled events ≠ []) ∧
    ∃ contact, events.getLast? = some contact ∧ contact.Ends
  unfinished : result = none → (deliveries events).length = turns

section Turn

variable (events rest : List (Contact M)) (message : M)

theorem deliveries_turn : deliveries (events ++ .handle message :: rest) = deliveries events ++ deliveries rest :=
  List.filterMap_append

theorem acks_turn : acks (events ++ .handle message :: rest) = acks events ++ acks rest :=
  List.filterMap_append

theorem handled_turn : handled (events ++ .handle message :: rest) = handled events ++ message :: handled rest :=
  List.filterMap_append

end Turn

theorem DrainTrace.asks {turns : Nat} {handledAny : Bool} {result : Option Bool}
    (trace : DrainTrace queueName turns handledAny events result) : Asks queueName 0 events := by
  induction trace with
  | unfinished => simp [Asks]
  | finished turns handledAny trace => exact trace.asks
  | next handledAny trace later ih =>
    intro asked waited outcome member
    rcases List.mem_append.mp member with first | rest
    · exact trace.asks asked waited outcome first
    · rcases List.mem_cons.mp rest with handled | onward
      · cases handled
      · exact ih asked waited outcome onward

/-- A drain that returns has met one of the contacts that end it. -/
theorem DrainTrace.ended {turns : Nat} {handledAny : Bool} {result : Option Bool}
    (trace : DrainTrace queueName turns handledAny events result) (returned : result ≠ none) :
    ∃ contact, events.getLast? = some contact ∧ contact.Ends := by
  induction trace with
  | unfinished => exact absurd rfl returned
  | finished turns handledAny trace none =>
    cases trace with
    | stopped => exact ⟨_, rfl, rfl⟩
    | delivered message acked => exact absurd rfl (none message)
    | failed status other => exact ⟨_, rfl, trivial⟩
    | expired status timedOut bounded => exact ⟨_, rfl, trivial⟩
    | again _ _ forever _ => cases forever
  | next handledAny trace later ih =>
    obtain ⟨contact, last, ends⟩ := ih returned
    refine ⟨contact, ?_, ends⟩
    rw [List.getLast?_append, List.getLast?_cons, last]
    rfl

theorem DrainTrace.sound {turns : Nat} {handledAny : Bool} {result : Option Bool}
    (trace : DrainTrace queueName turns handledAny events result) :
    handled events = deliveries events ∧ acks events = deliveries events ∧ Guarded events ∧ StopsAtEnd events ∧
      (∀ returned, result = some returned → (returned = true ↔ handledAny = true ∨ handled events ≠ [])) ∧
      (result = none → (deliveries events).length = turns) := by
  induction trace with
  | unfinished handledAny =>
    refine ⟨rfl, rfl, guarded_of_silent rfl, ?_, ?_, fun _ => rfl⟩
    · intro index contact located
      cases located
    · intro returned same
      cases same
  | @finished turns handledAny events result trace none =>
    have sound := trace.sound
    have untaken : received (some result) = [] := by
      unfold received
      split
      · rename_i message same
        exact absurd (Option.some.inj same) (none message)
      · rfl
    rw [trace.unhandled, sound.acked, sound.taken, untaken]
    refine ⟨rfl, rfl, sound.guarded, trace.stops none, ?_, ?_⟩
    · rintro _ ⟨⟩
      simp
    · intro unfinished
      cases unfinished
  | @next handledAny turns message events rest result trace later ih =>
    obtain ⟨handed, acked, guarded, stops, returned, unfinished⟩ := ih
    have sound := trace.sound
    have turn : Guarded (events ++ .handle message :: rest) := by
      have handling : Guarded [Contact.handle message] := guarded_of_silent rfl
      exact sound.guarded.append (handling.append guarded)
    have quiet : ∀ contact ∈ [Contact.handle message], ¬ contact.Ends := by simp [Contact.Ends]
    have ends : StopsAtEnd (.handle message :: rest) := stops.append quiet
    rw [handled_turn, deliveries_turn, acks_turn, trace.unhandled, sound.taken, sound.acked, handed, acked]
    refine ⟨rfl, rfl, turn, ends.append trace.quiet, ?_, ?_⟩
    · intro value same
      have known := returned value same
      simpa using known
    · intro cut
      have count := unfinished cut
      simp only [received, List.length_append, List.length_singleton, count]
      omega

/-- Receiving and draining lose and duplicate nothing, whatever the transport delivers, whether acks go through,
and whenever the flag is set. -/
theorem receive_and_drain_exact (messenger : Messenger σ M) (queueName : String) (s : σ) :
    (∀ timeout polls, ∃ result after events,
      receive messenger queueName timeout polls s = (result, after) ∧
      receive messenger.recorded queueName timeout polls (s, []) = (result, after, events) ∧
      SoundReceive queueName timeout events result ∧
      (result = none → (attempts events).length = polls ∧ (polls = 0 ∨ timeout = WaitForever))) ∧
    ∀ handle turns, ∃ result after events,
      drainQueue messenger queueName handle turns s = (result, after) ∧
      drainQueue messenger.recorded queueName (recordedHandle handle) turns (s, []) = (result, after, events) ∧
      SoundDrain queueName turns events result := by
  refine ⟨?_, ?_⟩
  · intro timeout polls
    obtain ⟨result, after, events, plain, record, trace, waits⟩ := receive_recorded messenger queueName timeout polls s []
    exact ⟨result, after, events, plain, record, trace.sound, waits⟩
  · intro handle turns
    obtain ⟨result, after, events, plain, record, trace⟩ :=
      drainTurns_recorded messenger queueName handle false turns s []
    obtain ⟨handed, acked, guarded, stops, returned, unfinished⟩ := trace.sound
    refine ⟨result, after, events, plain, record, trace.asks, handed, acked, guarded, stops, ?_, unfinished⟩
    intro handledAny same
    refine ⟨by simpa using returned handledAny same, trace.ended ?_⟩
    simp [same]

end Qrmci
