import Qrmci.Standalone
import Qrmci.Lib.Placement

namespace Qrmci

variable {S : Type}

/-- The part of the standalone daemon that says where every consumed task is. -/
structure Ledger (S : Type) where
  scheduler : S
  consumed : List QuantumTask
  replies : List Reply
  executed : List (Nat × Bool)
  abandoned : List Nat

def StandaloneState.ledger (s : StandaloneState S) : Ledger S :=
  ⟨s.scheduler, s.history.consumed, s.history.replies, s.history.executed, s.history.abandoned⟩

/-- What may happen to the ledger: a new task is scheduled or refused at once, a scheduled task is
executed and answered, or it is abandoned without an answer. -/
inductive LedgerStep (bag : Bag S Ticket) (l : Ledger S) : Ledger S → Prop
  | same : LedgerStep bag l l
  | scheduled {task prepared : QuantumTask} : prepared.SameRequest task →
      LedgerStep bag l { l with
        scheduler := bag.put ⟨l.consumed.length, prepared⟩ l.scheduler
        consumed := l.consumed ++ [task] }
  | refused {task : QuantumTask} {send error} : send.Answers task → send.result.executionStatus = false →
      error.kind ≠ .shutdownRequested →
      LedgerStep bag l { l with
        consumed := l.consumed ++ [task]
        replies := ⟨l.consumed.length, send, some error⟩ :: l.replies }
  | answered {ticket rest} {send : ResultSend} {success : Bool} {failure : Option Error} :
      bag.take l.scheduler = some (ticket, rest) → send.Answers ticket.task →
      send.result.executionStatus = success →
      (∀ error, failure = some error → error.kind ≠ .shutdownRequested) →
      LedgerStep bag l { l with
        scheduler := rest
        replies := ⟨ticket.number, send, failure⟩ :: l.replies
        executed := (ticket.number, success) :: l.executed }
  | abandoned {ticket rest} : bag.take l.scheduler = some (ticket, rest) →
      LedgerStep bag l { l with
        scheduler := rest
        executed := (ticket.number, false) :: l.executed
        abandoned := ticket.number :: l.abandoned }

/-- Where a consumed task can be. -/
inductive LedgerPlace
  | scheduler | replied | abandoned
  deriving DecidableEq, Repr

def Ledger.content (bag : Bag S Ticket) (l : Ledger S) : LedgerPlace → Multiset Nat
  | .scheduler => (bag.content l.scheduler).map Ticket.number
  | .replied => l.replies.map Reply.ticket
  | .abandoned => l.abandoned

/-- What the ledger keeps: every consumed task in one place, scheduled tasks and replies true to
the task as consumed, and the status of each reply that of its execution. -/
structure LedgerOk (bag : Bag S Ticket) (l : Ledger S) : Prop where
  placed : PlacedOnce (· < l.consumed.length) (l.content bag)
  genuine : ∀ ticket ∈ bag.content l.scheduler, ticket.Genuine l.consumed
  answers : ∀ reply ∈ l.replies, reply.send.AnswersOne reply.ticket l.consumed
  status : ∀ reply ∈ l.replies,
    reply.send.result.executionStatus = true ↔ (reply.ticket, true) ∈ l.executed
  departed : ∀ number success, (number, success) ∈ l.executed →
    number < l.consumed.length ∧ number ∉ (bag.content l.scheduler).map Ticket.number
  failures : ∀ reply ∈ l.replies, ∀ error, reply.failure = some error → error.kind ≠ .shutdownRequested

variable {bag : Bag S Ticket} {l : Ledger S}

theorem LedgerOk.start (bag : Bag S Ticket) : LedgerOk bag ⟨bag.empty, [], [], [], []⟩ where
  placed := by
    refine ⟨fun _ live => absurd live (Nat.not_lt_zero _), ?_⟩
    intro token place member
    cases place <;> simp [Ledger.content, bag.content_empty] at member
  genuine := by simp [bag.content_empty]
  answers := by simp
  status := by simp
  departed := by simp
  failures := by simp

/-- Taking a ticket moves its number out of the scheduler; nothing else is taken with it. -/
theorem LedgerOk.taken (ok : LedgerOk bag l) {ticket : Ticket} {rest : S}
    (take : bag.take l.scheduler = some (ticket, rest)) :
    ticket ∈ bag.content l.scheduler ∧
      (bag.content l.scheduler).map Ticket.number = ticket.number ::ₘ (bag.content rest).map Ticket.number ∧
      ticket.number < l.consumed.length ∧ ticket.number ∉ (bag.content rest).map Ticket.number ∧
      ticket.number ∉ l.replies.map Reply.ticket ∧ ∀ success, (ticket.number, success) ∉ l.executed := by
  have split := bag.content_take _ _ _ take
  have member : ticket ∈ bag.content l.scheduler := by
    rw [split]
    exact Multiset.mem_cons_self ticket _
  have numbers : (bag.content l.scheduler).map Ticket.number =
      ticket.number ::ₘ (bag.content rest).map Ticket.number := by
    rw [split, Multiset.map_cons]
  have seen : ticket.number ∈ l.content bag .scheduler := Multiset.mem_map_of_mem _ member
  obtain ⟨single, elsewhere⟩ := ok.placed.count_eq_one seen
  refine ⟨member, numbers, ok.placed.only _ _ seen, ?_, ?_, ?_⟩
  · intro again
    have positive := Multiset.count_pos.mpr again
    change ((bag.content l.scheduler).map Ticket.number).count ticket.number = 1 at single
    rw [numbers, Multiset.count_cons_self] at single
    omega
  · intro replied
    exact elsewhere .replied nofun (by simpa [Ledger.content] using replied)
  · intro success executed
    exact (ok.departed _ _ executed).2 (Multiset.mem_map_of_mem _ member)

/-- A taken ticket has left the scheduler for good. -/
theorem LedgerOk.departed_taken (ok : LedgerOk bag l) {ticket : Ticket} {rest : S}
    (take : bag.take l.scheduler = some (ticket, rest)) (outcome : Bool) :
    ∀ number success, (number, success) ∈ (ticket.number, outcome) :: l.executed →
      number < l.consumed.length ∧ number ∉ (bag.content rest).map Ticket.number := by
  obtain ⟨_, numbers, bound, once, _, _⟩ := ok.taken take
  intro number success executed
  rcases List.mem_cons.mp executed with new | old
  · cases new
    exact ⟨bound, once⟩
  · obtain ⟨below, gone⟩ := ok.departed number success old
    rw [numbers, Multiset.mem_cons, not_or] at gone
    exact ⟨below, gone.2⟩

/-- A new task enters the ledger under the next number. -/
theorem LedgerOk.placed_enter (ok : LedgerOk bag l) {after : Ledger S} {task : QuantumTask} (target : LedgerPlace)
    (grown : after.consumed = l.consumed ++ [task])
    (entered : Entered (l.content bag) l.consumed.length target (after.content bag)) :
    PlacedOnce (· < after.consumed.length) (after.content bag) := by
  refine ok.placed.enter l.consumed.length target (Nat.lt_irrefl _) ?_ entered
  intro other
  simp only [grown, List.length_append, List.length_singleton]
  omega

theorem LedgerOk.scheduled (ok : LedgerOk bag l) {task prepared : QuantumTask} (same : prepared.SameRequest task) :
    LedgerOk bag { l with
      scheduler := bag.put ⟨l.consumed.length, prepared⟩ l.scheduler
      consumed := l.consumed ++ [task] } where
  placed := by
    refine ok.placed_enter .scheduler rfl ?_
    intro place
    cases place <;> simp [Ledger.content, bag.content_put, tokenAt, add_comm]
  genuine := by
    refine bag.forall_put ?_ ⟨task, by simp, same⟩
    intro ticket member
    exact (ok.genuine ticket member).append _
  answers := by
    intro reply member
    exact (ok.answers reply member).append _
  status := ok.status
  departed := by
    intro number success executed
    obtain ⟨bound, gone⟩ := ok.departed number success executed
    simp only [bag.content_put, Multiset.map_cons, Multiset.mem_cons, List.length_append, List.length_singleton]
    refine ⟨by omega, ?_⟩
    rintro (new | old)
    · omega
    · exact gone old
  failures := ok.failures

theorem LedgerOk.refused (ok : LedgerOk bag l) {task : QuantumTask} {send : ResultSend} {error : Error}
    (answers : send.Answers task) (status : send.result.executionStatus = false)
    (kind : error.kind ≠ .shutdownRequested) :
    LedgerOk bag { l with
      consumed := l.consumed ++ [task]
      replies := ⟨l.consumed.length, send, some error⟩ :: l.replies } where
  placed := by
    refine ok.placed_enter .replied rfl ?_
    intro place
    cases place <;> simp [Ledger.content, tokenAt, ← Multiset.cons_coe, ← Multiset.singleton_add, add_comm]
  genuine := by
    intro ticket member
    exact (ok.genuine ticket member).append _
  answers := by
    intro reply member
    rcases List.mem_cons.mp member with new | old
    · subst new
      exact ⟨task, by simp, answers⟩
    · exact (ok.answers reply old).append _
  status := by
    intro reply member
    rcases List.mem_cons.mp member with new | old
    · subst new
      simp only [status, Bool.false_eq_true, false_iff]
      intro executed
      have bound := (ok.departed _ _ executed).1
      exact Nat.lt_irrefl _ bound
    · exact ok.status reply old
  departed := by
    intro number success executed
    obtain ⟨bound, gone⟩ := ok.departed number success executed
    exact ⟨by simp only [List.length_append, List.length_singleton]; omega, gone⟩
  failures := by
    intro reply member
    rcases List.mem_cons.mp member with new | old
    · subst new
      rintro _ ⟨⟩
      exact kind
    · exact ok.failures reply old

theorem LedgerOk.answered (ok : LedgerOk bag l) {ticket : Ticket} {rest : S} {send : ResultSend} {success : Bool}
    {failure : Option Error} (take : bag.take l.scheduler = some (ticket, rest))
    (answers : send.Answers ticket.task) (status : send.result.executionStatus = success)
    (kind : ∀ error, failure = some error → error.kind ≠ .shutdownRequested) :
    LedgerOk bag { l with
      scheduler := rest
      replies := ⟨ticket.number, send, failure⟩ :: l.replies
      executed := (ticket.number, success) :: l.executed } := by
  obtain ⟨member, numbers, _, _, unanswered, unexecuted⟩ := ok.taken take
  exact {
    placed := by
      refine ok.placed.move ticket.number .scheduler .replied ?_
      intro place
      cases place <;>
        simp [Ledger.content, tokenAt, numbers, ← Multiset.cons_coe, ← Multiset.singleton_add, add_comm]
    genuine := (bag.forall_take ok.genuine take).2
    answers := by
      intro reply listed
      rcases List.mem_cons.mp listed with new | old
      · subst new
        exact (ok.genuine ticket member).answered answers
      · exact ok.answers reply old
    status := by
      intro reply listed
      rcases List.mem_cons.mp listed with new | old
      · subst new
        cases success <;> simp [status, unexecuted]
      · have different : reply.ticket ≠ ticket.number := by
          intro same
          exact unanswered (by rw [← same]; exact List.mem_map_of_mem old)
        rw [ok.status reply old]
        simp [different]
    departed := ok.departed_taken take _
    failures := by
      intro reply listed
      rcases List.mem_cons.mp listed with new | old
      · subst new
        exact kind
      · exact ok.failures reply old }

theorem LedgerOk.abandoned (ok : LedgerOk bag l) {ticket : Ticket} {rest : S}
    (take : bag.take l.scheduler = some (ticket, rest)) :
    LedgerOk bag { l with
      scheduler := rest
      executed := (ticket.number, false) :: l.executed
      abandoned := ticket.number :: l.abandoned } := by
  obtain ⟨_, numbers, _⟩ := ok.taken take
  exact {
    placed := by
      refine ok.placed.move ticket.number .scheduler .abandoned ?_
      intro place
      cases place <;>
        simp [Ledger.content, tokenAt, numbers, ← Multiset.cons_coe, ← Multiset.singleton_add, add_comm]
    genuine := (bag.forall_take ok.genuine take).2
    answers := ok.answers
    status := by
      intro reply listed
      rw [ok.status reply listed]
      simp
    departed := ok.departed_taken take _
    failures := ok.failures }

theorem LedgerOk.step (ok : LedgerOk bag l) {after : Ledger S} (step : LedgerStep bag l after) : LedgerOk bag after := by
  cases step with
  | same => exact ok
  | scheduled same => exact ok.scheduled same
  | refused answers status kind => exact ok.refused answers status kind
  | answered take answers status kind => exact ok.answered take answers status kind
  | abandoned take => exact ok.abandoned take

end Qrmci
