import Qrmci.Selector

namespace Qrmci

/-- What can reach the selector's registry, in any order: a received status, an expiry, or a task,
which only reads it. -/
inductive SelectorEvent
  | status (message : Backend) (now : Time)
  | expire (now : Time)
  | task (task : QuantumTask)
  deriving DecidableEq, Repr

def SelectorEvent.apply (build : ProtocolBuild) (availableBackends : BackendRegistry) :
    SelectorEvent → BackendRegistry
  | .status message now => (handleStatus build availableBackends message now).2
  | .expire now => (availableBackends.expire now).2
  | .task _ => availableBackends

/-- The registry after a history of events, latest event first. -/
def registryAfter (settings : SelectorSettings) : List SelectorEvent → BackendRegistry
  | [] => .new settings.entryTimeToLive
  | event :: earlier => event.apply settings.build (registryAfter settings earlier)

/-- A registered name has been there ever since one status was accepted for it while it was
absent, and under that status's queue. -/
def RoutedSince (settings : SelectorSettings) (history : List SelectorEvent) (name queue : String) : Prop :=
  ∃ later message now earlier, history = later ++ .status message now :: earlier ∧
    message.name = name ∧ message.queueName = queue ∧
    (registryAfter settings earlier).find name = none ∧
    ∀ since, since <:+ later → ∃ backend,
      (registryAfter settings (since ++ .status message now :: earlier)).find name = some backend ∧
        backend.queueName = queue

variable {settings : SelectorSettings} {history : List SelectorEvent} {name queue : String}

theorem RoutedSince.extend {event : SelectorEvent} {backend : BackendWrapper}
    (routed : RoutedSince settings history name queue)
    (located : (registryAfter settings (event :: history)).find name = some backend)
    (same : backend.queueName = queue) : RoutedSince settings (event :: history) name queue := by
  obtain ⟨later, message, now, earlier, split, named, queued, absent, present⟩ := routed
  refine ⟨event :: later, message, now, earlier, by rw [split]; rfl, named, queued, absent, ?_⟩
  intro since within
  rcases List.suffix_cons_iff.mp within with whole | part
  · subst whole
    exact ⟨backend, by rw [List.cons_append, ← split]; exact located, same⟩
  · exact present since part

/-- The ways a status message can meet a registry: it is malformed or conflicts and changes
nothing, or it becomes the entry of its own name. -/
theorem handleStatus_cases (build : ProtocolBuild) (availableBackends : BackendRegistry) (message : Backend)
    (now : Time) :
    handleStatus build availableBackends message now = (false, availableBackends) ∨
    (message.name ≠ "" ∧ message.queueName ≠ "" ∧
      availableBackends.queueConflict (.ofBackend build message) = false ∧
      (handleStatus build availableBackends message now).1 = true ∧
      ∀ name, (handleStatus build availableBackends message now).2.entries[name]? =
        if message.name = name then some ⟨.ofBackend build message, now⟩ else availableBackends.entries[name]?) := by
  unfold handleStatus
  cases accepted : BackendWrapper.fromPublishedStatus build message with
  | error error => exact Or.inl rfl
  | ok wrapper =>
    obtain ⟨named, queued, same⟩ := BackendWrapper.fromPublishedStatus_ok accepted
    subst same
    cases conflict : availableBackends.queueConflict (.ofBackend build message) with
    | true => exact Or.inl (BackendRegistry.insertOrRefresh_rejected conflict)
    | false =>
      obtain ⟨taken, entries⟩ := BackendRegistry.insertOrRefresh_accepted now conflict
      exact Or.inr ⟨named, queued, rfl, taken, entries⟩

/-- A status under another queue than the registered one changes nothing at all. -/
theorem handleStatus_conflict (build : ProtocolBuild) {availableBackends : BackendRegistry}
    {backend : BackendWrapper} {message : Backend} (now : Time)
    (located : availableBackends.find message.name = some backend)
    (queued : backend.queueName ≠ "") (other : message.queueName ≠ backend.queueName) :
    handleStatus build availableBackends message now = (false, availableBackends) := by
  rcases handleStatus_cases build availableBackends message now with unchanged | ⟨_, routed, free, _⟩
  · exact unchanged
  · obtain ⟨entry, present, same⟩ := Option.map_eq_some_iff.mp located
    have present' : availableBackends.entries[(BackendWrapper.ofBackend build message).name]? = some entry := present
    simp only [BackendRegistry.queueConflict, present', same, Bool.and_eq_false_iff, bne_eq_false_iff_eq] at free
    rcases free with (empty | empty) | equal
    · exact absurd empty queued
    · exact absurd empty routed
    · exact absurd equal.symm other

/-- Every entry of the selector's registry has a non-empty queue, and the name has been routed
there ever since it last joined. -/
theorem registryAfter_routed {backend : BackendWrapper}
    (located : (registryAfter settings history).find name = some backend) :
    backend.queueName ≠ "" ∧ RoutedSince settings history name backend.queueName := by
  induction history generalizing backend with
  | nil => simp [registryAfter, BackendRegistry.new, BackendRegistry.find] at located
  | cons event earlier ih =>
    have stays (before : (registryAfter settings earlier).find name = some backend) :
        backend.queueName ≠ "" ∧ RoutedSince settings (event :: earlier) name backend.queueName := by
      obtain ⟨queued, routed⟩ := ih before
      exact ⟨queued, routed.extend located rfl⟩
    cases event with
    | task task => exact stays located
    | expire now =>
      apply stays
      obtain ⟨entry, kept, same⟩ := Option.map_eq_some_iff.mp located
      simp only [registryAfter, SelectorEvent.apply, BackendRegistry.expire_getElem?,
        Option.filter_eq_some_iff] at kept
      rw [BackendRegistry.find_of_entry kept.1, same]
    | status message now =>
      rcases handleStatus_cases settings.build (registryAfter settings earlier) message now with
        unchanged | ⟨_, routed, _, taken, entries⟩
      · apply stays
        simpa only [registryAfter, SelectorEvent.apply, unchanged] using located
      · by_cases mine : message.name = name
        · have written : backend = .ofBackend settings.build message := by
            simp only [registryAfter, SelectorEvent.apply, BackendRegistry.find, entries, mine,
              if_true, Option.map_some, Option.some.injEq] at located
            exact located.symm
          subst written
          refine ⟨routed, ?_⟩
          cases before : (registryAfter settings earlier).find name with
          | none =>
            refine ⟨[], message, now, earlier, rfl, mine, rfl, before, ?_⟩
            intro since within
            rw [List.suffix_nil.mp within]
            exact ⟨_, located, rfl⟩
          | some old =>
            obtain ⟨queued, routedOld⟩ := ih before
            have same : message.queueName = old.queueName := by
              by_contra other
              have rejected := handleStatus_conflict settings.build now
                (by rw [mine]; exact before) queued other
              rw [rejected] at taken
              cases taken
            have there : (BackendWrapper.ofBackend settings.build message).queueName = old.queueName := same
            rw [there]
            exact routedOld.extend located there
        · apply stays
          simpa only [registryAfter, SelectorEvent.apply, BackendRegistry.find, entries, mine,
            if_false] using located

/-- Where a name is registered, a status for it under another queue leaves every later registry as
if it had not come. -/
theorem registryAfter_conflict {backend : BackendWrapper} {message : Backend} (now : Time)
    (located : (registryAfter settings history).find message.name = some backend)
    (other : message.queueName ≠ backend.queueName) (later : List SelectorEvent) :
    registryAfter settings (later ++ .status message now :: history) = registryAfter settings (later ++ history) := by
  induction later with
  | nil =>
    obtain ⟨queued, _⟩ := registryAfter_routed located
    have rejected := handleStatus_conflict settings.build now located queued other
    simp only [List.nil_append, registryAfter, SelectorEvent.apply, rejected]
  | cons event rest ih =>
    simp only [List.cons_append, registryAfter]
    rw [ih]

/-- Selector routing is stable: a forwarded task goes to the non-empty queue its backend joined
with, and at any point at which the backend is routed there, a status for it under another queue is
as good as never sent. -/
theorem selector_routing_stable (settings : SelectorSettings) (history : List SelectorEvent) (task forwarded : QuantumTask)
    (queue : String)
    (sent : handleTask settings (registryAfter settings history) task = .forward queue forwarded) :
    queue ≠ "" ∧ RoutedSince settings history forwarded.scheduledQpu queue ∧
      ∀ point backend, (registryAfter settings point).find forwarded.scheduledQpu = some backend →
        backend.queueName = queue → ∀ message now later, message.name = forwarded.scheduledQpu →
          message.queueName ≠ queue →
          registryAfter settings (later ++ .status message now :: point) = registryAfter settings (later ++ point) := by
  rcases handleTask_cases settings (registryAfter settings history) task with
    ⟨error, _, refused⟩ | ⟨backend, located, _, _, forwards⟩
  · rw [refused] at sent
    cases sent
  · rw [forwards] at sent
    cases sent
    obtain ⟨queued, routed⟩ := registryAfter_routed located
    refine ⟨queued, routed, ?_⟩
    intro point registered present routes message now later named other
    rw [← routes] at other
    rw [← named] at present
    exact registryAfter_conflict now present other later

/-- While `alpha` is registered, a status that moves it to another queue is as good as never sent. -/
theorem selector_routing_stable_alpha :
    registryAfter .plain [.expire 9, .status { Backend.alpha with queueName := "compiler.beta" } 8, .status .alpha 0] =
      registryAfter .plain [.expire 9, .status .alpha 0] :=
  (selector_routing_stable .plain [.status .alpha 0] .quake { QuantumTask.quake with scheduledQpu := "alpha" }
    "compiler.alpha" (by decide +kernel)).2.2 [.status .alpha 0] (.ofBackend SelectorSettings.plain.build .alpha)
    (by decide +kernel) rfl _ 8 [.expire 9] rfl (by decide)

variable {acts : List SelectorAct} {s : SelectorState}

/-- The registry of a run is the one that its own statuses, expiries and tasks lead to. -/
theorem SelectorRun.registryAfter (run : SelectorRun settings acts s) :
    ∃ history, s.availableBackends = registryAfter settings history ∧
      ∀ message now, .status message now ∈ history → .status message ∈ acts := by
  induction run with
  | start first =>
    obtain ⟨clock, rfl⟩ := first
    exact ⟨[], rfl, nofun⟩
  | @next labels before label after _ step ih =>
    obtain ⟨history, same, received⟩ := ih
    have earlier (message : Backend) (now : Time) (member : .status message now ∈ history) (act : SelectorAct) :=
      List.mem_cons_of_mem act (received message now member)
    cases step with
    | signal => exact ⟨history, same, fun _ _ member => earlier _ _ member _⟩
    | pass => exact ⟨history, same, fun _ _ member => earlier _ _ member _⟩
    | enter => exact ⟨history, same, fun _ _ member => earlier _ _ member _⟩
    | exit => exact ⟨history, same, fun _ _ member => earlier _ _ member _⟩
    | rest => exact ⟨history, same, fun _ _ member => earlier _ _ member _⟩
    | status message =>
      refine ⟨.status message before.clock :: history, ?_, ?_⟩
      · simp only [SelectorState.receiveStatus, Qrmci.registryAfter, SelectorEvent.apply, same]
      · intro other now member
        rcases List.mem_cons.mp member with new | old
        · cases new
          exact List.mem_cons_self ..
        · exact earlier other now old _
    | expire =>
      refine ⟨.expire before.clock :: history, ?_, ?_⟩
      · simp only [Qrmci.registryAfter, SelectorEvent.apply, same]
      · intro other now member
        exact earlier other now ((List.mem_cons.mp member).resolve_left nofun) _
    | task ticket =>
      refine ⟨.task ticket.task :: history, same, ?_⟩
      intro other now member
      exact earlier other now ((List.mem_cons.mp member).resolve_left nofun) _

end Qrmci
