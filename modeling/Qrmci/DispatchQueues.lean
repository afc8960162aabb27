import Qrmci.RegistryHistory

namespace Qrmci

/-- What a sequence of queues, oldest first, gets accepted under one name that is registered under
the given queue, or not at all. -/
def acceptedQueues : Option String → List String → List String
  | _, [] => []
  | none, incoming :: later => incoming :: acceptedQueues (some incoming) later
  | some registered, incoming :: later =>
    if queuesConflict registered incoming then acceptedQueues (some registered) later
    else incoming :: acceptedQueues (some incoming) later

/-- No two of the queues differ, the empty one aside. -/
def OneQueue (queues : List String) : Prop :=
  ∀ one ∈ queues, ∀ other ∈ queues, one ≠ "" → other ≠ "" → one = other

/-- A non-empty queue that directly follows an empty one is the given one. -/
def ReturnsTo (first : String) (queues : List String) : Prop :=
  ∀ incoming, incoming ≠ "" → ["", incoming] <:+: queues → incoming = first

/-- After the first non-empty queue, a non-empty queue that directly follows an empty one is that
first queue again. -/
def ReturnsToFirst (queues : List String) : Prop :=
  ∀ first later, queues.dropWhile (· == "") = first :: later → ReturnsTo first later

variable {first registered queue : String} {queues later : List String} {current : Option String}

theorem ReturnsTo.nil_iff : ReturnsTo first [registered] ↔ True := by
  simp [ReturnsTo, List.infix_cons_iff]

theorem ReturnsTo.cons_iff : ReturnsTo first (registered :: queue :: later) ↔
    (registered = "" → queue ≠ "" → queue = first) ∧ ReturnsTo first (queue :: later) := by
  constructor
  · intro returns
    refine ⟨?_, ?_⟩
    · rintro rfl named
      exact returns queue named ⟨[], later, rfl⟩
    · intro incoming named deeper
      exact returns incoming named (List.infix_cons deeper)
  · rintro ⟨next, returns⟩ incoming named within
    rw [List.infix_cons_iff, List.cons_prefix_cons, List.singleton_prefix_cons_iff] at within
    rcases within with ⟨blank, same⟩ | deeper
    · subst same
      exact next blank.symm named
    · exact returns incoming named deeper

/-- A non-empty queue in front asks nothing of what follows it. -/
theorem ReturnsTo.named_cons (named : registered ≠ "") :
    ReturnsTo first (registered :: queues) ↔ ReturnsTo first queues := by
  constructor
  · intro returns incoming present within
    exact returns incoming present (List.infix_cons within)
  · intro returns incoming present within
    rw [List.infix_cons_iff, List.cons_prefix_cons] at within
    rcases within with ⟨blank, _⟩ | deeper
    · exact absurd blank.symm named
    · exact returns incoming present deeper

/-- As long as a name is registered under its first queue or under none, what it accepts stays with
that queue exactly if every return from an empty queue goes there. -/
theorem acceptedQueues_stay (named : first ≠ "") (current : registered = first ∨ registered = "") :
    (∀ queue ∈ acceptedQueues (some registered) queues, queue ≠ "" → queue = first) ↔
      ReturnsTo first (registered :: queues) := by
  induction queues generalizing registered with
  | nil => simp [acceptedQueues, ReturnsTo.nil_iff]
  | cons queue later ih =>
    rw [ReturnsTo.cons_iff]
    by_cases conflict : queuesConflict registered queue = true
    · -- Nothing changes, and neither queue is empty.
      obtain ⟨present, incoming, other⟩ := queuesConflict_iff.mp conflict
      rw [acceptedQueues, if_pos conflict, ih current, ReturnsTo.named_cons present, ReturnsTo.named_cons incoming]
      exact ⟨fun returns => ⟨fun blank => absurd blank present, returns⟩, fun both => both.2⟩
    · rw [acceptedQueues, if_neg conflict, List.forall_mem_cons]
      by_cases home : queue = first ∨ queue = ""
      · rw [ih home]
        refine and_congr_left fun _ => ?_
        rcases home with same | blank
        · exact ⟨fun _ _ _ => same, fun _ _ => same⟩
        · exact ⟨fun _ _ present => absurd blank present, fun _ present => absurd blank present⟩
      · -- Another queue gets through only where the name is without one.
        rw [not_or] at home
        have blank : registered = "" := by
          rcases current with same | blank
          · subst same
            exact absurd (queuesConflict_iff.mpr ⟨named, home.2, fun equal => home.1 equal.symm⟩) conflict
          · exact blank
        constructor
        · rintro ⟨same, _⟩
          exact absurd (same home.2) home.1
        · rintro ⟨same, _⟩
          exact absurd (same blank home.2) home.1

theorem oneQueue_cons_named (named : first ≠ "") :
    OneQueue (first :: queues) ↔ ∀ queue ∈ queues, queue ≠ "" → queue = first := by
  constructor
  · intro one queue member present
    exact one queue (List.mem_cons_of_mem _ member) first (List.mem_cons_self ..) present named
  · intro all
    have each : ∀ queue ∈ first :: queues, queue ≠ "" → queue = first :=
      List.forall_mem_cons.mpr ⟨fun _ => rfl, all⟩
    intro one member other listed present given
    exact (each one member present).trans (each other listed given).symm

theorem oneQueue_cons_blank : OneQueue ("" :: queues) ↔ OneQueue queues := by
  constructor
  · intro one queue member other listed
    exact one queue (List.mem_cons_of_mem _ member) other (List.mem_cons_of_mem _ listed)
  · intro all one member other listed present given
    have inside (queue : String) (within : queue ∈ "" :: queues) (some : queue ≠ "") : queue ∈ queues :=
      (List.mem_cons.mp within).resolve_left some
    exact all one (inside one member present) other (inside other listed given) present given

/-- A name that has no queue yet takes the first one that comes. -/
theorem acceptedQueues_one_unrouted (unrouted : ∀ queue, current = some queue → queue = "") :
    OneQueue (acceptedQueues current queues) ↔ ReturnsToFirst queues := by
  induction queues generalizing current with
  | nil => simp [acceptedQueues, OneQueue, ReturnsToFirst]
  | cons queue later ih =>
    have taken : acceptedQueues current (queue :: later) = queue :: acceptedQueues (some queue) later := by
      cases current with
      | none => rfl
      | some registered =>
        rw [unrouted registered rfl]
        rfl
    rw [taken]
    by_cases blank : queue = ""
    · subst blank
      rw [oneQueue_cons_blank, ih (fun queue same => (Option.some.inj same).symm)]
      simp [ReturnsToFirst]
    · rw [oneQueue_cons_named blank, acceptedQueues_stay blank (Or.inl rfl), ReturnsTo.named_cons blank]
      have first : (queue :: later).dropWhile (· == "") = queue :: later := by simp [blank]
      rw [ReturnsToFirst, first]
      constructor
      · rintro returns _ _ ⟨⟩
        exact returns
      · intro returns
        exact returns queue later rfl

/-- What a name is registered under, and what it accepts after that, is one queue exactly if the
whole sequence returns to its first. -/
theorem acceptedQueues_one (current : Option String) (queues : List String) :
    OneQueue (current.toList ++ acceptedQueues current queues) ↔ ReturnsToFirst (current.toList ++ queues) := by
  cases current with
  | none => exact acceptedQueues_one_unrouted nofun
  | some registered =>
    change OneQueue (acceptedQueues none (registered :: queues)) ↔ _
    exact acceptedQueues_one_unrouted nofun

/-- The inserts of a sequence, oldest first, that the registry accepts. -/
def acceptedInserts (registry : BackendRegistry) : List (BackendWrapper × Time) → List BackendWrapper
  | [] => []
  | (backend, now) :: later =>
    let inserted := registry.insertOrRefresh backend now
    if inserted.1 then backend :: acceptedInserts inserted.2 later else acceptedInserts inserted.2 later

/-- The queues of the backends of one name, in their order. -/
def queuesUnder (name : String) (backends : List BackendWrapper) : List String :=
  (backends.filter (·.name == name)).map BackendWrapper.queueName

theorem queuesUnder_cons_of_eq {name : String} {backend : BackendWrapper} {backends : List BackendWrapper}
    (mine : backend.name = name) :
    queuesUnder name (backend :: backends) = backend.queueName :: queuesUnder name backends := by
  simp [queuesUnder, mine]

theorem queuesUnder_cons_of_ne {name : String} {backend : BackendWrapper} {backends : List BackendWrapper}
    (other : backend.name ≠ name) : queuesUnder name (backend :: backends) = queuesUnder name backends := by
  simp [queuesUnder, other]

/-- The queue a name is registered under before the sequence, if it is registered at all. -/
def registeredQueue (registry : BackendRegistry) (name : String) : Option String :=
  (registry.find name).map BackendWrapper.queueName

/-- One identity, one dispatch queue: whatever is registered under a name before a sequence of
inserts and whatever is accepted for it in the sequence, all non-empty queues among them agree. -/
def OneDispatchQueue (registry : BackendRegistry) (calls : List (BackendWrapper × Time)) : Prop :=
  ∀ name, OneQueue ((registeredQueue registry name).toList ++ queuesUnder name (acceptedInserts registry calls))

/-- What an insert does to the queue of a name: its own name gets the queue if nothing conflicts. -/
theorem registeredQueue_insertOrRefresh (registry : BackendRegistry) (backend : BackendWrapper) (now : Time)
    (name : String) : registeredQueue (registry.insertOrRefresh backend now).2 name =
      if backend.name = name ∧ (registry.insertOrRefresh backend now).1 = true then some backend.queueName
      else registeredQueue registry name := by
  simp only [registeredQueue, BackendRegistry.find, BackendRegistry.insertOrRefresh_getElem?]
  split
  · rfl
  · rfl

theorem insertOrRefresh_queue (registry : BackendRegistry) (backend : BackendWrapper) (now : Time) :
    (registry.insertOrRefresh backend now).1 = false ↔
      ∃ registered, registeredQueue registry backend.name = some registered ∧
        queuesConflict registered backend.queueName = true := by
  rw [BackendRegistry.insertOrRefresh_eq_false_iff]
  simp only [registeredQueue, BackendRegistry.find, Option.map_map, Option.map_eq_some_iff, Function.comp_apply]
  constructor
  · rintro ⟨entry, present, conflict⟩
    exact ⟨_, ⟨entry, present, rfl⟩, conflict⟩
  · rintro ⟨_, ⟨entry, present, rfl⟩, conflict⟩
    exact ⟨entry, present, conflict⟩

/-- For each name a registry accepts the queues that the conflict rule lets through, whatever the
other names do. -/
theorem acceptedInserts_queues (registry : BackendRegistry) (calls : List (BackendWrapper × Time)) (name : String) :
    queuesUnder name (acceptedInserts registry calls) =
      acceptedQueues (registeredQueue registry name) (queuesUnder name (calls.map Prod.fst)) := by
  induction calls generalizing registry with
  | nil => simp [acceptedInserts, queuesUnder, acceptedQueues]
  | cons call later ih =>
    obtain ⟨backend, now⟩ := call
    have after := ih (registry.insertOrRefresh backend now).2
    rw [registeredQueue_insertOrRefresh] at after
    by_cases mine : backend.name = name
    · subst mine
      rw [List.map_cons, queuesUnder_cons_of_eq rfl, acceptedInserts]
      cases answer : (registry.insertOrRefresh backend now).1 with
      | false =>
        obtain ⟨registered, present, conflict⟩ := (insertOrRefresh_queue registry backend now).mp answer
        simp only [answer, Bool.false_eq_true, and_false, if_false, present] at after ⊢
        rw [after, acceptedQueues, if_pos conflict]
      | true =>
        simp only [answer, and_self, if_true] at after ⊢
        rw [queuesUnder_cons_of_eq rfl, after]
        cases present : registeredQueue registry backend.name with
        | none => rfl
        | some registered =>
          have free : ¬ queuesConflict registered backend.queueName = true := by
            intro conflict
            rw [(insertOrRefresh_queue registry backend now).mpr ⟨registered, present, conflict⟩] at answer
            cases answer
          rw [acceptedQueues, if_neg free]
    · rw [List.map_cons, queuesUnder_cons_of_ne mine, acceptedInserts]
      simp only [mine, false_and, if_false] at after
      rw [← after]
      split
      · exact queuesUnder_cons_of_ne mine
      · rfl

/-- A registry keeps one name on one dispatch queue exactly if, in the order in which the queues
come for the name, every return from an empty queue goes to the first non-empty one. An empty queue
is accepted over any other and makes the registry forget it. -/
theorem one_dispatch_queue_iff (registry : BackendRegistry) (calls : List (BackendWrapper × Time)) :
    OneDispatchQueue registry calls ↔
      ∀ name, ReturnsToFirst ((registeredQueue registry name).toList ++ queuesUnder name (calls.map Prod.fst)) := by
  unfold OneDispatchQueue
  refine forall_congr' fun name => ?_
  rw [acceptedInserts_queues]
  exact acceptedQueues_one _ _

/-- An idle `alpha` that takes its tasks from the given queue. -/
def BackendWrapper.alphaOn (queue : String) : BackendWrapper :=
  ⟨"alpha", 5, .unspecified, .idle, 0, 0, queue, [], [], [.qirBaseString]⟩

/-- Three inserts move `alpha` from one queue to another by way of an empty one. -/
theorem empty_queue_moves_backend :
    ¬ ∀ (registry : BackendRegistry) (calls : List (BackendWrapper × Time)), OneDispatchQueue registry calls := by
  intro always
  have moved := always (.new 30000000000) [(.alphaOn "q1", 0), (.alphaOn "", 1), (.alphaOn "q2", 2)] "alpha"
  have same : "q1" = "q2" := moved "q1" (by decide +kernel) "q2" (by decide +kernel) (by decide) (by decide)
  revert same
  decide

end Qrmci
