import Mathlib.Data.List.Basic
import Qrmci.BackendRegistry

namespace Qrmci

/-- The two calls that change a registry. -/
inductive RegistryCall
  | insertOrRefresh (backend : BackendWrapper) (now : Time)
  | expire (now : Time)
  deriving DecidableEq, Repr

/-- The registry after a history of calls, latest call first. -/
def BackendRegistry.after (timeToLive : Time) : List RegistryCall → BackendRegistry
  | [] => .new timeToLive
  | .insertOrRefresh backend now :: earlier => ((after timeToLive earlier).insertOrRefresh backend now).2
  | .expire now :: earlier => ((after timeToLive earlier).expire now).2

/-- The call is an insert of a backend of that name, or an expiry. -/
def RegistryCall.concerns (name : String) : RegistryCall → Bool
  | .insertOrRefresh backend _ => backend.name == name
  | .expire _ => true

/-- Two queues that one name cannot be published under. -/
def queuesConflict (registered incoming : String) : Bool :=
  registered != "" && incoming != "" && registered != incoming

theorem queuesConflict_iff {registered incoming : String} : queuesConflict registered incoming = true ↔
    registered ≠ "" ∧ incoming ≠ "" ∧ registered ≠ incoming := by
  simp [queuesConflict, and_assoc]

/-- What the calls that concern one name leave under it, told without a registry: the last backend
that did not conflict with what was there, as long as no expiry found it too old. -/
def entryAfter (timeToLive : Time) : List RegistryCall → Option RegistryEntry
  | [] => none
  | .insertOrRefresh backend now :: earlier =>
    match entryAfter timeToLive earlier with
    | none => some ⟨backend, now⟩
    | some entry =>
      if queuesConflict entry.backend.queueName backend.queueName then some entry else some ⟨backend, now⟩
  | .expire now :: earlier =>
    (entryAfter timeToLive earlier).filter fun entry => now - entry.lastRefreshed ≤ timeToLive

/-- The entry was put under its name by the last insert accepted for it, and carries its stamp. -/
def EntryOrigin (timeToLive : Time) (calls : List RegistryCall) (name : String) (entry : RegistryEntry) : Prop :=
  ∃ later earlier, calls = later ++ .insertOrRefresh entry.backend entry.lastRefreshed :: earlier ∧
    entry.backend.name = name ∧
    ((BackendRegistry.after timeToLive earlier).insertOrRefresh entry.backend entry.lastRefreshed).1 = true ∧
    ∀ newer backend now older, later = newer ++ .insertOrRefresh backend now :: older → backend.name = name →
      ((BackendRegistry.after timeToLive
        (older ++ .insertOrRefresh entry.backend entry.lastRefreshed :: earlier)).insertOrRefresh backend now).1 = false

/-- A call that accepts nothing for the name leaves the origin of its entry what it was. -/
theorem EntryOrigin.extend {timeToLive : Time} {calls : List RegistryCall} {name : String} {entry : RegistryEntry}
    {call : RegistryCall} (origin : EntryOrigin timeToLive calls name entry)
    (refused : ∀ backend now, call = .insertOrRefresh backend now → backend.name = name →
      ((BackendRegistry.after timeToLive calls).insertOrRefresh backend now).1 = false) :
    EntryOrigin timeToLive (call :: calls) name entry := by
  obtain ⟨later, earlier, split, named, taken, last⟩ := origin
  refine ⟨call :: later, earlier, by rw [split]; rfl, named, taken, ?_⟩
  intro newer backend now older parts mine
  cases newer with
  | nil =>
    obtain ⟨first, rest⟩ := List.cons.inj parts
    subst rest
    rw [← split]
    exact refused backend now first mine
  | cons _ newer => exact last newer backend now older (List.cons.inj parts).2 mine

namespace BackendRegistry

variable {registry : BackendRegistry} {backend : BackendWrapper} {timeToLive now : Time} {name : String}
  {calls : List RegistryCall}

/-- An insert is rejected exactly if its name is registered under another queue and neither queue is
empty. -/
theorem insertOrRefresh_eq_false_iff (registry : BackendRegistry) (backend : BackendWrapper) (now : Time) :
    (registry.insertOrRefresh backend now).1 = false ↔
    ∃ entry, registry.entries[backend.name]? = some entry ∧
      queuesConflict entry.backend.queueName backend.queueName = true := by
  cases conflict : registry.queueConflict backend with
  | true =>
    rw [insertOrRefresh_rejected conflict]
    unfold queueConflict at conflict
    split at conflict
    · rename_i entry present
      exact ⟨fun _ => ⟨entry, present, conflict⟩, fun _ => rfl⟩
    · cases conflict
  | false =>
    obtain ⟨taken, _⟩ := insertOrRefresh_accepted now conflict
    rw [taken]
    refine ⟨nofun, ?_⟩
    rintro ⟨entry, present, other⟩
    simp only [queueConflict, present] at conflict
    cases conflict.symm.trans other

/-- An insert leaves under its own name what the conflict rule says, and touches no other name. -/
theorem insertOrRefresh_getElem? (now : Time) (name : String) :
    (registry.insertOrRefresh backend now).2.entries[name]? =
      if backend.name = name ∧ (registry.insertOrRefresh backend now).1 = true then some ⟨backend, now⟩
      else registry.entries[name]? := by
  cases conflict : registry.queueConflict backend with
  | true => simp [insertOrRefresh_rejected conflict]
  | false =>
    obtain ⟨taken, entries⟩ := insertOrRefresh_accepted now conflict
    rw [taken, entries name]
    simp

theorem after_timeToLive : (after timeToLive calls).entryTimeToLive = timeToLive := by
  induction calls with
  | nil => rfl
  | cons call earlier ih =>
    cases call with
    | insertOrRefresh backend now => exact insertOrRefresh_timeToLive.trans ih
    | expire now => exact ih

/-- A call that does not concern a name leaves its entry alone. -/
theorem after_cons_of_not_concerns {call : RegistryCall} (other : call.concerns name = false) :
    (after timeToLive (call :: calls)).entries[name]? = (after timeToLive calls).entries[name]? := by
  cases call with
  | insertOrRefresh backend now =>
    have different : backend.name ≠ name := by simpa [RegistryCall.concerns] using other
    simp only [after, insertOrRefresh_getElem?, different, false_and, if_false]
  | expire now => cases other

/-- What a registry holds under a name is what the calls that concern the name say. -/
theorem after_getElem? : (after timeToLive calls).entries[name]? =
    entryAfter timeToLive (calls.filter (RegistryCall.concerns name)) := by
  induction calls with
  | nil => simp [after, new, entryAfter]
  | cons call earlier ih =>
    cases relevant : call.concerns name with
    | false =>
      rw [after_cons_of_not_concerns relevant, ih, List.filter_cons_of_neg (by simp [relevant])]
    | true =>
      rw [List.filter_cons_of_pos relevant]
      cases call with
      | expire now =>
        simp only [after, expire_getElem?, ih, entryAfter, stale, after_timeToLive]
        congr 1
        funext entry
        simp only [gt_iff_lt, ← decide_not, not_lt]
      | insertOrRefresh backend now =>
        have same : backend.name = name := by simpa [RegistryCall.concerns] using relevant
        subst same
        simp only [after, insertOrRefresh_getElem?, true_and, entryAfter]
        rw [← ih]
        cases taken : ((after timeToLive earlier).insertOrRefresh backend now).1 with
        | false =>
          obtain ⟨entry, present, conflict⟩ := (insertOrRefresh_eq_false_iff _ _ _).mp taken
          simp [present, conflict]
        | true =>
          cases present : (after timeToLive earlier).entries[backend.name]? with
          | none => simp
          | some entry =>
            have free : ¬ queuesConflict entry.backend.queueName backend.queueName = true := by
              intro conflict
              rw [(insertOrRefresh_eq_false_iff _ _ _).mpr ⟨entry, present, conflict⟩] at taken
              cases taken
            simp [free]

/-- Registries are iterated in strictly ascending order of their names. -/
theorem toList_ascending : (registry.entries.toList.map Prod.fst).Pairwise (· < ·) := by
  rw [Std.ExtTreeMap.map_fst_toList_eq_keys]
  refine Std.ExtTreeMap.ordered_keys.imp ?_
  intro one other before
  exact compareOfLessAndEq_eq_lt.mp before

/-- Where an entry comes from: the last insert accepted for its name, which gave it its stamp. -/
theorem after_origin {entry : RegistryEntry} (present : (after timeToLive calls).entries[name]? = some entry) :
    EntryOrigin timeToLive calls name entry := by
  induction calls with
  | nil => simp [after, new] at present
  | cons call before ih =>
    cases call with
    | expire now =>
      simp only [after, expire_getElem?, Option.filter_eq_some_iff] at present
      refine (ih present.1).extend ?_
      intro _ _ same
      cases same
    | insertOrRefresh backend now =>
      simp only [after, insertOrRefresh_getElem?] at present
      split at present
      · rename_i accepted
        cases present
        refine ⟨[], before, rfl, accepted.1, accepted.2, ?_⟩
        intro newer _ _ _ parts
        cases newer <;> cases parts
      · rename_i other
        refine (ih present).extend ?_
        rintro _ _ ⟨⟩ mine
        cases answer : ((after timeToLive before).insertOrRefresh backend now).1 with
        | false => rfl
        | true => exact absurd ⟨mine, answer⟩ other

/-- An expiry counts what it drops. -/
theorem expire_size (registry : BackendRegistry) (now : Time) :
    (registry.expire now).1 + (registry.expire now).2.entries.size = registry.entries.size := by
  have fewer : (registry.expire now).2.entries.size ≤ registry.entries.size := Std.ExtTreeMap.size_filter_le_size
  change registry.entries.size - (registry.expire now).2.entries.size + _ = _
  omega

theorem expire_count : (registry.expire now).1 =
    (registry.entries.toList.filter fun pair => registry.stale now pair.2).length := by
  have kept : (registry.expire now).2.entries.size =
      (registry.entries.toList.filter fun pair => !registry.stale now pair.2).length := by
    rw [← Std.ExtTreeMap.length_toList]
    simp only [expire, Std.ExtTreeMap.toList_filter]
  have parts := registry.entries.toList.length_eq_length_filter_add fun pair => registry.stale now pair.2
  rw [Std.ExtTreeMap.length_toList] at parts
  have sizes := registry.expire_size now
  omega

theorem expire_present {entry : RegistryEntry} : (registry.expire now).2.entries[name]? = some entry ↔
    registry.entries[name]? = some entry ∧ now - entry.lastRefreshed ≤ registry.entryTimeToLive := by
  rw [expire_getElem?, Option.filter_eq_some_iff]
  simp only [stale, gt_iff_lt, Bool.not_eq_true', decide_eq_false_iff_not, not_lt]

/-- What an earlier expiry drops a later one drops as well. -/
theorem expire_expire {first second : Time} (ordered : first ≤ second) :
    ((registry.expire first).2.expire second).2 = (registry.expire second).2 := by
  refine BackendRegistry.ext ?_ rfl
  apply Std.ExtTreeMap.ext_getElem?
  intro name
  apply Option.ext
  intro entry
  simp only [expire_present, expire_timeToLive]
  constructor
  · rintro ⟨⟨present, _⟩, recent⟩
    exact ⟨present, recent⟩
  · rintro ⟨present, recent⟩
    exact ⟨⟨present, by lia⟩, recent⟩

theorem expire_expire_count {first second : Time} (ordered : first ≤ second) :
    (registry.expire first).1 + ((registry.expire first).2.expire second).1 = (registry.expire second).1 := by
  have sizeFirst := registry.expire_size first
  have sizeBoth := (registry.expire first).2.expire_size second
  have sizeSecond := registry.expire_size second
  rw [expire_expire ordered] at sizeBoth
  omega

/-- A name's entry is what it would be if no other backend had ever been inserted. -/
theorem find_concerning : (after timeToLive calls).find name =
    (after timeToLive (calls.filter (RegistryCall.concerns name))).find name := by
  simp only [find, after_getElem?, List.filter_filter, Bool.and_self]

end BackendRegistry

open BackendRegistry

/-- A registry is a refinement of the histories of its names. -/
theorem registry_refines_history (timeToLive : Time) (calls : List RegistryCall) :
    let registry := BackendRegistry.after timeToLive calls
    ((registry.entries.toList.map Prod.fst).Pairwise (· < ·) ∧
      ∀ pair ∈ registry.entries.toList, pair.2.backend.name = pair.1) ∧
    (∀ name, registry.entries[name]? = entryAfter timeToLive (calls.filter (RegistryCall.concerns name)) ∧
      registry.find name =
        (BackendRegistry.after timeToLive (calls.filter (RegistryCall.concerns name))).find name) ∧
    (∀ name entry, registry.entries[name]? = some entry → EntryOrigin timeToLive calls name entry) ∧
    (∀ backend now, ((registry.insertOrRefresh backend now).1 = false ↔
        ∃ entry, registry.entries[backend.name]? = some entry ∧ entry.backend.queueName ≠ "" ∧
          backend.queueName ≠ "" ∧ entry.backend.queueName ≠ backend.queueName) ∧
      ((registry.insertOrRefresh backend now).1 = false → (registry.insertOrRefresh backend now).2 = registry)) ∧
    (∀ now, (∀ (name : String) (entry : RegistryEntry), (registry.expire now).2.entries[name]? = some entry ↔
        registry.entries[name]? = some entry ∧ ¬ now - entry.lastRefreshed > timeToLive) ∧
      (registry.expire now).1 =
        (registry.entries.toList.filter fun pair => now - pair.2.lastRefreshed > timeToLive).length) ∧
    ∀ first second, first ≤ second →
      ((registry.expire first).2.expire second).2 = (registry.expire second).2 ∧
      (registry.expire first).1 + ((registry.expire first).2.expire second).1 = (registry.expire second).1 := by
  intro registry
  have lives : registry.entryTimeToLive = timeToLive := after_timeToLive
  refine ⟨⟨toList_ascending, ?_⟩, fun name => ⟨after_getElem?, find_concerning⟩,
    fun name entry present => after_origin present, ?_, ?_, ?_⟩
  · rintro ⟨name, entry⟩ member
    exact registry.keyed name entry (Std.ExtTreeMap.mem_toList_iff_getElem?_eq_some.mp member)
  · intro backend now
    have rejected := insertOrRefresh_eq_false_iff registry backend now
    simp only [queuesConflict_iff] at rejected
    refine ⟨rejected, ?_⟩
    intro answer
    obtain ⟨entry, present, named, queued, other⟩ := rejected.mp answer
    have conflict : registry.queueConflict backend = true := by
      simp only [queueConflict, present]
      exact queuesConflict_iff.mpr ⟨named, queued, other⟩
    rw [insertOrRefresh_rejected conflict]
  · intro now
    refine ⟨?_, ?_⟩
    · intro name entry
      rw [expire_present, lives, gt_iff_lt, not_lt]
    · rw [expire_count]
      simp only [stale, lives]
  · intro first second ordered
    exact ⟨expire_expire ordered, expire_expire_count ordered⟩

end Qrmci
