import Qrmci.BackendWrapper
import Std.Data.ExtTreeMap

namespace Qrmci

inductive BackendSelectionPolicy
  | lowestName | smallestSufficient
  deriving DecidableEq, Repr

structure RegistryEntry where
  backend : BackendWrapper
  lastRefreshed : Time
  deriving DecidableEq, Repr

/-- The backends a process knows about. The map iterates in ascending name order, and no entry
is ever filed under a name other than its own backend's. -/
@[ext] structure BackendRegistry where
  entries : Std.ExtTreeMap String RegistryEntry compare
  entryTimeToLive : Time
  keyed : ∀ (name : String) (entry : RegistryEntry), entries[name]? = some entry → entry.backend.name = name

namespace BackendRegistry

def new (timeToLive : Time) : BackendRegistry where
  entries := ∅
  entryTimeToLive := timeToLive
  keyed := by simp

/-- The backend is already registered under a different queue, and neither queue is empty. -/
def queueConflict (registry : BackendRegistry) (backend : BackendWrapper) : Bool :=
  match registry.entries[backend.name]? with
  | some entry =>
    entry.backend.queueName != "" && backend.queueName != "" &&
      entry.backend.queueName != backend.queueName
  | none => false

def insertOrRefresh (registry : BackendRegistry) (backend : BackendWrapper) (now : Time) :
    Bool × BackendRegistry :=
  if registry.queueConflict backend then (false, registry)
  else (true, {
    entries := registry.entries.insert backend.name ⟨backend, now⟩
    entryTimeToLive := registry.entryTimeToLive
    keyed := by
      intro name entry found
      rw [Std.ExtTreeMap.getElem?_insert] at found
      split at found
      · rename_i same
        cases found
        exact Std.LawfulEqCmp.eq_of_compare same
      · exact registry.keyed name entry found })

def stale (registry : BackendRegistry) (now : Time) (entry : RegistryEntry) : Bool :=
  now - entry.lastRefreshed > registry.entryTimeToLive

def expire (registry : BackendRegistry) (now : Time) : Nat × BackendRegistry :=
  let kept := registry.entries.filter fun _ entry => !registry.stale now entry
  (registry.entries.size - kept.size, {
    entries := kept
    entryTimeToLive := registry.entryTimeToLive
    keyed := by
      intro name entry found
      rw [Std.ExtTreeMap.getElem?_filter'] at found
      exact registry.keyed name entry (Option.filter_eq_some_iff.mp found).1 })

def find (registry : BackendRegistry) (backendName : String) : Option BackendWrapper :=
  registry.entries[backendName]?.map RegistryEntry.backend

variable {registry : BackendRegistry} {backend : BackendWrapper} {now : Time} {name : String}

theorem insertOrRefresh_rejected (conflict : registry.queueConflict backend = true) :
    registry.insertOrRefresh backend now = (false, registry) := by
  simp [insertOrRefresh, conflict]

theorem insertOrRefresh_accepted (now : Time) (free : registry.queueConflict backend = false) :
    (registry.insertOrRefresh backend now).1 = true ∧
      ∀ name, (registry.insertOrRefresh backend now).2.entries[name]? =
        if backend.name = name then some ⟨backend, now⟩ else registry.entries[name]? := by
  simp only [insertOrRefresh, free, Bool.false_eq_true, if_false, Std.ExtTreeMap.getElem?_insert,
    Std.LawfulEqCmp.compare_eq_iff_eq, implies_true, and_self]

@[simp] theorem insertOrRefresh_timeToLive :
    (registry.insertOrRefresh backend now).2.entryTimeToLive = registry.entryTimeToLive := by
  unfold insertOrRefresh
  split <;> rfl

theorem expire_getElem? : (registry.expire now).2.entries[name]? =
    registry.entries[name]?.filter fun entry => !registry.stale now entry := by
  simp only [expire, Std.ExtTreeMap.getElem?_filter']

@[simp] theorem expire_timeToLive :
    (registry.expire now).2.entryTimeToLive = registry.entryTimeToLive := rfl

/-- What `find` returns carries the name it was looked up under. -/
theorem find_name {found : BackendWrapper} (located : registry.find name = some found) : found.name = name := by
  obtain ⟨entry, present, same⟩ := Option.map_eq_some_iff.mp located
  rw [← same]
  exact registry.keyed name entry present

theorem find_of_entry {entry : RegistryEntry} (present : registry.entries[name]? = some entry) :
    registry.find name = some entry.backend := by
  simp [find, present]

end BackendRegistry

/-- What an answer of `insertOrRefresh` adds to a history of accepted statuses, latest first. -/
def stampAccepted (name : String) (taken : Bool) (now : Time) (accepted : List (String × Time)) :
    List (String × Time) :=
  if taken then (name, now) :: accepted else accepted

/-- The stamp of the last status accepted for a name. -/
def lastAccepted (accepted : List (String × Time)) (name : String) : Option Time :=
  (accepted.find? fun stamp => stamp.1 == name).map Prod.snd

end Qrmci
