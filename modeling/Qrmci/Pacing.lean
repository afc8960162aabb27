import Mathlib.Order.Basic
import Qrmci.Daemon
import Qrmci.Lib.Spacing

namespace Qrmci

namespace PublicationThrottle

/-- The throttle after claims at these times. -/
def after (throttle : PublicationThrottle) (times : List Time) : PublicationThrottle :=
  times.foldl (fun throttle now => (throttle.claim now).2) throttle

/-- The times at which claims are granted, of those at which they are made. -/
def granted : PublicationThrottle → List Time → List Time
  | _, [] => []
  | throttle, now :: later =>
    let claimed := throttle.claim now
    if claimed.1 then now :: granted claimed.2 later else granted claimed.2 later

variable {throttle : PublicationThrottle} {times : List Time} {now last : Time}

theorem claim_interval : (throttle.claim now).2.publishInterval = throttle.publishInterval := by
  rcases throttle.claim_cases now with due | ⟨last, _, _, refused⟩
  · rw [due]
  · rw [refused]

/-- A granted claim is the last one from then on. -/
theorem claim_granted (due : (throttle.claim now).1 = true) : (throttle.claim now).2.lastClaimed = some now ∧
    ∀ last, throttle.lastClaimed = some last → throttle.publishInterval ≤ now - last := by
  constructor
  · rcases throttle.claim_cases now with taken | ⟨_, _, _, refused⟩
    · rw [taken]
    · rw [refused] at due
      cases due
  · intro last claimed
    by_contra early
    rw [not_le] at early
    simp only [claim, claimed, early, if_true, Bool.false_eq_true] at due

theorem claim_refused (early : (throttle.claim now).1 = false) : (throttle.claim now).2 = throttle ∧
    ∃ last, throttle.lastClaimed = some last ∧ now - last < throttle.publishInterval := by
  rcases throttle.claim_cases now with due | ⟨last, claimed, within, refused⟩
  · rw [due] at early
    cases early
  · exact ⟨by rw [refused], last, claimed, within⟩

/-- What is granted keeps its distance from the last claim before it, and from each other. -/
theorem granted_spaced (throttle : PublicationThrottle) (positive : 0 < throttle.publishInterval) (times : List Time) :
    Spaced throttle.publishInterval (throttle.granted times) ∧
      ∀ last, throttle.lastClaimed = some last → ∀ time ∈ throttle.granted times,
        throttle.publishInterval ≤ time - last := by
  induction times generalizing throttle with
  | nil => exact ⟨.nil, fun _ _ _ member => absurd member List.not_mem_nil⟩
  | cons now later ih =>
    have interval : (throttle.claim now).2.publishInterval = throttle.publishInterval := claim_interval
    have next := ih (throttle.claim now).2 (interval ▸ positive)
    rw [interval] at next
    obtain ⟨spaced, distant⟩ := next
    cases answer : (throttle.claim now).1 with
    | true =>
      simp only [granted, answer, if_true]
      obtain ⟨stamped, apart⟩ := claim_granted answer
      refine ⟨List.pairwise_cons.mpr ⟨distant now stamped, spaced⟩, ?_⟩
      intro last claimed time member
      have first := apart last claimed
      rcases List.mem_cons.mp member with same | rest
      · rw [same]
        exact first
      · have second := distant now stamped time rest
        lia
    | false =>
      simp only [granted, answer, Bool.false_eq_true, if_false]
      refine ⟨spaced, ?_⟩
      rw [(claim_refused answer).1] at distant ⊢
      exact distant

/-- The stamp is that of the last granted claim, if there is one. -/
theorem after_lastClaimed (throttle : PublicationThrottle) (times : List Time) :
    (throttle.after times).lastClaimed = (throttle.granted times).getLast?.or throttle.lastClaimed := by
  induction times generalizing throttle with
  | nil => rfl
  | cons now later ih =>
    rw [after, List.foldl_cons, ← after, ih]
    cases answer : (throttle.claim now).1 with
    | true =>
      simp only [granted, answer, if_true, (claim_granted answer).1, List.getLast?_cons]
      cases ((throttle.claim now).2.granted later).getLast? with
      | none => rfl
      | some last => rfl
    | false => simp only [granted, answer, Bool.false_eq_true, if_false, (claim_refused answer).1]

theorem after_interval (throttle : PublicationThrottle) (times : List Time) :
    (throttle.after times).publishInterval = throttle.publishInterval := by
  induction times generalizing throttle with
  | nil => rfl
  | cons now later ih => exact (ih _).trans claim_interval

theorem granted_subset (throttle : PublicationThrottle) {time : Time} (member : time ∈ throttle.granted times) :
    time ∈ times := by
  induction times generalizing throttle with
  | nil => exact member
  | cons now later ih =>
    simp only [granted] at member
    split at member
    · rcases List.mem_cons.mp member with same | rest
      · exact List.mem_cons.mpr (Or.inl same)
      · exact List.mem_cons_of_mem _ (ih _ rest)
    · exact List.mem_cons_of_mem _ (ih _ member)

/-- A claim one interval after an earlier one is granted, whether or not that one was. -/
theorem claim_due {before : List Time} {first second : Time} (ordered : (before ++ [first]).Pairwise (· ≤ ·))
    (apart : throttle.publishInterval ≤ second - first) (fresh : throttle.lastClaimed = none) :
    ((throttle.after (before ++ [first])).claim second).1 = true := by
  by_contra refused
  obtain ⟨_, last, claimed, early⟩ := claim_refused (Bool.not_eq_true _ ▸ refused)
  rw [after_lastClaimed, fresh, Option.or_none] at claimed
  have made := throttle.granted_subset (List.mem_of_getLast? claimed)
  have earlier : last ≤ first := by
    rcases List.mem_append.mp made with older | same
    · exact (List.pairwise_append.mp ordered).2.2 last older first (List.mem_singleton.mpr rfl)
    · exact (List.mem_singleton.mp same).le
  rw [after_interval] at early
  lia

end PublicationThrottle

/-- One call of `refreshOwnDeviceStatus`, with the device as it answers if it is read and the registry as the
call finds it. -/
structure RefreshCall where
  deviceId : String
  device : DeviceReading
  backends : BackendRegistry
  dispatchQueue : String
  claimedAt : Time
  refreshedAt : Time

def RefreshCall.run (call : RefreshCall) (throttle : PublicationThrottle) :
    Option Backend × BackendRegistry × PublicationThrottle :=
  refreshOwnDeviceStatus call.deviceId call.device call.backends throttle call.dispatchQueue call.claimedAt
    call.refreshedAt

/-- What is to be seen of a call. The device is read exactly if the claim in front of it is granted. -/
structure Refresh where
  claimedAt : Time
  readsDevice : Bool
  status : Option Backend

/-- The calls that a process makes one after the other. -/
def refreshes : PublicationThrottle → List RefreshCall → List Refresh
  | _, [] => []
  | throttle, call :: later =>
    let ran := call.run throttle
    ⟨call.claimedAt, (throttle.claim call.claimedAt).1, ran.1⟩ :: refreshes ran.2.2 later

def Refresh.within (start length : Time) (refresh : Refresh) : Bool :=
  start ≤ refresh.claimedAt && refresh.claimedAt ≤ start + length

variable {throttle : PublicationThrottle}

namespace RefreshCall

theorem run_refused {call : RefreshCall} (early : (throttle.claim call.claimedAt).1 = false) :
    call.run throttle = (none, call.backends, throttle) := by
  rcases throttle.claim_cases call.claimedAt with due | ⟨_, _, _, refused⟩
  · rw [due] at early
    cases early
  · simp only [run, refreshOwnDeviceStatus, refused]

theorem run_throttle (call : RefreshCall) : (call.run throttle).2.2 = (throttle.claim call.claimedAt).2 := by
  unfold run refreshOwnDeviceStatus
  split
  · rename_i claimed
    rw [claimed]
  · rename_i claimed
    rw [claimed]
    split
    · rfl
    · rfl

end RefreshCall

/-- The device is read where the claims are granted. -/
theorem refreshes_read (throttle : PublicationThrottle) (calls : List RefreshCall) :
    ((refreshes throttle calls).filter Refresh.readsDevice).map Refresh.claimedAt =
      throttle.granted (calls.map RefreshCall.claimedAt) := by
  induction calls generalizing throttle with
  | nil => rfl
  | cons call later ih =>
    simp only [refreshes, List.map_cons, PublicationThrottle.granted, List.filter_cons, ← ih, call.run_throttle]
    split
    · rfl
    · rfl

/-- A status is returned only by a call that has read the device. -/
theorem refreshes_status {calls : List RefreshCall} {refresh : Refresh} (made : refresh ∈ refreshes throttle calls)
    (returned : refresh.status.isSome = true) : refresh.readsDevice = true := by
  induction calls generalizing throttle with
  | nil => cases made
  | cons call later ih =>
    rcases List.mem_cons.mp made with same | rest
    · subst same
      by_contra unread
      rw [RefreshCall.run_refused (Bool.not_eq_true _ ▸ unread)] at returned
      cases returned
    · exact ih rest

/-- In any window the device is read at most once for each interval that fits into it, and once more. -/
theorem refreshes_paced (throttle : PublicationThrottle) (positive : 0 < throttle.publishInterval)
    (calls : List RefreshCall) (start : Time) {length : Time} (window : 0 ≤ length) :
    ((refreshes throttle calls).countP (fun refresh => refresh.readsDevice && refresh.within start length) : Int) ≤
      length / throttle.publishInterval + 1 := by
  have spaced := (throttle.granted_spaced positive (calls.map RefreshCall.claimedAt)).1
  rw [← refreshes_read, Spaced, List.pairwise_map] at spaced
  have kept : Spaced throttle.publishInterval ((((refreshes throttle calls).filter Refresh.readsDevice).filter
      (Refresh.within start length)).map Refresh.claimedAt) := by
    rw [Spaced, List.pairwise_map]
    exact spaced.filter _
  have inside : ∀ time ∈ (((refreshes throttle calls).filter Refresh.readsDevice).filter
      (Refresh.within start length)).map Refresh.claimedAt, start ≤ time ∧ time ≤ start + length := by
    intro time member
    obtain ⟨refresh, listed, same⟩ := List.mem_map.mp member
    have within := (List.mem_filter.mp listed).2
    simp only [Refresh.within, Bool.and_eq_true, decide_eq_true_eq] at within
    rw [← same]
    exact within
  have bound := kept.length_le positive window inside
  rw [List.length_map, List.filter_filter] at bound
  rw [List.countP_eq_length_filter]
  simpa only [Bool.and_comm] using bound

/-- No more statuses than readings of the device. -/
theorem refreshes_published (throttle : PublicationThrottle) (calls : List RefreshCall) (start length : Time) :
    (refreshes throttle calls).countP (fun refresh => refresh.status.isSome && refresh.within start length) ≤
      (refreshes throttle calls).countP (fun refresh => refresh.readsDevice && refresh.within start length) := by
  refine List.countP_mono_left ?_
  intro refresh made published
  rw [Bool.and_eq_true] at published ⊢
  exact ⟨refreshes_status made published.1, published.2⟩

/-- The pacing of a throttle with a positive interval: what is granted is an interval apart, a claim is refused
only within an interval of the last granted one, and one of two successive claims an interval apart is
granted. So a process that refreshes its own device reads it, and publishes, at most once for each interval
that fits into a window, and once more; a refused call does not look at the device at all. -/
theorem publication_pacing (interval : Time) (positive : 0 < interval) :
    (∀ times : List Time, times.Pairwise (· ≤ ·) → Spaced interval ((PublicationThrottle.new interval).granted times)) ∧
    (∀ (before : List Time) (now : Time), (before ++ [now]).Pairwise (· ≤ ·) →
      (((PublicationThrottle.new interval).after before).claim now).1 = false →
      ∃ last, ((PublicationThrottle.new interval).granted before).getLast? = some last ∧ now - last < interval) ∧
    (∀ (before : List Time) (first second : Time), (before ++ [first, second]).Pairwise (· ≤ ·) →
      interval ≤ second - first →
      (((PublicationThrottle.new interval).after (before ++ [first])).claim second).1 = true) ∧
    (∀ (calls : List RefreshCall) (start length : Time), (calls.map RefreshCall.claimedAt).Pairwise (· ≤ ·) →
      0 ≤ length →
      ((refreshes (.new interval) calls).countP
        (fun refresh => refresh.readsDevice && refresh.within start length) : Int) ≤ length / interval + 1 ∧
      ((refreshes (.new interval) calls).countP
        (fun refresh => refresh.status.isSome && refresh.within start length) : Int) ≤ length / interval + 1) ∧
    ∀ (throttle : PublicationThrottle) (call : RefreshCall) (device : DeviceReading),
      (throttle.claim call.claimedAt).1 = false → { call with device := device }.run throttle = call.run throttle := by
  refine ⟨?_, ?_, ?_, ?_, ?_⟩
  · intro times _
    exact ((PublicationThrottle.new interval).granted_spaced positive times).1
  · intro before now _ refused
    obtain ⟨_, last, claimed, early⟩ := PublicationThrottle.claim_refused refused
    rw [PublicationThrottle.after_lastClaimed, PublicationThrottle.new, Option.or_none] at claimed
    rw [PublicationThrottle.after_interval] at early
    exact ⟨last, claimed, early⟩
  · intro before first second ordered apart
    refine PublicationThrottle.claim_due ?_ apart rfl
    refine ordered.sublist ?_
    exact List.Sublist.append_left (List.singleton_sublist.mpr (List.mem_cons_self ..)) before
  · intro calls start length _ window
    have reads := refreshes_paced (.new interval) positive calls start window
    have published := refreshes_published (.new interval) calls start length
    exact ⟨reads, (Int.ofNat_le.mpr published).trans reads⟩
  · intro throttle call device refused
    rw [RefreshCall.run_refused refused]
    exact RefreshCall.run_refused refused

/-- Four calls within two intervals of five, the second of them on a device that cannot be read. -/
theorem publication_pacing_four :
    let failing : DeviceReading := { DeviceReading.idle with status := .error ⟨.fatal, "offline"⟩ }
    let call : DeviceReading → Time → RefreshCall := fun device now => ⟨"alpha", device, .new 30, "", now, now⟩
    ((refreshes (.new 5) [call .idle 0, call failing 5, call .idle 7, call .idle 10]).countP
      (fun refresh => refresh.readsDevice && refresh.within 0 10) : Int) ≤ 3 := by
  intro failing call
  exact ((publication_pacing 5 (by decide)).2.2.2.1 [call .idle 0, call failing 5, call .idle 7, call .idle 10] 0 10
    (by decide) (by decide)).1

end Qrmci
