import Qrmci.Protocol

namespace Qrmci

/-- At most one status publication slot per interval. -/
structure PublicationThrottle where
  publishInterval : Time
  lastClaimed : Option Time
  deriving DecidableEq, Repr

namespace PublicationThrottle

def new (interval : Time) : PublicationThrottle := ⟨interval, none⟩

def claim (throttle : PublicationThrottle) (now : Time) : Bool × PublicationThrottle :=
  match throttle.lastClaimed with
  | some last =>
    if now - last < throttle.publishInterval then (false, throttle)
    else (true, { throttle with lastClaimed := some now })
  | none => (true, { throttle with lastClaimed := some now })

/-- A claim is refused only within one interval of the last granted one. -/
theorem claim_cases (throttle : PublicationThrottle) (now : Time) :
    (throttle.claim now = (true, { throttle with lastClaimed := some now })) ∨
      ∃ last, throttle.lastClaimed = some last ∧ now - last < throttle.publishInterval ∧
        throttle.claim now = (false, throttle) := by
  unfold claim
  cases throttle.lastClaimed with
  | none => exact Or.inl rfl
  | some last =>
    by_cases early : now - last < throttle.publishInterval
    · exact Or.inr ⟨last, rfl, early, by simp [early]⟩
    · exact Or.inl (by simp [early])

end PublicationThrottle

end Qrmci
