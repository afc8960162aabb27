import Mathlib.Algebra.Order.Group.Int
import Mathlib.Tactic.Ring

/-- A list of times that are a gap apart at least. -/
def Spaced (gap : Int) (times : List Int) : Prop :=
  times.Pairwise fun earlier later => gap ≤ later - earlier

namespace Spaced

variable {gap : Int} {times : List Int}

/-- So many gaps lie between the first of them and any bound on the others. -/
theorem span {first last : Int} (spaced : Spaced gap (first :: times)) (bounded : ∀ time ∈ first :: times, time ≤ last) :
    times.length * gap ≤ last - first := by
  induction times generalizing first with
  | nil =>
    have bound := bounded first (List.mem_cons_self ..)
    simp only [List.length_nil, Nat.cast_zero, Int.zero_mul]
    omega
  | cons second rest ih =>
    obtain ⟨apart, others⟩ := List.pairwise_cons.mp spaced
    have gapped := apart second (List.mem_cons_self ..)
    have later := ih others (fun time member => bounded time (List.mem_cons_of_mem _ member))
    have more : ((second :: rest).length : Int) * gap = rest.length * gap + gap := by
      rw [List.length_cons, Nat.cast_succ]
      ring
    omega

/-- How many of them fit into a window, its ends included. -/
theorem length_le {start length : Int} (positive : 0 < gap) (spaced : Spaced gap times) (window : 0 ≤ length)
    (within : ∀ time ∈ times, start ≤ time ∧ time ≤ start + length) : (times.length : Int) ≤ length / gap + 1 := by
  cases times with
  | nil =>
    have room := Int.ediv_nonneg window positive.le
    simp only [List.length_nil, Nat.cast_zero]
    omega
  | cons first rest =>
    have begins := (within first (List.mem_cons_self ..)).1
    have gaps := spaced.span fun time member => (within time member).2
    have fits : (rest.length : Int) ≤ length / gap := (Int.le_ediv_iff_mul_le positive).mpr (by omega)
    rw [List.length_cons, Nat.cast_succ]
    omega

end Spaced
