import Mathlib

/-!
# Counting up to a first match

A counter of a fixed width counts up until a number passes a test. Each turn forms the next number
before it makes the test, so the counter overflows in the turn in which it holds the last number of its
range, even if that number passes. A search that does not overflow finds the least number from its
start on that passes, and a number is found if there is a passing one before the last.
-/
namespace Pagefold

/-- The first number from `n` on that passes, found by a counter that holds the numbers below `limit`.
There is none if the counter overflows. -/
def countUp (limit : Nat) (passes : Nat → Bool) (n : Nat) : Option Nat :=
  if n + 1 < limit then
    if passes n then some n else countUp limit passes (n + 1)
  else none
termination_by limit - n

/-- Counting up finds a number exactly if it is the least that passes, and its successor is in the
range of the counter.

Proof: by induction on the turns. A number that does not pass is neither found nor the least. -/
theorem countUp_eq_some_iff (limit : Nat) (passes : Nat → Bool) (n found : Nat) :
    countUp limit passes n = some found ↔
      n ≤ found ∧ found + 1 < limit ∧ passes found = true ∧
        ∀ m, n ≤ m → m < found → passes m = false := by
  fun_induction countUp limit passes n with
  | case1 n room passed =>
    rw [Option.some.injEq]
    constructor
    · rintro rfl
      exact ⟨Nat.le_refl n, room, passed, fun m above below => absurd below (Nat.not_lt.mpr above)⟩
    · rintro ⟨above, _, _, least⟩
      by_contra different
      have missed := least n (Nat.le_refl n) (Nat.lt_of_le_of_ne above different)
      rw [passed] at missed
      cases missed
  | case2 n room missed inductionHypothesis =>
    rw [inductionHypothesis]
    have failed : passes n = false := Bool.eq_false_iff.mpr missed
    constructor
    · rintro ⟨above, inside, passed, least⟩
      refine ⟨by omega, inside, passed, fun m from_ below => ?_⟩
      by_cases start : m = n
      · exact start ▸ failed
      · exact least m (by omega) below
    · rintro ⟨above, inside, passed, least⟩
      have later : n ≠ found := by
        rintro rfl
        exact missed passed
      exact ⟨by omega, inside, passed, fun m from_ below => least m (by omega) below⟩
  | case3 n spent =>
    constructor
    · rintro ⟨⟩
    · rintro ⟨above, inside, _⟩
      omega

end Pagefold
