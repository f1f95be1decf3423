/-!
# Rounding to the nearest number

A quotient is rounded to the nearest integer, a half to the even neighbour. Numbers with 53
binary digits arise in the same way. All values are pairs of natural numbers, so every
statement about them is one of integer arithmetic.
-/
namespace Pagefold.Number

/-- The integer nearest to `num / den`; of two equally near ones the even one. -/
def nearest (num den : Nat) : Nat :=
  if 2 * (num % den) < den ∨ (2 * (num % den) = den ∧ num / den % 2 = 0) then num / den
  else num / den + 1

/-- A quotient without remainder is its own nearest integer. -/
theorem nearest_mul (n : Nat) {den : Nat} (positive : 0 < den) : nearest (n * den) den = n := by
  simp [nearest, Nat.mul_div_cancel n positive, positive]

/-- The nearest integer is at most a half away from the quotient. -/
theorem nearest_close (num : Nat) {den : Nat} (positive : 0 < den) :
    2 * (nearest num den * den) ≤ 2 * num + den ∧ 2 * num ≤ 2 * (nearest num den * den) + den := by
  have whole := Nat.div_add_mod num den
  have short := Nat.mod_lt num positive
  unfold nearest
  split
  · rw [Nat.mul_comm (num / den) den]
    omega
  · rw [Nat.add_mul, Nat.one_mul, Nat.mul_comm (num / den) den]
    omega

/-- The powers of two. -/
def power (exponent : Nat) : Nat := Nat.pow 2 exponent

/-- The number with at most 53 binary digits, then zeros, that is nearest to `n`. -/
def toPrecision (n : Nat) : Nat :=
  nearest n (power (n.log2 - 52)) * power (n.log2 - 52)

/-- A number of at most 53 binary digits stays as it is. -/
theorem toPrecision_of_lt {n : Nat} (small : n < power 53) : toPrecision n = n := by
  have spare : n.log2 - 52 = 0 := by
    by_cases zero : n = 0
    · simp [zero]
    · have := (Nat.log2_lt zero).2 small
      omega
  have single : nearest (n * 1) 1 = n := nearest_mul n (by decide)
  simpa [toPrecision, power, spare] using single

/-- The fraction `significand / 2 ^ places`. -/
structure BinaryFraction where
  significand : Nat
  places : Nat
  deriving DecidableEq, Repr

namespace BinaryFraction

/-- The binary places with which `num / den` has 53 digits, for a ratio below `2 ^ 53`. -/
def placesOf (num den : Nat) : Nat :=
  let places := 52 + den.log2 - num.log2
  if num * power places < den * power 52 then places + 1 else places

/-- The fraction of 53 binary digits that is nearest to `num / den`. -/
def ofRatio (num den : Nat) : BinaryFraction :=
  let places := placesOf num den
  ⟨nearest (num * power places) den, places⟩

/-- The fraction of 53 binary digits that is nearest to the sum. -/
def addNat (f : BinaryFraction) (n : Nat) : BinaryFraction :=
  { f with significand := toPrecision (n * power f.places + f.significand) }

/-- The fraction in hundredths. -/
def hundredths (f : BinaryFraction) : Nat := nearest (100 * f.significand) (power f.places)

end BinaryFraction

end Pagefold.Number
