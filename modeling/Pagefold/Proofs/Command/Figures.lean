import Mathlib
import Pagefold.Command.Status
import Pagefold.Proofs.Text.Cut

/-!
# Figures that fit their units

A unit is chosen for the exact size or duration, and its figure is rounded to hundredths after that.
Where the digits are whole, as those of bytes, milliseconds, and minutes with seconds, the figure is
below the next unit. Kilobytes, megabytes and seconds with a fraction come up to the next unit, but
never beyond it: values from the middle of the last hundredth on are shown as 1024.00 or 60.00. The
sizes and durations where this happens are told exactly.

A duration is formed from two numbers of 53 binary digits. Their rounding moves no duration over the
middle between two hundredths, but the middle itself may go either way.
-/
namespace Pagefold.Number

/-!
## How far rounding goes

A number lies within half a unit of the quotient that it was rounded from, which bounds it on both
sides. A ratio below one has 53 binary places or more, and its sum with a number below 63 still has
47 of them. So the sum of seconds and a fraction of nanoseconds is off by much less than half a
nanosecond, and its hundredths are on the same side of the middle between two of them as the exact
value, unless that value is the middle.
-/

section Nearest

variable {num den k : Nat} (positive : 0 < den)

include positive

/-- A quotient below the middle between `k` and the next number is not rounded beyond `k`. -/
theorem nearest_le (below : 2 * num < (2 * k + 1) * den) : nearest num den ≤ k := by
  obtain ⟨close, _⟩ := nearest_close num positive
  have less : nearest num den * den < (k + 1) * den := by
    have middle : (2 * k + 1) * den = 2 * (k * den) + den := by ring
    have next : (k + 1) * den = k * den + den := by ring
    omega
  exact Nat.le_of_lt_succ (Nat.lt_of_mul_lt_mul_right less)

/-- A quotient above the middle between the number before `k` and `k` is not rounded below `k`. -/
theorem le_nearest (above : 2 * k * den < 2 * num + den) : k ≤ nearest num den := by
  obtain ⟨_, close⟩ := nearest_close num positive
  have less : k * den < (nearest num den + 1) * den := by
    have middle : 2 * k * den = 2 * (k * den) := by ring
    have next : (nearest num den + 1) * den = nearest num den * den + den := by ring
    omega
  exact Nat.le_of_lt_succ (Nat.lt_of_mul_lt_mul_right less)

/-- A quotient in the middle is rounded to the even one of its neighbours. -/
theorem nearest_middle (even : k % 2 = 0) (middle : 2 * num + den = 2 * k * den) :
    nearest num den = k := by
  have whole := Nat.div_add_mod num den
  have short := Nat.mod_lt num positive
  have balance : (2 * (num / den) + 1) * den + 2 * (num % den) = 2 * k * den := by
    have expand : (2 * (num / den) + 1) * den = 2 * (den * (num / den)) + den := by ring
    omega
  have lower : 2 * (num / den) + 1 ≤ 2 * k :=
    Nat.le_of_mul_le_mul_right (by omega : _ * den ≤ 2 * k * den) positive
  have upper : 2 * k < 2 * (num / den) + 1 + 2 := by
    refine Nat.lt_of_mul_lt_mul_right (a := den) ?_
    have expand : (2 * (num / den) + 1 + 2) * den = (2 * (num / den) + 1) * den + 2 * den := by ring
    omega
  have before : num / den + 1 = k := by omega
  have half : 2 * (num % den) = den := by
    have expand : 2 * k * den = (2 * (num / den) + 1) * den + den := by
      rw [← before]
      ring
    omega
  rw [nearest, if_neg (by omega), before]

/-- Only what is below the middle between an even number and the one before it is rounded to less
than the even one. -/
theorem nearest_lt_iff (even : k % 2 = 0) : nearest num den < k ↔ 2 * num + den < 2 * k * den := by
  constructor
  · intro less
    by_contra above
    rcases Nat.lt_or_eq_of_le (Nat.le_of_not_lt above) with beyond | middle
    · exact absurd (le_nearest positive beyond) (Nat.not_le_of_lt less)
    · exact absurd (nearest_middle positive even middle.symm) (Nat.ne_of_lt less)
  · intro below
    obtain ⟨close, _⟩ := nearest_close num positive
    refine Nat.lt_of_mul_lt_mul_right (a := den) ?_
    have double : 2 * k * den = 2 * (k * den) := by ring
    omega

end Nearest

/-- A number keeps its value up to half a unit of its last binary digit. -/
theorem toPrecision_close (n : Nat) :
    2 * toPrecision n ≤ 2 * n + power (n.log2 - 52) ∧
      2 * n ≤ 2 * toPrecision n + power (n.log2 - 52) :=
  nearest_close n (Nat.pow_pos (by decide))

theorem power_add (a b : Nat) : power (a + b) = power a * power b := Nat.pow_add 2 a b

theorem power_pos (exponent : Nat) : 0 < power exponent := Nat.pow_pos (by decide)

theorem power_le {a b : Nat} (order : a ≤ b) : power a ≤ power b :=
  Nat.pow_le_pow_right (by decide) order

namespace BinaryFraction

/-- A ratio below one has 53 binary places or more. -/
theorem placesOf_ge {num den : Nat} (less : num < den) : 53 ≤ placesOf num den := by
  have order : num.log2 ≤ den.log2 := by
    by_cases zero : num = 0
    · rw [zero]
      exact Nat.zero_le _
    · exact (Nat.le_log2 (by omega)).mpr ((Nat.log2_self_le zero).trans (Nat.le_of_lt less))
  unfold placesOf
  by_cases short : num * power (52 + den.log2 - num.log2) < den * power 52
  · rw [if_pos short]
    omega
  · rw [if_neg short]
    by_contra few
    have exactly : 52 + den.log2 - num.log2 = 52 := by omega
    rw [exactly] at short
    exact short (Nat.mul_lt_mul_of_pos_right less (power_pos 52))

/-- Half a unit of its last place is how far a ratio may be off. -/
theorem ofRatio_close (num : Nat) {den : Nat} (positive : 0 < den) :
    2 * ((ofRatio num den).significand * den) ≤
        2 * (num * power (ofRatio num den).places) + den ∧
      2 * (num * power (ofRatio num den).places) ≤
        2 * ((ofRatio num den).significand * den) + den :=
  nearest_close _ positive

/-- A fraction of at most one and a number below 63 have a sum of 47 places or more. -/
theorem addNat_close (f : BinaryFraction) (n : Nat) (places : 47 ≤ f.places) (small : n < 63)
    (fraction : f.significand ≤ power f.places) :
    2 * (f.addNat n).significand ≤
        2 * (n * power f.places + f.significand) + power (f.places - 47) ∧
      2 * (n * power f.places + f.significand) ≤
        2 * (f.addNat n).significand + power (f.places - 47) := by
  have sum : n * power f.places + f.significand < power (f.places + 6) := by
    have whole : n * power f.places ≤ 62 * power f.places := Nat.mul_le_mul_right _ (by omega)
    have shifted : power (f.places + 6) = power f.places * 64 := power_add _ _
    have positive := power_pos f.places
    omega
  have digits : (n * power f.places + f.significand).log2 - 52 ≤ f.places - 47 := by
    by_cases zero : n * power f.places + f.significand = 0
    · rw [zero]
      exact Nat.zero_le _
    · have short := (Nat.log2_lt zero).mpr sum
      omega
  have unit := power_le digits
  obtain ⟨above, below⟩ := toPrecision_close (n * power f.places + f.significand)
  exact ⟨above.trans (Nat.add_le_add_left unit _), below.trans (Nat.add_le_add_left unit _)⟩

end BinaryFraction

end Pagefold.Number

namespace Pagefold.Command

open Number

/-!
## Figures of sizes
-/

theorem SizeUnit.bytes_pos (unit : SizeUnit) : 0 < unit.bytes := by
  cases unit <;> decide

/-- Below 53 binary digits a size is shown as it is, divided by its unit. -/
theorem ofBytes_eq (bytes : Nat) (exact_ : bytes < 2 ^ 53) :
    SizeFigure.ofBytes bytes =
      ⟨nearest (100 * bytes) (SizeUnit.ofSize bytes).bytes, SizeUnit.ofSize bytes⟩ := by
  rw [SizeFigure.ofBytes, toPrecision_of_lt exact_]

/-- A size holds less than 1024 of its unit, unless the unit is the largest one. -/
theorem ofSize_lt (bytes : Nat) (smaller : SizeUnit.ofSize bytes ≠ .gb) :
    bytes < 1024 * (SizeUnit.ofSize bytes).bytes := by
  unfold SizeUnit.ofSize at smaller ⊢
  by_cases one : bytes < SizeUnit.kb.bytes
  · rw [if_pos one]
    exact one
  · rw [if_neg one] at smaller ⊢
    by_cases two : bytes < SizeUnit.mb.bytes
    · rw [if_pos two]
      exact two
    · rw [if_neg two] at smaller ⊢
      by_cases three : bytes < SizeUnit.gb.bytes
      · rw [if_pos three]
        exact three
      · rw [if_neg three] at smaller
        exact absurd rfl smaller

/-- The figure of a size in a smaller unit is at most 1024, and is less exactly if the size is below
the middle of the last hundredth. -/
theorem size_fits (bytes : Nat) (smaller : SizeUnit.ofSize bytes ≠ .gb) :
    nearest (100 * bytes) (SizeUnit.ofSize bytes).bytes ≤ 102400 ∧
      (nearest (100 * bytes) (SizeUnit.ofSize bytes).bytes < 102400 ↔
        200 * bytes < 204799 * (SizeUnit.ofSize bytes).bytes) := by
  have positive := SizeUnit.bytes_pos (SizeUnit.ofSize bytes)
  have fits := ofSize_lt bytes smaller
  refine ⟨nearest_le positive (by omega), ?_⟩
  rw [nearest_lt_iff positive (by decide)]
  omega

/-!
## Figures of durations
-/

/-- The seconds of a duration as the sum of the whole ones and their fraction. -/
def secondsOf (nanoseconds : Nat) : BinaryFraction :=
  (BinaryFraction.ofRatio (nanoseconds % DurationFigure.perSecond) DurationFigure.perSecond).addNat
    (nanoseconds / DurationFigure.perSecond)

/-- The seconds are off by less than a unit of their 47th binary place. -/
theorem seconds_close (n : Nat) (short : n < 60 * DurationFigure.perSecond) :
    ∃ unit, 0 < unit ∧ power (secondsOf n).places = 140737488355328 * unit ∧
      2 * (1000000000 * (secondsOf n).significand) ≤
        2 * (n * power (secondsOf n).places) + 1000000000 * (unit + 1) ∧
      2 * (n * power (secondsOf n).places) ≤
        2 * (1000000000 * (secondsOf n).significand) + 1000000000 * (unit + 1) := by
  obtain ⟨whole, rest, split, less⟩ : ∃ whole rest, n = 1000000000 * whole + rest ∧
      rest < 1000000000 :=
    ⟨n / 1000000000, n % 1000000000, (Nat.div_add_mod _ _).symm, Nat.mod_lt _ (by decide)⟩
  have quotient : n / DurationFigure.perSecond = whole := by
    rw [DurationFigure.perSecond]
    omega
  have remainder : n % DurationFigure.perSecond = rest := by
    rw [DurationFigure.perSecond]
    omega
  rw [secondsOf, quotient, remainder, DurationFigure.perSecond]
  rw [DurationFigure.perSecond] at short
  let f := BinaryFraction.ofRatio rest 1000000000
  have places : 53 ≤ f.places := BinaryFraction.placesOf_ge less
  have wide : power 53 ≤ power f.places := power_le places
  obtain ⟨above, below⟩ := BinaryFraction.ofRatio_close rest (by decide : 0 < 1000000000)
  change 2 * (f.significand * 1000000000) ≤ 2 * (rest * power f.places) + 1000000000 at above
  change 2 * (rest * power f.places) ≤ 2 * (f.significand * 1000000000) + 1000000000 at below
  have most : rest * power f.places ≤ 999999999 * power f.places :=
    Nat.mul_le_mul_right _ (by omega)
  have fraction : f.significand ≤ power f.places := by
    have room : power 53 = 9007199254740992 := rfl
    omega
  obtain ⟨high, low⟩ := BinaryFraction.addNat_close f whole (by omega) (by omega) fraction
  have unit : power f.places = 140737488355328 * power (f.places - 47) := by
    rw [← Nat.add_sub_of_le (by omega : 47 ≤ f.places), power_add, Nat.add_sub_cancel_left]
    rfl
  have expand : n * power f.places =
      1000000000 * (whole * power f.places) + rest * power f.places := by
    rw [split]
    ring
  refine ⟨power (f.places - 47), power_pos _, unit, ?_, ?_⟩
  · change 2 * (1000000000 * (f.addNat whole).significand) ≤ 2 * (n * power f.places) + _
    omega
  · change 2 * (n * power f.places) ≤ 2 * (1000000000 * (f.addNat whole).significand) + _
    omega

/-- A duration below the middle between two hundredths is not rounded beyond the lower one. -/
theorem seconds_le {n k : Nat} (short : n < 60 * DurationFigure.perSecond)
    (below : 2 * n < (2 * k + 1) * 10000000) : (secondsOf n).hundredths ≤ k := by
  obtain ⟨unit, positive, width, above, _⟩ := seconds_close n short
  have scaled : (2 * n + 1) * power (secondsOf n).places ≤
      (2 * k + 1) * 10000000 * power (secondsOf n).places := Nat.mul_le_mul_right _ below
  refine nearest_le (power_pos _) ?_
  have left : (2 * n + 1) * power (secondsOf n).places =
      2 * (n * power (secondsOf n).places) + power (secondsOf n).places := by ring
  have right : (2 * k + 1) * 10000000 * power (secondsOf n).places =
      10000000 * ((2 * k + 1) * power (secondsOf n).places) := by ring
  omega

/-- A duration above the middle between two hundredths is not rounded below the upper one. -/
theorem le_seconds {n k : Nat} (short : n < 60 * DurationFigure.perSecond)
    (above : 2 * k * 10000000 < 2 * n + 10000000) : k ≤ (secondsOf n).hundredths := by
  obtain ⟨unit, positive, width, _, below⟩ := seconds_close n short
  have scaled : (2 * k * 10000000 + 1) * power (secondsOf n).places ≤
      (2 * n + 10000000) * power (secondsOf n).places := Nat.mul_le_mul_right _ above
  refine le_nearest (power_pos _) ?_
  have left : (2 * k * 10000000 + 1) * power (secondsOf n).places =
      10000000 * (2 * k * power (secondsOf n).places) + power (secondsOf n).places := by ring
  have right : (2 * n + 10000000) * power (secondsOf n).places =
      2 * (n * power (secondsOf n).places) + 10000000 * power (secondsOf n).places := by ring
  omega

/-- A duration that is not in the middle between two hundredths is rounded as its exact value. -/
theorem seconds_exact (n : Nat) (short : n < 60 * DurationFigure.perSecond)
    (clear : 2 * (n % 10000000) ≠ 10000000) :
    (secondsOf n).hundredths = nearest n 10000000 := by
  obtain ⟨high, low⟩ := nearest_close n (by decide : 0 < 10000000)
  exact Nat.le_antisymm (seconds_le short (by omega)) (le_seconds short (by omega))

/-- Seconds come up to a minute exactly if they are beyond the middle of its last hundredth; in the
middle they are just below it, because this number is rounded down. -/
theorem seconds_fit (n : Nat) (short : n < 60 * DurationFigure.perSecond) :
    (secondsOf n).hundredths ≤ 6000 ∧
      ((secondsOf n).hundredths < 6000 ↔ n ≤ 59995000000) := by
  have limit := short
  rw [DurationFigure.perSecond] at limit
  refine ⟨seconds_le short (by omega), ?_⟩
  constructor
  · intro less
    by_contra beyond
    exact absurd (le_seconds (k := 6000) short (by omega)) (Nat.not_le_of_lt less)
  · intro inside
    by_cases middle : n = 59995000000
    · subst middle
      decide +kernel
    · exact Nat.lt_succ_of_le (seconds_le (k := 5999) short (by omega))

/-!
## Figures in texts
-/

/-- The number that a decimal text writes, without a point or with two places, in hundredths. -/
def hundredths? (text : String) : Option Nat :=
  let whole := text.toList.takeWhile Char.isDigit
  match text.toList.dropWhile Char.isDigit with
  | [] => some (100 * Nat.ofDigitChars 10 whole 0)
  | '.' :: places =>
    if places.length = 2 ∧ places.all Char.isDigit then
      some (Nat.ofDigitChars 10 (whole ++ places) 0)
    else none
  | _ => none

/-- A text shows a number of hundredths in a unit if it writes the number and then the unit. -/
def Shows (text : String) (hundredths : Nat) (unit : String) : Prop :=
  ∃ number, text = number ++ unit ∧ hundredths? number = some hundredths

/-- The digits of a number are digits. -/
theorem digits_only (n : Nat) : ∀ c ∈ Nat.toDigits 10 n, c.isDigit = true :=
  fun _ member => Nat.isDigit_of_mem_toDigits (by decide) (by decide) member

/-- A number without a point is read as it is written. -/
theorem whole_read (n : Nat) : hundredths? (toString n) = some (100 * n) := by
  have rest : (Nat.toDigits 10 n).dropWhile Char.isDigit = [] :=
    List.dropWhile_eq_nil_iff.mpr (digits_only n)
  have whole : (Nat.toDigits 10 n).takeWhile Char.isDigit = Nat.toDigits 10 n :=
    List.takeWhile_eq_self_iff.mpr (digits_only n)
  rw [hundredths?, Nat.toString_eq_repr, Nat.toList_repr, rest, whole,
    Nat.ofDigitChars_ten_toDigits]

/-- A number with two places is its whole digits, a point and two more digits. -/
theorem twoPlaces_toList (n : Nat) :
    (twoPlaces n).toList = Nat.toDigits 10 (n / 100) ++
      '.' :: [Nat.digitChar (n % 100 / 10), Nat.digitChar (n % 10)] := by
  have less : n % 100 < 100 := Nat.mod_lt n (by decide)
  have last : n % 100 % 10 = n % 10 := by omega
  rw [twoPlaces, Nat.toString_eq_repr, Nat.toString_eq_repr, String.toList_append,
    String.toList_append, Nat.toList_repr, Nat.toList_repr, List.append_assoc]
  by_cases small : n % 100 < 10
  · have none : n % 100 / 10 = 0 := by omega
    rw [if_pos small, Nat.toDigits_of_lt_base small, none, ← last, Nat.mod_eq_of_lt small]
    rfl
  · rw [if_neg small, Nat.toDigits_of_base_le (by decide) (Nat.le_of_not_lt small),
      Nat.toDigits_of_lt_base (by omega : n % 100 / 10 < 10), last]
    rfl

/-- A number with two places is read as it is written. -/
theorem twoPlaces_read (n : Nat) : hundredths? (twoPlaces n) = some n := by
  have tens : n % 100 / 10 < 10 := by omega
  have ones : n % 10 < 10 := Nat.mod_lt n (by decide)
  obtain ⟨whole, rest⟩ := Text.run_ends
    [Nat.digitChar (n % 100 / 10), Nat.digitChar (n % 10)] (digits_only (n / 100))
    (by decide : Char.isDigit '.' = false)
  have value : Nat.ofDigitChars 10 (Nat.toDigits 10 (n / 100) ++
      [Nat.digitChar (n % 100 / 10), Nat.digitChar (n % 10)]) 0 = n := by
    rw [Nat.ofDigitChars_append, Nat.ofDigitChars_ten_toDigits,
      Nat.ofDigitChars_cons_digitChar_of_lt_ten tens,
      Nat.ofDigitChars_cons_digitChar_of_lt_ten ones, Nat.ofDigitChars_nil]
    omega
  rw [hundredths?, twoPlaces_toList, whole, rest]
  simp [Nat.isDigit_digitChar, tens, ones, value]

/-- A size shows its figure in its unit. -/
theorem size_shown (bytes : Nat) (exact_ : bytes < 2 ^ 53) :
    Shows (sizeText bytes) (nearest (100 * bytes) (SizeUnit.ofSize bytes).bytes)
      (" " ++ (SizeUnit.ofSize bytes).sign) := by
  rw [sizeText, ofBytes_eq bytes exact_]
  cases unit : SizeUnit.ofSize bytes with
  | b =>
    have same : nearest (100 * bytes) SizeUnit.b.bytes = 100 * bytes := by
      simpa [SizeUnit.bytes] using nearest_mul (100 * bytes) (by decide : 0 < 1)
    refine ⟨toString bytes, ?_, ?_⟩
    · simp [SizeFigure.text, same, String.append_assoc]
    · rw [whole_read, same]
  | kb => exact ⟨twoPlaces _, by simp [SizeFigure.text, String.append_assoc], twoPlaces_read _⟩
  | mb => exact ⟨twoPlaces _, by simp [SizeFigure.text, String.append_assoc], twoPlaces_read _⟩
  | gb => exact ⟨twoPlaces _, by simp [SizeFigure.text, String.append_assoc], twoPlaces_read _⟩

/-- Whole milliseconds are fewer than a number exactly if the duration is less than so many. -/
theorem milliseconds_lt_iff (n k : Nat) :
    n / DurationFigure.perMillisecond < k ↔ n < k * 1000000 :=
  Nat.div_lt_iff_lt_mul (by decide)

/-- Below a second a duration shows its milliseconds. -/
theorem milliseconds_shown (n : Nat) (short : n < 1000000000) :
    Shows (durationText n) (100 * (n / 1000000)) "ms" := by
  have few := (milliseconds_lt_iff n 1000).mpr short
  refine ⟨toString (n / 1000000), ?_, whole_read _⟩
  rw [durationText, DurationFigure.ofNanoseconds, if_pos few]
  rfl

/-- Below a minute a duration shows its seconds. -/
theorem seconds_shown (n : Nat) (long : 1000000000 ≤ n) (short : n < 60000000000) :
    Shows (durationText n) (secondsOf n).hundredths "s" := by
  have many : ¬ n / DurationFigure.perMillisecond < 1000 := by
    rw [milliseconds_lt_iff]
    omega
  have few := (milliseconds_lt_iff n 60000).mpr short
  refine ⟨twoPlaces (secondsOf n).hundredths, ?_, twoPlaces_read _⟩
  rw [durationText, DurationFigure.ofNanoseconds, if_neg many, if_pos few]
  rfl

/-- From a minute on a duration shows its minutes and the seconds that are left. -/
theorem minutes_shown (n : Nat) (long : 60000000000 ≤ n) :
    ∃ minutes left, durationText n = minutes ++ "m " ++ left ∧
      hundredths? minutes = some (100 * (n / 1000000000 / 60)) ∧
      Shows left (100 * (n / 1000000000 % 60)) "s" := by
  have many : ¬ n / DurationFigure.perMillisecond < 1000 := by
    rw [milliseconds_lt_iff]
    omega
  have more : ¬ n / DurationFigure.perMillisecond < 60000 := by
    rw [milliseconds_lt_iff]
    omega
  refine ⟨toString (n / 1000000000 / 60), toString (n / 1000000000 % 60) ++ "s", ?_,
    whole_read _, ⟨_, rfl, whole_read _⟩⟩
  rw [durationText, DurationFigure.ofNanoseconds, if_neg many, if_neg more]
  simp [DurationFigure.text, DurationFigure.perSecond, String.append_assoc]

/-- Every size below 53 binary digits is shown as its exact quotient by its unit, rounded to
hundredths. In bytes, kilobytes and megabytes it is at most 1024, and less exactly if the size is
below the middle of the last hundredth before. Every duration shows less than 1000 milliseconds, at
most 60 seconds with a fraction, or less than 60 seconds after its minutes. The seconds with a
fraction are the exact ones rounded to hundredths, but for the middle of two hundredths, and are
less than 60 exactly up to the middle of the last hundredth before. -/
theorem shown_amounts (bytes n : Nat) (exact_ : bytes < 2 ^ 53) :
    (∃ shown, Shows (sizeText bytes) shown (" " ++ (SizeUnit.ofSize bytes).sign) ∧
      shown = nearest (100 * bytes) (SizeUnit.ofSize bytes).bytes ∧
      (SizeUnit.ofSize bytes ≠ .gb → shown ≤ 102400 ∧
        (shown < 102400 ↔ 200 * bytes < 204799 * (SizeUnit.ofSize bytes).bytes))) ∧
    (n < 1000000000 → ∃ shown, Shows (durationText n) shown "ms" ∧ shown < 100000) ∧
    (1000000000 ≤ n → n < 60000000000 → ∃ shown, Shows (durationText n) shown "s" ∧
      (2 * (n % 10000000) ≠ 10000000 → shown = nearest n 10000000) ∧
      shown ≤ 6000 ∧ (shown < 6000 ↔ n ≤ 59995000000)) ∧
    (60000000000 ≤ n → ∃ minutes left shown, durationText n = minutes ++ "m " ++ left ∧
      hundredths? minutes = some (100 * (n / 1000000000 / 60)) ∧ Shows left shown "s" ∧
      shown < 6000) := by
  refine ⟨?_, fun short => ?_, fun long short => ?_, fun long => ?_⟩
  · exact ⟨_, size_shown bytes exact_, rfl, size_fits bytes⟩
  · exact ⟨_, milliseconds_shown n short, by omega⟩
  · obtain ⟨most, less⟩ := seconds_fit n short
    exact ⟨_, seconds_shown n long short, seconds_exact n short, most, less⟩
  · obtain ⟨minutes, left, shown, count, seconds⟩ := minutes_shown n long
    exact ⟨minutes, left, _, shown, count, seconds, by omega⟩

/-- The largest size and the longest duration that are still shown below the next unit. -/
theorem shown_amounts_below :
    (∃ shown, Shows (sizeText 1048570) shown " KB" ∧ shown < 102400) ∧
      ∃ shown, Shows (durationText 59995000000) shown "s" ∧ shown < 6000 := by
  obtain ⟨⟨size, kilobytes, _, fits⟩, _, seconds, _⟩ :=
    shown_amounts 1048570 59995000000 (by decide)
  obtain ⟨duration, single, _, _, less⟩ := seconds (by decide) (by decide)
  exact ⟨⟨size, kilobytes, (fits (by decide)).2.mpr (by decide)⟩,
    duration, single, less.mpr (by decide)⟩

/-- A byte below a megabyte is shown as 1024 kilobytes, a byte below a gigabyte as 1024 megabytes,
and a nanosecond below a minute as 60 seconds. -/
theorem shown_amounts_beyond :
    sizeText 1048575 = "1024.00 KB" ∧ sizeText 1073741823 = "1024.00 MB" ∧
      durationText 59999999999 = "60.00s" ∧
      (¬ ∀ bytes < 2 ^ 53, SizeUnit.ofSize bytes ≠ .gb → ∀ shown,
        Shows (sizeText bytes) shown (" " ++ (SizeUnit.ofSize bytes).sign) → shown < 102400) ∧
      ¬ ∀ n, 1000000000 ≤ n → n < 60000000000 → ∀ shown,
        Shows (durationText n) shown "s" → shown < 6000 := by
  have kilobytes : sizeText 1048575 = "1024.00 KB" := by decide +kernel
  have seconds : durationText 59999999999 = "60.00s" := by decide +kernel
  refine ⟨kilobytes, by decide +kernel, seconds, fun fits => ?_, fun fits => ?_⟩
  · have shows : Shows (sizeText 1048575) 102400 (" " ++ (SizeUnit.ofSize 1048575).sign) :=
      ⟨"1024.00", kilobytes.trans (by decide +kernel), by decide +kernel⟩
    exact absurd (fits 1048575 (by decide) (by decide) 102400 shows) (by decide)
  · have shows : Shows (durationText 59999999999) 6000 "s" :=
      ⟨"60.00", seconds.trans (by decide +kernel), by decide +kernel⟩
    exact absurd (fits 59999999999 (by decide) (by decide) 6000 shows) (by decide)

end Pagefold.Command
