import Mathlib
import Pagefold.Class.Table
import Pagefold.Proofs.Search

/-!
# The written numbers

A token is a number in base 64, so two numbers are never written alike. Whether a token may
start an identifier is seen from its leading digit alone. The numbers whose leading digit may
not do so come in runs, each as long as ten times a power of 64; `firstUsable` passes over the
rest of a run in one step, and no usable number lies in between.

The counter holds 64 bits. Below its last value there is always a usable number that is no
larger than the second last one, so that taking it does not wrap the counter around.
-/
namespace Pagefold.Class

/-- The number that a list of base 64 digits stands for. -/
def valueOf (places : List Nat) : Nat := places.foldl (fun n d => 64 * n + d) 0

/-- A number below 64 has one digit. -/
theorem digits_small (n : Nat) (small : n < 64) : digits n = [n] := by
  rw [digits, if_pos small]

/-- The last digit of a number from 64 on is its remainder. -/
theorem digits_large (n : Nat) (large : 64 ≤ n) : digits n = digits (n / 64) ++ [n % 64] := by
  rw [digits, if_neg (by omega)]

/-- Every digit is a value of the alphabet. -/
theorem digit_bound (n d : Nat) (member : d ∈ digits n) : d < 64 := by
  induction n using Nat.strong_induction_on with
  | _ n inductionHypothesis =>
    by_cases small : n < 64
    · rw [digits_small n small, List.mem_singleton] at member
      omega
    · rw [digits_large n (by omega), List.mem_append, List.mem_singleton] at member
      rcases member with member | rfl
      · exact inductionHypothesis (n / 64) (by omega) member
      · omega

/-- The digits of a number stand for that number. -/
theorem value_digits (n : Nat) : valueOf (digits n) = n := by
  induction n using Nat.strong_induction_on with
  | _ n inductionHypothesis =>
    by_cases small : n < 64
    · simp [digits_small n small, valueOf]
    · have higher : valueOf (digits (n / 64)) = n / 64 := inductionHypothesis (n / 64) (by omega)
      rw [digits_large n (by omega)]
      simp only [valueOf, List.foldl_append, List.foldl_cons, List.foldl_nil] at higher ⊢
      omega

/-- Numbers with the same digits are the same. -/
theorem digits_injective (a b : Nat) (same : digits a = digits b) : a = b := by
  rw [← value_digits a, ← value_digits b, same]

/-- No symbol stands for two values. -/
theorem alphabet_distinct : alphabet.Nodup := by decide +kernel

theorem alphabet_length : alphabet.length = 64 := by decide +kernel

/-- The symbol of a digit is the alphabet's entry at its value. -/
theorem symbol_entry (d : Nat) (bound : d < 64) :
    symbol d = alphabet.get ⟨d, alphabet_length ▸ bound⟩ := by
  simp [symbol, List.getD_eq_getElem?_getD, alphabet_length, bound]

theorem symbol_member (d : Nat) (bound : d < 64) : symbol d ∈ alphabet := by
  rw [symbol_entry d bound]
  exact List.get_mem _ _

/-- The place of a symbol in the alphabet is the value that it stands for. -/
theorem place_of_symbol (d : Nat) (bound : d < 64) : alphabet.idxOf (symbol d) = d := by
  rw [symbol_entry d bound]
  exact List.get_idxOf alphabet_distinct ⟨d, alphabet_length ▸ bound⟩

/-- Reading the symbols of a number back gives its digits. -/
theorem places_of_symbols (n : Nat) :
    ((digits n).map symbol).map alphabet.idxOf = digits n := by
  rw [List.map_map]
  calc (digits n).map (alphabet.idxOf ∘ symbol)
      = (digits n).map id :=
        List.map_congr_left fun d member => place_of_symbol d (digit_bound n d member)
    _ = digits n := List.map_id _

/-- Two indices are never written alike. -/
theorem encode_injective (a b : UInt64) (same : encode a = encode b) : a = b := by
  have symbols : (digits a.toNat).map symbol = (digits b.toNat).map symbol :=
    String.ofList_injective same
  have equal : digits a.toNat = digits b.toNat := by
    rw [← places_of_symbols a.toNat, symbols, places_of_symbols b.toNat]
  exact UInt64.toNat_inj.mp (digits_injective _ _ equal)

/-- The leading digit of a number, the number of digits after it, and what these stand for. -/
theorem digits_leading (lead power low : Nat) (positive : 0 < lead) (bound : lead < 64)
    (below : low < 64 ^ power) :
    ∃ rest, digits (lead * 64 ^ power + low) = lead :: rest ∧ rest.length = power := by
  induction power generalizing low with
  | zero =>
    have none : low = 0 := by simpa using below
    exact ⟨[], by rw [none, digits_small _ (by omega)]; simp, rfl⟩
  | succ power inductionHypothesis =>
    have weight : 0 < 64 ^ power := Nat.pow_pos (by decide)
    rw [Nat.pow_succ] at below
    obtain ⟨rest, leading, length⟩ := inductionHypothesis (low / 64) (by omega)
    have shifted : lead * 64 ^ (power + 1) + low = 64 * (lead * 64 ^ power) + low := by
      rw [Nat.pow_succ]; ring
    have heavy : 1 * 1 ≤ lead * 64 ^ power := Nat.mul_le_mul positive weight
    have quotient : (64 * (lead * 64 ^ power) + low) / 64 = lead * 64 ^ power + low / 64 := by
      omega
    refine ⟨rest ++ [(64 * (lead * 64 ^ power) + low) % 64], ?_, ?_⟩
    · rw [shifted, digits_large _ (by omega), quotient, leading]
      rfl
    · simp [length]

/-- Every number is its leading digit followed by lower ones, and only zero leads with zero. -/
theorem digits_split (n : Nat) :
    ∃ lead rest low, digits n = lead :: rest ∧ n = lead * 64 ^ rest.length + low ∧
      low < 64 ^ rest.length ∧ lead < 64 ∧ (n ≠ 0 → 0 < lead) := by
  induction n using Nat.strong_induction_on with
  | _ n inductionHypothesis =>
    by_cases small : n < 64
    · exact ⟨n, [], 0, digits_small n small, by simp, by simp, small, Nat.pos_of_ne_zero⟩
    · obtain ⟨lead, rest, low, leading, weighed, below, bound, positive⟩ :=
        inductionHypothesis (n / 64) (by omega)
      refine ⟨lead, rest ++ [n % 64], 64 * low + n % 64, ?_, ?_, ?_, bound, ?_⟩
      · rw [digits_large n (by omega), leading]
        rfl
      · have lengthened : lead * 64 ^ (rest ++ [n % 64]).length = 64 * (lead * 64 ^ rest.length) := by
          rw [List.length_append, List.length_singleton, Nat.pow_succ]
          ring
        omega
      · rw [List.length_append, List.length_singleton, Nat.pow_succ]
        omega
      · intro _
        exact positive (by omega)

/-- Whether a text starts with something other than a digit or a hyphen. -/
def startsName (text : String) : Bool :=
  text.toList.head?.any fun c => !c.isDigit && c != '-'

/-- An index whose written form may start an identifier. -/
def Usable (index : Nat) : Prop := startsName (encode (.ofNat index)) = true

instance : DecidablePred Usable := fun index =>
  inferInstanceAs (Decidable (startsName (encode (.ofNat index)) = true))

/-- The symbols that a name may start with are those of the digits that the generator
takes for a start. -/
theorem start_of_symbol (d : Nat) (bound : d < 64) :
    (!(symbol d).isDigit && symbol d != '-') = startsIdentifier d := by
  revert d
  decide +kernel

/-- In the range of the counter, whether an index is usable is read off its leading digit. -/
theorem usable_iff (index lead : Nat) (rest : List Nat) (bound : index < 2 ^ 64)
    (leading : digits index = lead :: rest) : Usable index ↔ startsIdentifier lead = true := by
  have inside : lead < 64 := digit_bound index lead (leading ▸ List.mem_cons_self)
  have exact : (UInt64.ofNat index).toNat = index := UInt64.toNat_ofNat_of_lt' bound
  simp [Usable, startsName, encode, exact, leading, start_of_symbol lead inside]

/-- Numbers of one length that lead with the same digit lie together. -/
theorem leading_digit (lead power n : Nat) (positive : 0 < lead) (bound : lead < 64)
    (above : lead * 64 ^ power ≤ n) (below : n < (lead + 1) * 64 ^ power) :
    ∃ rest, digits n = lead :: rest ∧ rest.length = power := by
  have weight : (lead + 1) * 64 ^ power = lead * 64 ^ power + 64 ^ power := by ring
  have inside : n - lead * 64 ^ power < 64 ^ power := by omega
  have split : lead * 64 ^ power + (n - lead * 64 ^ power) = n := by omega
  obtain ⟨rest, leading, length⟩ :=
    digits_leading lead power (n - lead * 64 ^ power) positive bound inside
  exact ⟨rest, split ▸ leading, length⟩

/-- No index between twice a power of 64 and twelve times that power is usable. -/
theorem run_unusable (power m : Nat) (bound : m < 2 ^ 64) (above : 2 * 64 ^ power ≤ m)
    (below : m < 12 * 64 ^ power) : ¬ Usable m := by
  have weight : 0 < 64 ^ power := Nat.pow_pos (by decide)
  have most : m / 64 ^ power < 12 := (Nat.div_lt_iff_lt_mul weight).mpr below
  have least : 2 ≤ m / 64 ^ power := (Nat.le_div_iff_mul_le weight).mpr above
  have next : m < (m / 64 ^ power + 1) * 64 ^ power := by
    rw [Nat.add_mul, Nat.one_mul]
    exact Nat.lt_div_mul_add weight
  obtain ⟨rest, leading, _⟩ := leading_digit (m / 64 ^ power) power m (by omega) (by omega)
    (Nat.div_mul_le_self m _) next
  rw [usable_iff m _ rest bound leading]
  simp only [startsIdentifier, Bool.or_eq_true, beq_iff_eq, decide_eq_true_eq]
  omega

/-- Twelve times a power of 64 is usable. -/
theorem run_end_usable (power : Nat) (bound : 12 * 64 ^ power < 2 ^ 64) :
    Usable (12 * 64 ^ power) := by
  have weight : 0 < 64 ^ power := Nat.pow_pos (by decide)
  obtain ⟨rest, leading, _⟩ := leading_digit 12 power (12 * 64 ^ power) (by decide) (by decide)
    (Nat.le_refl _) (by omega)
  exact (usable_iff _ 12 rest bound leading).mpr rfl

theorem zero_unusable : ¬ Usable 0 := by
  rw [usable_iff 0 0 [] (by decide) (digits_small 0 (by decide))]
  decide

theorem one_usable : Usable 1 :=
  (usable_iff 1 1 [] (by decide) (digits_small 1 (by decide))).mpr rfl

/-- The index found is usable, none before it is, and it stays below the last value of the
counter.

Proof: by the leading digit of the number. A start is found at once, and zero is followed by
one. Any other digit leads a run that ends where twelve leads with as many digits. A number
of the counter's range has at most eleven digits, and with eleven it leads with fifteen at
most, so the end of a run is far below the counter's last value. -/
theorem first_usable_exact (n : Nat) (bound : n < 2 ^ 64 - 1) :
    n ≤ firstUsable n ∧ firstUsable n < 2 ^ 64 - 1 ∧ Usable (firstUsable n) ∧
      ∀ m, n ≤ m → m < firstUsable n → ¬ Usable m := by
  obtain ⟨lead, rest, low, leading, weighed, below, inside, positive⟩ := digits_split n
  by_cases start : startsIdentifier lead = true
  · have here : firstUsable n = n := by simp [firstUsable, leading, start]
    rw [here]
    exact ⟨Nat.le_refl n, bound, (usable_iff n lead rest (by omega) leading).mpr start,
      fun m above under => absurd under (by omega)⟩
  · by_cases zero : n = 0
    · subst zero
      have one : firstUsable 0 = 1 := by simp [firstUsable, digits_small, startsIdentifier]
      rw [one]
      refine ⟨by decide, by decide, one_usable, ?_⟩
      intro m _ under
      have same : m = 0 := by omega
      exact same ▸ zero_unusable
    · have leadPositive : 0 < lead := positive zero
      have digit : 2 ≤ lead ∧ lead ≤ 11 := by
        simp only [startsIdentifier, Bool.or_eq_true, beq_iff_eq, decide_eq_true_eq] at start
        omega
      have jump : firstUsable n = 12 * 64 ^ rest.length := by
        simp [firstUsable, leading, start, Nat.ne_of_gt leadPositive]
      have least : 2 * 64 ^ rest.length ≤ lead * 64 ^ rest.length :=
        Nat.mul_le_mul_right _ digit.1
      have most : lead * 64 ^ rest.length ≤ 11 * 64 ^ rest.length :=
        Nat.mul_le_mul_right _ digit.2
      have short : rest.length ≤ 10 := by
        by_contra long
        have heavy : 64 ^ 11 ≤ 64 ^ rest.length := Nat.pow_le_pow_right (by decide) (by omega)
        omega
      have light : 64 ^ rest.length ≤ 64 ^ 10 := Nat.pow_le_pow_right (by decide) short
      rw [jump]
      refine ⟨by omega, by omega, run_end_usable _ (by omega), ?_⟩
      intro m above under
      exact run_unusable rest.length m (by omega) (by omega) under

/-- As long as the counter has not reached its last value, a token is made from the least
usable index from the counter on, and the counter goes on after that index. -/
theorem generate_exact (counter : UInt64) (unspent : counter.toNat < 2 ^ 64 - 1) :
    ∃ index, counter.toNat ≤ index ∧ index < 2 ^ 64 - 1 ∧ Usable index ∧
      (∀ m, counter.toNat ≤ m → m < index → ¬ Usable m) ∧
      (generate counter).1 = encode (.ofNat index) ∧ (generate counter).2.toNat = index + 1 := by
  obtain ⟨above, below, usable, least⟩ := first_usable_exact counter.toNat unspent
  refine ⟨firstUsable counter.toNat, above, below, usable, least, rfl, ?_⟩
  simp only [generate, UInt64.toNat_add, UInt64.toNat_ofNat_of_lt' (Nat.lt_of_lt_pred below)]
  simp only [UInt64.toNat_one]
  omega

/-- The last run of usable indices goes up to the end of the counter's range. -/
theorem last_usable (index : Nat) (above : 12 * 64 ^ 10 ≤ index) (below : index < 2 ^ 64) :
    Usable index := by
  have most : index / 64 ^ 10 < 16 := (Nat.div_lt_iff_lt_mul (by decide)).mpr (by omega)
  have least : 12 ≤ index / 64 ^ 10 := (Nat.le_div_iff_mul_le (by decide)).mpr above
  obtain ⟨rest, leading, _⟩ := leading_digit (index / 64 ^ 10) 10 index (by omega) (by omega)
    (Nat.div_mul_le_self index _) (by omega)
  rw [usable_iff index _ rest below leading]
  simp only [startsIdentifier, Bool.or_eq_true, beq_iff_eq, decide_eq_true_eq]
  omega

/-- There is no last usable index, as indices are taken modulo the counter's range. -/
theorem usable_infinite : (Set.ofPred Usable).Infinite := by
  refine Set.infinite_of_injective_forall_mem (f := fun k : Nat => 1 + 2 ^ 64 * k) ?_ ?_
  · intro a b same
    simp only at same
    omega
  · intro k
    have wrapped : UInt64.ofNat (1 + 2 ^ 64 * k) = UInt64.ofNat 1 := by
      apply UInt64.toNat_inj.mp
      simp only [UInt64.toNat_ofNat']
      omega
    change startsName (encode (.ofNat (1 + 2 ^ 64 * k))) = true
    rw [wrapped]
    exact one_usable

/-- Passing over indices that are not usable counts none. -/
theorem count_skipped (first last : Nat) (order : first ≤ last)
    (none : ∀ m, first ≤ m → m < last → ¬ Usable m) :
    Nat.count Usable last = Nat.count Usable first := by
  induction last, order using Nat.le_induction with
  | base => rfl
  | succ last order inductionHypothesis =>
    rw [Nat.count_succ, if_neg (none last order (by omega)), Nat.add_zero]
    exact inductionHypothesis fun m above below => none m above (by omega)

/-- What a token is: a text over the alphabet that starts as an identifier does. -/
structure IsToken (text : String) : Prop where
  nonempty : text ≠ ""
  symbols : ∀ c ∈ text.toList, c ∈ alphabet
  start : startsName text = true

/-- The written form of a usable index is a token. -/
theorem token_of_usable (index : Nat) (usable : Usable index) :
    IsToken (encode (.ofNat index)) where
  nonempty := by
    intro empty
    simp [Usable, empty, startsName] at usable
  symbols := by
    intro c member
    simp only [encode, String.toList_ofList, List.mem_map] at member
    obtain ⟨d, digit, rfl⟩ := member
    exact symbol_member d (digit_bound _ d digit)
  start := usable

/-!
## Tokens in a row

The next token is the first one that a counter of 64 bits comes to when it counts up. It passes over
whole runs of indices that cannot start an identifier, and the last of these runs ends so far below the
last value of the counter that counting up never overflows, as long as the counter has not come to its
last value before.

An index has at least as many digits as all smaller ones. The indices of successive tokens increase, so
no token is shorter than one that was made before it.
-/

/-- A larger number has no fewer digits.

Proof: a number with `k` digits after the leading one is at least the `k`-th power of 64, unless it
is zero, and is below the next power. -/
theorem digits_length_mono (a b : Nat) (order : a ≤ b) :
    (digits a).length ≤ (digits b).length := by
  obtain ⟨lead, rest, low, leading, weighed, _, _, positive⟩ := digits_split a
  obtain ⟨lead', rest', low', leading', weighed', below', bound', _⟩ := digits_split b
  rw [leading, leading', List.length_cons, List.length_cons]
  by_cases zero : a = 0
  · subst zero
    rw [digits_small 0 (by decide)] at leading
    obtain ⟨_, rfl⟩ := List.cons.inj leading
    exact Nat.succ_le_succ (Nat.zero_le _)
  · have heavy : 1 * 64 ^ rest.length ≤ lead * 64 ^ rest.length :=
      Nat.mul_le_mul_right _ (positive zero)
    have light : (lead' + 1) * 64 ^ rest'.length ≤ 64 * 64 ^ rest'.length :=
      Nat.mul_le_mul_right _ (by omega)
    by_contra shorter
    have power : 64 ^ (rest'.length + 1) ≤ 64 ^ rest.length :=
      Nat.pow_le_pow_right (by decide) (by omega)
    rw [Nat.pow_succ] at power
    rw [Nat.add_mul] at light
    omega

/-- A token has as many letters as its index has digits. -/
theorem encode_length (index : Nat) (bound : index < 2 ^ 64) :
    (encode (.ofNat index)).length = (digits index).length := by
  rw [encode, String.length_ofList, List.length_map, UInt64.toNat_ofNat_of_lt' bound]

/-- A token has at least the digits of the counter before it, and at most those of the counter
after it. -/
theorem generate_length (counter : UInt64) (unspent : counter.toNat < 2 ^ 64 - 1) :
    (digits counter.toNat).length ≤ (generate counter).1.length ∧
      (generate counter).1.length ≤ (digits (generate counter).2.toNat).length := by
  obtain ⟨index, above, below, _, _, written, next⟩ := generate_exact counter unspent
  rw [written, next, encode_length index (by omega)]
  exact ⟨digits_length_mono _ _ above, digits_length_mono _ _ (Nat.le_succ index)⟩

/-- Some tokens made in a row, and the counter after them. -/
def generateAll (counter : UInt64) : Nat → List String × UInt64
  | 0 => ([], counter)
  | count + 1 =>
    let (token, next) := generate counter
    let (tokens, last) := generateAll next count
    (token :: tokens, last)

theorem generateAll_succ (counter : UInt64) (count : Nat) :
    generateAll counter (count + 1) =
      ((generate counter).1 :: (generateAll (generate counter).2 count).1,
        (generateAll (generate counter).2 count).2) := rfl

/-- The counter has not come to its last value before any of some tokens in a row. -/
def Unspent (counter : UInt64) (count : Nat) : Prop :=
  ∀ earlier < count, (generateAll counter earlier).2.toNat < 2 ^ 64 - 1

theorem Unspent.first {counter : UInt64} {count : Nat} (unspent : Unspent counter (count + 1)) :
    counter.toNat < 2 ^ 64 - 1 :=
  unspent 0 (Nat.succ_pos count)

theorem Unspent.rest {counter : UInt64} {count : Nat} (unspent : Unspent counter (count + 1)) :
    Unspent (generate counter).2 count :=
  fun earlier below => unspent (earlier + 1) (Nat.succ_lt_succ below)

/-- No token in a row has fewer letters than the counter before the row has digits. -/
theorem generateAll_length {counter : UInt64} {count : Nat} (unspent : Unspent counter count) :
    ∀ token ∈ (generateAll counter count).1, (digits counter.toNat).length ≤ token.length := by
  induction count generalizing counter with
  | zero => simp [generateAll]
  | succ count inductionHypothesis =>
    obtain ⟨above, below⟩ := generate_length counter unspent.first
    intro token member
    rw [generateAll_succ] at member
    rcases List.mem_cons.mp member with rfl | later
    · exact above
    · exact (above.trans below).trans (inductionHypothesis unspent.rest token later)

/-- Tokens in a row never get shorter.

Proof: by induction on their number. A token is no longer than the number in the counter after it,
and the later ones are no shorter than that. -/
theorem generateAll_ascending {counter : UInt64} {count : Nat} (unspent : Unspent counter count) :
    (generateAll counter count).1.Pairwise fun earlier later => earlier.length ≤ later.length := by
  induction count generalizing counter with
  | zero => exact List.Pairwise.nil
  | succ count inductionHypothesis =>
    rw [generateAll_succ, List.pairwise_cons]
    refine ⟨fun later member => ?_, inductionHypothesis unspent.rest⟩
    exact (generate_length counter unspent.first).2.trans
      (generateAll_length unspent.rest later member)

/-- As long as the counter has not come to its last value, counting up from it finds an index without
an overflow. This is the least index from the counter on that is written without a digit or a hyphen
at its start. Its written form is the token, and the counter goes on after it. Tokens in a row never
get shorter. -/
theorem generate_least (counter : UInt64) (unspent : counter.toNat < 2 ^ 64 - 1) :
    (∃ index, countUp (2 ^ 64) (fun index => decide (Usable index)) counter.toNat = some index ∧
      (generate counter).1 = encode (.ofNat index) ∧ (generate counter).2.toNat = index + 1 ∧
      counter.toNat ≤ index ∧ Usable index ∧ ∀ m, counter.toNat ≤ m → m < index → ¬ Usable m) ∧
    ∀ count, Unspent counter count →
      (generateAll counter count).1.Pairwise fun earlier later => earlier.length ≤ later.length := by
  obtain ⟨index, above, below, usable, least, written, next⟩ := generate_exact counter unspent
  have found : countUp (2 ^ 64) (fun index => decide (Usable index)) counter.toNat = some index := by
    rw [countUp_eq_some_iff]
    exact ⟨above, by omega, decide_eq_true usable, fun m from_ under =>
      decide_eq_false (least m from_ under)⟩
  exact ⟨⟨index, found, written, next, above, usable, least⟩, fun count => generateAll_ascending⟩

/-- The indices from 128 to 767 start with a digit when they are written, and are passed over. -/
theorem generate_least_run :
    (128 : UInt64).toNat < 2 ^ 64 - 1 ∧ generate 128 = ("a-", 769) ∧
      countUp (2 ^ 64) (fun index => decide (Usable index)) 128 = some 768 := by
  have unspent : (128 : UInt64).toNat < 2 ^ 64 - 1 := by decide
  have made : generate 128 = ("a-", 769) := by decide +kernel
  obtain ⟨⟨index, found, _, next, _⟩, _⟩ := generate_least 128 unspent
  rw [made] at next
  have value : 769 = index + 1 := next
  obtain rfl : 768 = index := Nat.succ.inj value
  exact ⟨unspent, made, found⟩

/-!
## Numerals over the alphabet

The written forms of the 64-bit indices are the texts over the alphabet that write a number below
`2 ^ 64` without a hyphen in front, and the hyphen alone, which writes zero. The hyphen is the zero
digit, so each number has one such text, and a text is read by its places in the alphabet alone.

Of two written forms the longer one writes the larger number. Among forms of one length, the first
place at which they differ decides. So the indices and their written forms are in the same order.

A word gives its digits from the lowest one on, six bits at a time. The written form has them the
other way round.
-/

/-- The values of the symbols of a text, by their places in the alphabet. -/
def places (text : String) : List Nat := text.toList.map alphabet.idxOf

/-- The number that a text writes. -/
def decode (text : String) : Nat := valueOf (places text)

/-- A text over the alphabet that writes a number of 64 bits without a superfluous zero digit. -/
structure IsNumeral (text : String) : Prop where
  nonempty : text ≠ ""
  symbols : ∀ c ∈ text.toList, c ∈ alphabet
  fits : decode text < 2 ^ 64
  lead : text.toList.head? = some '-' → text = "-"

/-!
### Reading by places
-/

/-- One more digit at the end multiplies what stands in front of it. -/
theorem valueOf_concat (front : List Nat) (d : Nat) :
    valueOf (front ++ [d]) = 64 * valueOf front + d := by
  simp [valueOf, List.foldl_append]

/-- A digit in front counts for the power of 64 that its place has. -/
theorem valueOf_cons (d : Nat) (rest : List Nat) :
    valueOf (d :: rest) = d * 64 ^ rest.length + valueOf rest := by
  induction rest using List.reverseRecOn with
  | nil => simp [valueOf]
  | append_singleton front last inductionHypothesis =>
    rw [← List.cons_append, valueOf_concat, valueOf_concat, inductionHypothesis,
      List.length_append, List.length_singleton, Nat.pow_succ]
    ring

/-- Digits stand for less than the power of 64 that comes after them. -/
theorem valueOf_lt (ds : List Nat) (bound : ∀ d ∈ ds, d < 64) :
    valueOf ds < 64 ^ ds.length := by
  induction ds with
  | nil => decide
  | cons d rest inductionHypothesis =>
    have lower := inductionHypothesis fun e member => bound e (List.mem_cons_of_mem d member)
    have lead : d + 1 ≤ 64 := bound d List.mem_cons_self
    have weighed : (d + 1) * 64 ^ rest.length ≤ 64 * 64 ^ rest.length :=
      Nat.mul_le_mul_right _ lead
    rw [valueOf_cons, List.length_cons, Nat.pow_succ]
    rw [Nat.add_mul, Nat.one_mul] at weighed
    omega

/-- Digits without a zero in front are the digits of the number that they stand for.

Proof: by induction from the last digit on. What stands in front of it stands for a positive
number, because it would otherwise be the one digit zero. -/
theorem digits_valueOf (ds : List Nat) (nonempty : ds ≠ []) (bound : ∀ d ∈ ds, d < 64)
    (lead : ds.head? = some 0 → ds = [0]) : digits (valueOf ds) = ds := by
  induction ds using List.reverseRecOn with
  | nil => exact absurd rfl nonempty
  | append_singleton front last inductionHypothesis =>
    have small : last < 64 := bound last (by simp)
    by_cases single : front = []
    · subst single
      simpa [valueOf] using digits_small last small
    · have first : (front ++ [last]).head? = front.head? := List.head?_append_of_ne_nil front single
      have positiveLead : front.head? ≠ some 0 := by
        intro zero
        have short := congrArg List.length (lead (first.trans zero))
        have long : 0 < front.length := List.length_pos_iff.mpr single
        rw [List.length_append, List.length_singleton, List.length_singleton] at short
        omega
      have higher : digits (valueOf front) = front :=
        inductionHypothesis single (fun d member => bound d (List.mem_append_left _ member))
          fun zero => absurd zero positiveLead
      have positive : valueOf front ≠ 0 := by
        intro zero
        rw [zero, digits_small 0 (by decide)] at higher
        exact positiveLead (higher ▸ rfl)
      have quotient : (64 * valueOf front + last) / 64 = valueOf front := by omega
      have remainder : (64 * valueOf front + last) % 64 = last := by omega
      rw [valueOf_concat, digits_large _ (by omega), quotient, remainder, higher]

/-- The symbol at the place of a symbol is that symbol. -/
theorem symbol_of_place (c : Char) (member : c ∈ alphabet) : symbol (alphabet.idxOf c) = c := by
  have inside : alphabet.idxOf c < alphabet.length := List.idxOf_lt_length_iff.mpr member
  simp [symbol, List.getD_eq_getElem?_getD, inside]

theorem place_bound (c : Char) (member : c ∈ alphabet) : alphabet.idxOf c < 64 := by
  rw [← alphabet_length]
  exact List.idxOf_lt_length_iff.mpr member

/-- The symbol at place zero is the hyphen. -/
theorem place_zero (c : Char) (member : c ∈ alphabet) : alphabet.idxOf c = 0 ↔ c = '-' := by
  constructor
  · intro first
    rw [← symbol_of_place c member, first]
    rfl
  · rintro rfl
    rfl

theorem places_encode (index : UInt64) : places (encode index) = digits index.toNat := by
  rw [places, encode, String.toList_ofList, places_of_symbols]

/-- Reading the written form of an index gives the index back. -/
theorem decode_encode (index : UInt64) : decode (encode index) = index.toNat := by
  rw [decode, places_encode, value_digits]

/-- A numeral is the written form of the number that it writes. -/
theorem IsNumeral.written {text : String} (numeral : IsNumeral text) :
    encode (.ofNat (decode text)) = text := by
  have letters : text.toList ≠ [] := fun empty =>
    numeral.nonempty (String.toList_injective (by simpa using empty))
  have placed : places text ≠ [] := by simpa [places] using letters
  have bound : ∀ d ∈ places text, d < 64 := by
    intro d member
    obtain ⟨c, letter, rfl⟩ := List.mem_map.mp member
    exact place_bound c (numeral.symbols c letter)
  have lead : (places text).head? = some 0 → places text = [0] := by
    intro zero
    obtain ⟨c, rest, split⟩ := List.exists_cons_of_ne_nil letters
    have place : alphabet.idxOf c = 0 := by simpa [places, split] using zero
    have hyphen : c = '-' := (place_zero c (numeral.symbols c (by simp [split]))).mp place
    rw [numeral.lead (by rw [split, hyphen]; rfl)]
    decide +kernel
  rw [encode, UInt64.toNat_ofNat_of_lt' numeral.fits, decode,
    digits_valueOf _ placed bound lead, places, List.map_map]
  calc String.ofList (text.toList.map (symbol ∘ alphabet.idxOf))
      = String.ofList (text.toList.map id) :=
        congrArg String.ofList
          (List.map_congr_left fun c letter => symbol_of_place c (numeral.symbols c letter))
    _ = text := by rw [List.map_id, String.ofList_toList]

/-- The written form of an index is a numeral. -/
theorem numeral_encode (index : UInt64) : IsNumeral (encode index) where
  nonempty := by
    obtain ⟨lead, rest, _, leading, _⟩ := digits_split index.toNat
    rw [encode, Ne, String.ofList_eq_empty_iff, List.map_eq_nil_iff, leading]
    exact List.cons_ne_nil lead rest
  symbols := by
    intro c member
    rw [encode, String.toList_ofList, List.mem_map] at member
    obtain ⟨d, digit, rfl⟩ := member
    exact symbol_member d (digit_bound _ d digit)
  fits := by
    rw [decode_encode]
    exact index.toNat_lt
  lead := by
    obtain ⟨lead, rest, _, leading, _, _, bound, positive⟩ := digits_split index.toNat
    intro hyphen
    have first : symbol lead = '-' := by simpa [encode, leading] using hyphen
    have zero : lead = 0 := by
      rw [← place_of_symbol lead bound, first]
      rfl
    have none : index.toNat = 0 := by
      by_contra some
      exact absurd zero (Nat.ne_of_gt (positive some))
    rw [encode, none, digits_small 0 (by decide)]
    rfl

/-!
### The order of numerals
-/

/-- Of as many digits, those that come first in the order of the alphabet stand for less. -/
theorem valueOf_lt_of_lex {ds es : List Nat} (earlier : List.Lex (· < ·) ds es)
    (length : ds.length = es.length) (boundLeft : ∀ d ∈ ds, d < 64) :
    valueOf ds < valueOf es := by
  induction earlier with
  | nil => simp at length
  | @cons d ds es _ inductionHypothesis =>
    have same : ds.length = es.length := Nat.succ.inj length
    have lower := inductionHypothesis same fun e member =>
      boundLeft e (List.mem_cons_of_mem d member)
    rw [valueOf_cons, valueOf_cons, same]
    omega
  | @rel d ds e es less =>
    have same : ds.length = es.length := Nat.succ.inj length
    have lower : valueOf ds < 64 ^ ds.length :=
      valueOf_lt ds fun c member => boundLeft c (List.mem_cons_of_mem d member)
    have weighed : (d + 1) * 64 ^ ds.length ≤ e * 64 ^ ds.length :=
      Nat.mul_le_mul_right _ less
    rw [valueOf_cons, valueOf_cons, ← same]
    rw [Nat.add_mul, Nat.one_mul] at weighed
    omega

/-- Numbers are in the order of their digits: by their count, then by the first that differ. -/
theorem digits_shortlex (a b : Nat) (less : a < b) :
    List.Shortlex (· < ·) (digits a) (digits b) := by
  rw [List.shortlex_def]
  rcases Nat.lt_or_eq_of_le (digits_length_mono a b (Nat.le_of_lt less)) with shorter | same
  · exact Or.inl shorter
  · refine Or.inr ⟨same, ?_⟩
    rcases Std.Trichotomous.rel_or_eq_or_rel_swap (r := List.Lex (· < ·)) (a := digits a)
      (b := digits b) with earlier | equal | later
    · exact earlier
    · exact absurd (digits_injective a b equal) (Nat.ne_of_lt less)
    · have larger := valueOf_lt_of_lex later same.symm (digit_bound b)
      rw [value_digits, value_digits] at larger
      omega

/-- The order of indices is that of their written forms. -/
theorem encode_shortlex (a b : UInt64) :
    a < b ↔ List.Shortlex (· < ·) (places (encode a)) (places (encode b)) := by
  rw [places_encode, places_encode, UInt64.lt_iff_toNat_lt]
  constructor
  · exact digits_shortlex _ _
  · intro earlier
    rcases Nat.lt_trichotomy a.toNat b.toNat with less | same | more
    · exact less
    · rw [same] at earlier
      exact absurd earlier (Std.Irrefl.irrefl _)
    · exact absurd earlier (Std.Asymm.asymm _ _ (digits_shortlex _ _ more))

/-!
### Digits of a word
-/

/-- The six lowest bits of a word are its remainder, and what is shifted down is its quotient. -/
theorem low_bits (word : UInt64) : (word &&& 0x3f).toNat = word.toNat % 64 := by
  rw [UInt64.toNat_and]
  exact Nat.and_two_pow_sub_one_eq_mod word.toNat 6

theorem high_bits (word : UInt64) : (word >>> 6).toNat = word.toNat / 64 := by
  rw [UInt64.toNat_shiftRight]
  exact Nat.shiftRight_eq_div_pow word.toNat 6

theorem high_bits_zero_iff (word : UInt64) : word >>> 6 = 0 ↔ word.toNat < 64 := by
  rw [← UInt64.toNat_inj, high_bits]
  change word.toNat / 64 = 0 ↔ _
  omega

/-- The six lowest bits of a word, then those of what is left of it, until nothing is left. -/
def lowFirst (word : UInt64) : List Nat :=
  if word >>> 6 = 0 then [(word &&& 0x3f).toNat]
  else (word &&& 0x3f).toNat :: lowFirst (word >>> 6)
termination_by word.toNat
decreasing_by
  next left =>
    rw [high_bits_zero_iff] at left
    rw [high_bits]
    omega

/-- A word gives its digits in reverse. -/
theorem lowFirst_reverse (word : UInt64) : (lowFirst word).reverse = digits word.toNat := by
  fun_induction lowFirst word with
  | case1 word none =>
    rw [high_bits_zero_iff] at none
    rw [low_bits, Nat.mod_eq_of_lt none, digits_small _ none, List.reverse_singleton]
  | case2 word left inductionHypothesis =>
    rw [high_bits_zero_iff] at left
    rw [List.reverse_cons, inductionHypothesis, low_bits, high_bits,
      ← digits_large _ (Nat.le_of_not_lt left)]

/-- Indices and numerals correspond one to one. A numeral is read by its places, indices and
numerals are in the same order, and a written form has the digits of the word from the highest
one on. -/
theorem encode_numerals :
    Set.BijOn encode Set.univ {text | IsNumeral text} ∧
    (∀ index, decode (encode index) = index.toNat) ∧
    (∀ a b, a < b ↔ List.Shortlex (· < ·) (places (encode a)) (places (encode b))) ∧
    ∀ index, encode index = String.ofList ((lowFirst index).map symbol).reverse := by
  refine ⟨⟨?_, ?_, ?_⟩, decode_encode, encode_shortlex, ?_⟩
  · intro index _
    exact numeral_encode index
  · intro a _ b _ same
    exact encode_injective a b same
  · intro text numeral
    exact ⟨.ofNat (decode text), Set.mem_univ _, IsNumeral.written numeral⟩
  · intro index
    rw [encode, ← lowFirst_reverse, List.map_reverse]

end Pagefold.Class
