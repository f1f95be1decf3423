import Mathlib
import Pagefold.Proofs.Asset.Name

/-!
# Digests read back

A digest is written like base 64 without padding, but for two symbols: a hyphen stands for the slash
and an underscore for the plus sign. Neither the hyphen nor the underscore is a symbol of base 64,
so both replacements can be undone, in any order, and a decoder then gives the bytes back.

A decoder takes four symbols for three bytes. Two or three symbols at the end stand for one byte or
two, and have bits to spare, which have to be zero; a single symbol at the end stands for nothing.
-/
namespace Pagefold.Digest

namespace Base64

/-- The symbols of base 64 in the order of their values. -/
def alphabet : List Char :=
  "ABCDEFGHIJKLMNOPQRSTUVWXYZabcdefghijklmnopqrstuvwxyz0123456789+/".toList

/-- The symbol of a 6-bit value. -/
def symbol (n : Nat) : Char := alphabet.getD n 'A'

/-- The text of bytes in base 64 without padding. -/
def encode (bytes : List UInt8) : List Char := (sextets bytes).map symbol

/-- The bytes that 6-bit values stand for. -/
def bytes? : List Nat → Option (List UInt8)
  | [] => some []
  | [_] => none
  | [p, q] => if q % 16 = 0 then some [.ofNat (4 * p + q / 16)] else none
  | [p, q, r] =>
    if r % 4 = 0 then some [.ofNat (4 * p + q / 16), .ofNat (q % 16 * 16 + r / 4)] else none
  | p :: q :: r :: s :: rest =>
    (bytes? rest).map fun bytes =>
      .ofNat (4 * p + q / 16) :: .ofNat (q % 16 * 16 + r / 4) :: .ofNat (r % 4 * 64 + s) :: bytes

/-- The bytes that a text in base 64 without padding stands for. -/
def decode? (text : List Char) : Option (List UInt8) :=
  (text.mapM fun c => alphabet.idxOf? c).bind bytes?

end Base64

/-!
## Six bits at a time
-/

/-- Every 6-bit value is below 64. -/
theorem sextet_bound (bytes : List UInt8) (n : Nat) (member : n ∈ sextets bytes) : n < 64 := by
  fun_induction sextets bytes with
  | case1 => cases member
  | case2 a =>
    have := a.toNat_lt
    simp only [List.mem_cons, List.not_mem_nil, or_false] at member
    omega
  | case3 a b =>
    have := a.toNat_lt
    have := b.toNat_lt
    simp only [List.mem_cons, List.not_mem_nil, or_false] at member
    omega
  | case4 a b c rest inductionHypothesis =>
    have := a.toNat_lt
    have := b.toNat_lt
    have := c.toNat_lt
    simp only [List.mem_cons] at member
    rcases member with rfl | rfl | rfl | rfl | later
    · omega
    · omega
    · omega
    · omega
    · exact inductionHypothesis later

/-- Three bytes have four 6-bit values, and one or two bytes at the end one more than they are. -/
theorem length_sextets (bytes : List UInt8) :
    (sextets bytes).length = (4 * bytes.length + 2) / 3 := by
  fun_induction sextets bytes with
  | case1 => rfl
  | case2 a => simp
  | case3 a b => simp
  | case4 a b c rest inductionHypothesis =>
    simp only [List.length_cons, inductionHypothesis]
    omega

/-- Bytes are put together again from their 6-bit values, and no bit that is to spare is set. -/
theorem bytes_sextets (bytes : List UInt8) : Base64.bytes? (sextets bytes) = some bytes := by
  have byte : ∀ (a : UInt8) (n : Nat), n = a.toNat → UInt8.ofNat n = a := by
    rintro a n rfl
    exact UInt8.ofNat_toNat
  fun_induction sextets bytes with
  | case1 => rfl
  | case2 a =>
    have := a.toNat_lt
    have spare : a.toNat % 4 * 16 % 16 = 0 := by omega
    rw [Base64.bytes?, if_pos spare, byte a _ (by omega)]
  | case3 a b =>
    have := b.toNat_lt
    have spare : b.toNat % 16 * 4 % 4 = 0 := by omega
    rw [Base64.bytes?, if_pos spare, byte a _ (by omega), byte b _ (by omega)]
  | case4 a b c rest inductionHypothesis =>
    have := b.toNat_lt
    have := c.toNat_lt
    rw [Base64.bytes?, inductionHypothesis, Option.map_some, byte a _ (by omega),
      byte b _ (by omega), byte c _ (by omega)]

/-- A symbol is read as the value that it stands for. -/
theorem place_of_standard (n : Nat) (bound : n < 64) :
    Base64.alphabet.idxOf? (Base64.symbol n) = some n := by
  revert n
  decide +kernel

/-- The text of 6-bit values is read as these values. -/
theorem values_read (values : List Nat) (bound : ∀ n ∈ values, n < 64) :
    (values.map Base64.symbol).mapM (fun c => Base64.alphabet.idxOf? c) = some values := by
  induction values with
  | nil => rfl
  | cons n rest inductionHypothesis =>
    have later := inductionHypothesis fun k member => bound k (List.mem_cons_of_mem n member)
    rw [List.map_cons, List.mapM_cons, place_of_standard n (bound n List.mem_cons_self), later]
    rfl

/-- The text of bytes in base 64 stands for these bytes. -/
theorem decode_standard (bytes : List UInt8) :
    Base64.decode? (Base64.encode bytes) = some bytes := by
  rw [Base64.decode?, Base64.encode, values_read _ (sextet_bound bytes), Option.bind_some,
    bytes_sextets]

/-!
## Two replacements
-/

/-- A text with one letter replaced by another wherever it stands. -/
def replaced (old new : Char) (text : List Char) : List Char :=
  text.map fun c => if c = old then new else c

/-- Base 64 made safe: the slash is replaced by a hyphen, then the plus sign by an underscore. -/
def tamed (text : List Char) : List Char := replaced '+' '_' (replaced '/' '-' text)

/-- The two replacements undone. -/
def restored (text : List Char) : List Char := replaced '-' '/' (replaced '_' '+' text)

/-- Replacing one letter by another is undone in a text that does not hold the other one. -/
theorem replaced_replaced (old new : Char) (text : List Char) (absent : new ∉ text) :
    replaced new old (replaced old new text) = text := by
  rw [replaced, replaced, List.map_map]
  calc text.map _
      = text.map id := List.map_congr_left fun c member => by
        have other : c ≠ new := fun same => absent (same ▸ member)
        by_cases here : c = old <;> simp [here, other]
    _ = text := List.map_id text

/-- A letter that a replacement does not bring in is not brought in. -/
theorem not_mem_replaced {old new c : Char} {text : List Char} (other : c ≠ new)
    (absent : c ∉ text) : c ∉ replaced old new text := by
  intro member
  obtain ⟨d, inside, same⟩ := List.mem_map.mp member
  split at same
  · exact other same.symm
  · exact absent (same ▸ inside)

/-- Both replacements are undone in a text without hyphens and underscores. -/
theorem restored_tamed (text : List Char) (hyphen : '-' ∉ text) (underscore : '_' ∉ text) :
    restored (tamed text) = text := by
  rw [restored, tamed,
    replaced_replaced '+' '_' _ (not_mem_replaced (by decide) underscore),
    replaced_replaced '/' '-' _ hyphen]

/-- The symbols of digests are those of base 64 with the replacements, which have neither hyphens
nor underscores. -/
theorem symbol_tamed (n : Nat) (bound : n < 64) :
    [symbol n] = tamed [Base64.symbol n] ∧ Base64.symbol n ≠ '-' ∧ Base64.symbol n ≠ '_' := by
  revert n
  decide +kernel

/-- Bytes are rendered as their text in base 64 made safe. -/
theorem render_tamed (bytes : List UInt8) :
    (render bytes).toList = tamed (Base64.encode bytes) := by
  rw [render, String.toList_ofList, Base64.encode, tamed, replaced, replaced, List.map_map,
    List.map_map]
  refine List.map_congr_left fun n member => ?_
  have single := (symbol_tamed n (sextet_bound bytes n member)).1
  exact (List.cons.inj single).1

/-- Rendered bytes are given back by a decoder once the replacements are undone. -/
theorem decode_render (bytes : List UInt8) :
    Base64.decode? (restored (render bytes).toList) = some bytes := by
  have foreign : ∀ c ∈ Base64.encode bytes, c ≠ '-' ∧ c ≠ '_' := by
    intro c member
    obtain ⟨n, value, rfl⟩ := List.mem_map.mp member
    exact (symbol_tamed n (sextet_bound bytes n value)).2
  rw [render_tamed, restored_tamed _ (fun hyphen => (foreign _ hyphen).1 rfl)
    (fun underscore => (foreign _ underscore).2 rfl), decode_standard]

/-- Two byte lists are never rendered alike. -/
theorem render_injective : Function.Injective render := by
  intro a b same
  have read : some a = some b := by rw [← decode_render a, same, decode_render b]
  exact Option.some.inj read

/-- A digest has 43 letters, each of them a letter or digit of ASCII, a hyphen or an underscore. It
is the hash in base 64 with the two replacements; when they are undone, a decoder gives the hash
back. As it does so for the text of any bytes, no two byte lists have the same text. -/
theorem digest_read_back (content : ByteArray) :
    (ofContent content).length = 43 ∧
    (∀ c ∈ (ofContent content).toList, c.isAlphanum = true ∨ c = '-' ∨ c = '_') ∧
    (ofContent content).toList = tamed (Base64.encode (Sha256.hash content.toList)) ∧
    Base64.decode? (restored (ofContent content).toList) = some (Sha256.hash content.toList) ∧
    (∀ bytes, Base64.decode? (restored (render bytes).toList) = some bytes) ∧
    Function.Injective render := by
  refine ⟨?_, ?_, render_tamed _, decode_render _, decode_render, render_injective⟩
  · rw [ofContent, render, String.length_ofList, List.length_map, length_sextets,
      Sha256.length_hash]
  · intro c member
    rcases digest_safe content c member with safe | safe | safe
    · exact Or.inl safe
    · exact Or.inr (Or.inr safe)
    · exact Or.inr (Or.inl safe)

end Pagefold.Digest
