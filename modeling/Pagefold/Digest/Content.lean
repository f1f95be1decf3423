/-!
# Content digests

The digest of a file is the SHA-256 of its bytes, written in base 64 with symbols that are
safe in a URL and in a file name. Three bytes give four symbols, and there is no padding,
so that 32 bytes give 43 symbols.
-/
namespace Pagefold.Digest.Sha256

/-!
## SHA-256

The secure hash standard's 256-bit function over byte lists. A state is eight words, so
that a hash has 32 bytes by construction. The message schedule is a window of sixteen
words that moves on by one word per round.
-/

/-- The chaining value: eight 32-bit words. -/
structure State where
  a : UInt32
  b : UInt32
  c : UInt32
  d : UInt32
  e : UInt32
  f : UInt32
  g : UInt32
  h : UInt32
  deriving DecidableEq, Repr

/-- The chaining value before the first block. -/
def State.start : State :=
  ⟨0x6a09e667, 0xbb67ae85, 0x3c6ef372, 0xa54ff53a, 0x510e527f, 0x9b05688c, 0x1f83d9ab, 0x5be0cd19⟩

/-- One constant for each of the 64 rounds. -/
def roundConstants : List UInt32 :=
  [0x428a2f98, 0x71374491, 0xb5c0fbcf, 0xe9b5dba5, 0x3956c25b, 0x59f111f1, 0x923f82a4, 0xab1c5ed5,
   0xd807aa98, 0x12835b01, 0x243185be, 0x550c7dc3, 0x72be5d74, 0x80deb1fe, 0x9bdc06a7, 0xc19bf174,
   0xe49b69c1, 0xefbe4786, 0x0fc19dc6, 0x240ca1cc, 0x2de92c6f, 0x4a7484aa, 0x5cb0a9dc, 0x76f988da,
   0x983e5152, 0xa831c66d, 0xb00327c8, 0xbf597fc7, 0xc6e00bf3, 0xd5a79147, 0x06ca6351, 0x14292967,
   0x27b70a85, 0x2e1b2138, 0x4d2c6dfc, 0x53380d13, 0x650a7354, 0x766a0abb, 0x81c2c92e, 0x92722c85,
   0xa2bfe8a1, 0xa81a664b, 0xc24b8b70, 0xc76c51a3, 0xd192e819, 0xd6990624, 0xf40e3585, 0x106aa070,
   0x19a4c116, 0x1e376c08, 0x2748774c, 0x34b0bcb5, 0x391c0cb3, 0x4ed8aa4a, 0x5b9cca4f, 0x682e6ff3,
   0x748f82ee, 0x78a5636f, 0x84c87814, 0x8cc70208, 0x90befffa, 0xa4506ceb, 0xbef9a3f7, 0xc67178f2]

/-- The word rotated to the right by `n` places, for `n` below 32. -/
def rotate (x : UInt32) (n : UInt32) : UInt32 := (x >>> n) ||| (x <<< (32 - n))

/-- One round with `kw`, the sum of the round's constant and its schedule word. -/
def State.round (s : State) (kw : UInt32) : State :=
  let mixE := rotate s.e 6 ^^^ rotate s.e 11 ^^^ rotate s.e 25
  let choice := (s.e &&& s.f) ^^^ ((~~~s.e) &&& s.g)
  let first := s.h + mixE + choice + kw
  let mixA := rotate s.a 2 ^^^ rotate s.a 13 ^^^ rotate s.a 22
  let majority := (s.a &&& s.b) ^^^ (s.a &&& s.c) ^^^ (s.b &&& s.c)
  ⟨first + mixA + majority, s.a, s.b, s.c, s.d + first, s.e, s.f, s.g⟩

/-- The sum of two states, word by word. -/
def State.add (s t : State) : State :=
  ⟨s.a + t.a, s.b + t.b, s.c + t.c, s.d + t.d, s.e + t.e, s.f + t.f, s.g + t.g, s.h + t.h⟩

/-- The schedule window of the next round: the first of the sixteen words leaves, and the
word that the window determines comes in at the end. -/
def advance (window : List UInt32) : List UInt32 :=
  let early := window.getD 1 0
  let late := window.getD 14 0
  let small := rotate early 7 ^^^ rotate early 18 ^^^ (early >>> 3)
  let large := rotate late 17 ^^^ rotate late 19 ^^^ (late >>> 10)
  window.drop 1 ++ [window.getD 0 0 + small + window.getD 9 0 + large]

/-- The rounds that the remaining constants call for. -/
def rounds : List UInt32 → List UInt32 → State → State
  | [], _, s => s
  | k :: ks, window, s => rounds ks (advance window) (s.round (k + window.headD 0))

/-- Big-endian words of a byte list whose length is a multiple of four. -/
def words : List UInt8 → List UInt32
  | a :: b :: c :: d :: r =>
    ((a.toUInt32 <<< 24) ||| (b.toUInt32 <<< 16) ||| (c.toUInt32 <<< 8) ||| d.toUInt32) :: words r
  | _ => []

/-- The state after all whole blocks of 64 bytes. -/
def absorb (s : State) (bytes : List UInt8) : State :=
  if 64 ≤ bytes.length then
    absorb (s.add (rounds roundConstants (words (bytes.take 64)) s)) (bytes.drop 64)
  else s
termination_by bytes.length
decreasing_by simp only [List.length_drop]; omega

/-- The big-endian bytes of a number, `count` of them. -/
def bigEndian (n : Nat) : Nat → List UInt8
  | 0 => []
  | count + 1 => UInt8.ofNat (n / Nat.pow 256 count) :: bigEndian n count

/-- The message with its padding: a one bit, zeros up to eight bytes before a block's end,
and the length in bits. -/
def pad (message : List UInt8) : List UInt8 :=
  message ++ 0x80 :: List.replicate ((119 - message.length % 64) % 64) 0 ++
    bigEndian (8 * message.length) 8

/-- The four bytes of a word, most significant first. -/
def wordBytes (w : UInt32) : List UInt8 :=
  [(w >>> 24).toUInt8, (w >>> 16).toUInt8, (w >>> 8).toUInt8, w.toUInt8]

/-- The 32 bytes of a state. -/
def State.bytes (s : State) : List UInt8 :=
  [s.a, s.b, s.c, s.d, s.e, s.f, s.g, s.h].flatMap wordBytes

theorem State.length_bytes (s : State) : s.bytes.length = 32 := rfl

/-- The hash of a message. -/
def hash (message : List UInt8) : List UInt8 := (absorb .start (pad message)).bytes

theorem length_hash (message : List UInt8) : (hash message).length = 32 :=
  State.length_bytes _

end Pagefold.Digest.Sha256

namespace Pagefold.Digest

/-- The symbol of a 6-bit value: letters, digits, then `_` for 62 and `-` for 63. -/
def symbol (n : Nat) : Char :=
  "ABCDEFGHIJKLMNOPQRSTUVWXYZabcdefghijklmnopqrstuvwxyz0123456789_-".toList.getD n '-'

/-- The 6-bit values of a byte list; missing low bits at the end count as zero. -/
def sextets : List UInt8 → List Nat
  | [] => []
  | [a] => [a.toNat / 4, a.toNat % 4 * 16]
  | [a, b] => [a.toNat / 4, a.toNat % 4 * 16 + b.toNat / 16, b.toNat % 16 * 4]
  | a :: b :: c :: r =>
    a.toNat / 4 :: (a.toNat % 4 * 16 + b.toNat / 16) :: (b.toNat % 16 * 4 + c.toNat / 64) ::
      c.toNat % 64 :: sextets r

/-- The written form of a byte list. -/
def render (bytes : List UInt8) : String := String.ofList ((sextets bytes).map symbol)

/-- The digest of a file's content. -/
def ofContent (content : ByteArray) : String := render (Sha256.hash content.toList)

end Pagefold.Digest
