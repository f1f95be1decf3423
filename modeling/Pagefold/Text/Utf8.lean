/-!
# UTF-8

Reading text from bytes. A defect is reported with the index of the byte at which the last
whole character ended, and with the number of bytes that cannot start a character there,
unless the bytes merely end too early.
-/
namespace Pagefold.Text.Utf8

/-- Where and how a byte list stops being UTF-8. Without a length, bytes are missing. -/
structure Defect where
  index : Nat
  length? : Option Nat
  deriving DecidableEq, Repr

/-- The wording of a defect. -/
def Defect.message (d : Defect) : String :=
  match d.length? with
  | some n => s!"invalid utf-8 sequence of {n} bytes from index {d.index}"
  | none => s!"incomplete utf-8 byte sequence from index {d.index}"

/-- The low six bits of a byte that continues a character. -/
def tail? (b : UInt8) : Option Nat :=
  if 0x80 ≤ b && b ≤ 0xBF then some (b.toNat - 0x80) else none

/-- Whether `second` may follow `first` in a character of three bytes: overlong forms and
surrogates are left out. -/
def allowsThree (first second : UInt8) : Bool :=
  (tail? second).isSome && (first != 0xE0 || 0xA0 ≤ second) && (first != 0xED || second ≤ 0x9F)

/-- Whether `second` may follow `first` in a character of four bytes: overlong forms and
numbers above U+10FFFF are left out. -/
def allowsFour (first second : UInt8) : Bool :=
  (tail? second).isSome && (first != 0xF0 || 0x90 ≤ second) && (first != 0xF4 || second ≤ 0x8F)

/-- The first character of a byte list, the number of its bytes, or the length of the
defect. The answer for an empty list is never asked for. -/
def first : List UInt8 → Except (Option Nat) (Char × Nat)
  | [] => .error none
  | a :: r =>
    if a < 0x80 then .ok (Char.ofNat a.toNat, 1)
    else if a < 0xC2 then .error (some 1)
    else if a < 0xE0 then
      match r with
      | [] => .error none
      | b :: _ =>
        match tail? b with
        | none => .error (some 1)
        | some x => .ok (Char.ofNat ((a.toNat - 0xC0) * 64 + x), 2)
    else if a < 0xF0 then
      match r with
      | [] => .error none
      | b :: r =>
        if !allowsThree a b then .error (some 1)
        else
          match r with
          | [] => .error none
          | c :: _ =>
            match tail? c with
            | none => .error (some 2)
            | some y =>
              .ok (Char.ofNat ((a.toNat - 0xE0) * 4096 + (b.toNat - 0x80) * 64 + y), 3)
    else if a < 0xF5 then
      match r with
      | [] => .error none
      | b :: r =>
        if !allowsFour a b then .error (some 1)
        else
          match r with
          | [] => .error none
          | c :: r =>
            match tail? c with
            | none => .error (some 2)
            | some y =>
              match r with
              | [] => .error none
              | d :: _ =>
                match tail? d with
                | none => .error (some 3)
                | some z =>
                  .ok (Char.ofNat ((a.toNat - 0xF0) * 262144 + (b.toNat - 0x80) * 4096 + y * 64 + z), 4)
    else .error (some 1)

/-- Reads characters from the byte at `index` on; the next `skip` bytes belong to the
character read last. -/
def decodeFrom (index : Nat) : Nat → List UInt8 → Except Defect (List Char)
  | _, [] => .ok []
  | skip + 1, _ :: r => decodeFrom (index + 1) skip r
  | 0, a :: r =>
    match first (a :: r) with
    | .error length? => .error ⟨index, length?⟩
    | .ok (c, n) => (decodeFrom (index + 1) (n - 1) r).map (c :: ·)

/-- The text that a file's bytes spell. -/
def decode (bytes : ByteArray) : Except Defect String :=
  (decodeFrom 0 0 bytes.toList).map String.ofList

end Pagefold.Text.Utf8
