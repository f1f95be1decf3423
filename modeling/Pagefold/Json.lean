import Pagefold.Number.Nearest

/-!
# JSON

A reader for whole JSON texts. Numbers keep their text, because no number is ever computed
with; a number that a double cannot hold, nesting to a depth of 128, a lone surrogate and
anything after the value are refused. A number is taken as a significand of 64 bits times a
power of ten, both of which are doubles before they are multiplied.
-/
namespace Pagefold

/-- A JSON value. Objects keep their members in the order of the text. -/
inductive Json where
  | null
  | bool (value : Bool)
  | number (text : String)
  | string (value : String)
  | array (items : List Json)
  | object (members : List (String × Json))

namespace Json

/-- The blanks between the parts of a JSON text. -/
def isSpace (c : Char) : Bool := c == ' ' || c == '\n' || c == '\t' || c == '\r'

/-- The text from its first part on. -/
def skip (s : List Char) : List Char := s.dropWhile isSpace

/-- The value of a hexadecimal digit. -/
def hexDigit? (c : Char) : Option Nat :=
  if '0' ≤ c ∧ c ≤ '9' then some (c.toNat - '0'.toNat)
  else if 'a' ≤ c ∧ c ≤ 'f' then some (c.toNat - 'a'.toNat + 10)
  else if 'A' ≤ c ∧ c ≤ 'F' then some (c.toNat - 'A'.toNat + 10)
  else none

/-- The number that four hexadecimal digits write. -/
def hexFour? (a b c d : Char) : Option Nat := do
  let a ← hexDigit? a
  let b ← hexDigit? b
  let c ← hexDigit? c
  let d ← hexDigit? d
  pure (((a * 16 + b) * 16 + c) * 16 + d)

/-- The character of an escape of one letter. -/
def escaped? : Char → Option Char
  | '"' => some '"'
  | '\\' => some '\\'
  | '/' => some '/'
  | 'b' => some '\x08'
  | 'f' => some '\x0c'
  | 'n' => some '\n'
  | 'r' => some '\r'
  | 't' => some '\t'
  | _ => none

/-- The rest of a string after its opening quote: the characters, and the text that
follows the closing quote. -/
def string? : List Char → Option (List Char × List Char)
  | [] => none
  | '"' :: r => some ([], r)
  | '\\' :: 'u' :: a :: b :: c :: d :: r => do
    let high ← hexFour? a b c d
    if 0xD800 ≤ high ∧ high < 0xDC00 then
      match r with
      | '\\' :: 'u' :: e :: f :: g :: h :: r => do
        let low ← hexFour? e f g h
        if 0xDC00 ≤ low ∧ low < 0xE000 then
          let (cs, rest) ← string? r
          pure (Char.ofNat (0x10000 + (high - 0xD800) * 0x400 + (low - 0xDC00)) :: cs, rest)
        else none
      | _ => none
    else if 0xDC00 ≤ high ∧ high < 0xE000 then none
    else
      let (cs, rest) ← string? r
      pure (Char.ofNat high :: cs, rest)
  | '\\' :: c :: r => do
    let c ← escaped? c
    let (cs, rest) ← string? r
    pure (c :: cs, rest)
  | c :: r =>
    if c.toNat < 0x20 ∨ c = '\\' then none
    else do
      let (cs, rest) ← string? r
      pure (c :: cs, rest)

/-- The digits at the start of a text, at least one. -/
def digits? (s : List Char) : Option (List Char × List Char) :=
  match s.takeWhile Char.isDigit with
  | [] => none
  | ds => some (ds, s.dropWhile Char.isDigit)

/-- The number that decimal digits write. -/
def decimal (ds : List Char) : Nat := ds.foldl (fun n d => n * 10 + (d.toNat - '0'.toNat)) 0

/-- The significand of a number in the middle of its digits, and the digits that are left. A digit
that would take the significand beyond 64 bits is not read. -/
def significand (n : Nat) : List Char → Nat × List Char
  | [] => (n, [])
  | d :: r =>
    let next := n * 10 + (d.toNat - '0'.toNat)
    if next < 0x10000000000000000 then significand next r else (n, d :: r)

/-- Whether `n · 10 ^ exponent` is finite when the two factors and then their product are rounded
to doubles. -/
def isFinite (n : Nat) (exponent : Int) : Bool :=
  if n = 0 ∨ exponent < 0 then true
  else if 308 < exponent then false
  else
    let factor := Number.toPrecision (Nat.pow 10 exponent.toNat)
    Number.toPrecision (Number.toPrecision n * factor) < Number.power 1024

/-- The exponent at the start of a text, whether it is negative, and what follows it. -/
def exponent? (s : List Char) : Option (Bool × List Char × List Char) :=
  let (negative, r) := match s with
    | '-' :: r => (true, r)
    | '+' :: r => (false, r)
    | r => (false, r)
  (digits? r).map fun (ds, r) => (negative, ds, r)

/-- Whether a number of these digits is finite. Whole digits that do not fit into the significand
count as zeros, and the digits of the fraction that do not fit count not at all. -/
def inRange (whole fraction : List Char) (exponent : Option (Bool × List Char)) : Bool :=
  let (n, left) := significand 0 whole
  let (n, unread) := significand n fraction
  let shift : Int := left.length - (fraction.length - unread.length)
  match exponent with
  | none => isFinite n shift
  | some (negative, ds) =>
    let size : Int := decimal ds
    if size ≤ 0x7FFFFFFF then isFinite n (if negative then shift - size else shift + size)
    else negative || n == 0

/-- The number at the start of a text. -/
def number? (s : List Char) : Option (String × List Char) := do
  let unsigned := if s.head? = some '-' then s.drop 1 else s
  let (whole, r) ← digits? unsigned
  if whole.length > 1 ∧ whole.head? = some '0' then none
  let (fraction, r) ← match r with
    | '.' :: r => digits? r
    | r => some ([], r)
  let (exponent, r) ← match r with
    | 'e' :: r | 'E' :: r =>
      (exponent? r).map fun (negative, ds, r) => (some (negative, ds), r)
    | r => some (none, r)
  if inRange whole fraction exponent then
    pure (String.ofList (s.take (s.length - r.length)), r)
  else none

/-- The word `w` at the start of a text. -/
def word? : List Char → List Char → Option (List Char)
  | [], s => some s
  | a :: w, c :: s => if a = c then word? w s else none
  | _ :: _, [] => none

mutual

/-- The value at the start of a text. The fuel bounds the parts still to be read, and
`depth` the levels of nesting that are still allowed. -/
def value? (fuel depth : Nat) (s : List Char) : Option (Json × List Char) :=
  match fuel with
  | 0 => none
  | fuel + 1 =>
    match skip s with
    | '"' :: r => (string? r).map fun (cs, r) => (.string (String.ofList cs), r)
    | '[' :: r =>
      if depth ≤ 1 then none
      else
        match skip r with
        | ']' :: r => some (.array [], r)
        | r => (items? fuel (depth - 1) r).map fun (xs, r) => (.array xs, r)
    | '\x7b' :: r =>
      if depth ≤ 1 then none
      else
        match skip r with
        | '\x7d' :: r => some (.object [], r)
        | r => (members? fuel (depth - 1) r).map fun (xs, r) => (.object xs, r)
    | 't' :: r => (word? "rue".toList r).map fun r => (.bool true, r)
    | 'f' :: r => (word? "alse".toList r).map fun r => (.bool false, r)
    | 'n' :: r => (word? "ull".toList r).map fun r => (.null, r)
    | r => (number? r).map fun (text, r) => (.number text, r)

/-- The items of an array up to its closing bracket. -/
def items? (fuel depth : Nat) (s : List Char) : Option (List Json × List Char) :=
  match fuel with
  | 0 => none
  | fuel + 1 => do
    let (x, r) ← value? fuel depth s
    match skip r with
    | ']' :: r => pure ([x], r)
    | ',' :: r => do
      let (xs, r) ← items? fuel depth r
      pure (x :: xs, r)
    | _ => none

/-- The members of an object up to its closing brace. -/
def members? (fuel depth : Nat) (s : List Char) : Option (List (String × Json) × List Char) :=
  match fuel with
  | 0 => none
  | fuel + 1 =>
    match skip s with
    | '"' :: r => do
      let (key, r) ← string? r
      match skip r with
      | ':' :: r => do
        let (x, r) ← value? fuel depth r
        match skip r with
        | '\x7d' :: r => pure ([(String.ofList key, x)], r)
        | ',' :: r => do
          let (xs, r) ← members? fuel depth r
          pure ((String.ofList key, x) :: xs, r)
        | _ => none
      | _ => none
    | _ => none

end

/-- The value that a whole text writes. -/
def read? (text : String) : Option Json := do
  let s := text.toList
  let (x, r) ← value? (2 * s.length + 2) 128 s
  if skip r = [] then some x else none

/-- The members of an object by ascending key; of members with one key the last counts. -/
def sortedMembers (members : List (String × Json)) : List (String × Json) :=
  let kept := members.foldl
    (fun kept member => kept.filter (·.1 ≠ member.1) ++ [member]) []
  kept.mergeSort fun a b => decide (a.1 ≤ b.1)

end Json

end Pagefold
