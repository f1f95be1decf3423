import Pagefold.Number.Double

/-!
# Numbers in scripts

A number is written in decimal digits with a point and a power of ten, or in base two, eight or
sixteen; single low lines may stand between digits. It means the nearest number of 53 binary
digits, or infinity beyond them. The text of a number is the shortest of the texts that mean it.
A small letter n after a whole number makes it one of any size.
-/
namespace Pagefold.Script

open Number

/-- A number as it is read. -/
inductive Numeral where
  | number (value : Double)
  | big (value : Nat)
  deriving DecidableEq, Repr

namespace Numeral

/-! ## Reading -/

/-- The value of a digit. -/
def digitValue (c : Char) : Nat :=
  if c.isDigit then c.toNat - '0'.toNat
  else if 'a' ≤ c ∧ c ≤ 'f' then c.toNat - 'a'.toNat + 10
  else if 'A' ≤ c ∧ c ≤ 'F' then c.toNat - 'A'.toNat + 10
  else 16

/-- Whether a character is a digit of a base. -/
def isDigitOf (base : Nat) (c : Char) : Bool := digitValue c < base

/-- The number that digits of a base write. -/
def valueOf (base : Nat) (digits : List Char) : Nat :=
  digits.foldl (fun n c => base * n + digitValue c) 0

/-- Digits of a base with what follows them. A low line may stand between two digits. -/
def digits? (base : Nat) : List Char → Option (List Char × List Char)
  | [] => none
  | c :: '_' :: r =>
    if isDigitOf base c then (digits? base r).map fun (ds, rest) => (c :: ds, rest) else none
  | c :: r =>
    if !isDigitOf base c then none
    else match digits? base r with
      | some (ds, rest) => some (c :: ds, rest)
      | none => if r.head?.any (isDigitOf base) then none else some ([c], r)

/-- Digits of a base, if there are any, with what follows them. -/
def optionalDigits? (base : Nat) (s : List Char) : Option (List Char × List Char) :=
  if s.head?.any (isDigitOf base) then digits? base s else some ([], s)

/-- The power of ten at the end of a number; without one it is zero. -/
def power? (s : List Char) : Option (Int × List Char) :=
  match s with
  | e :: r =>
    if e = 'e' ∨ e = 'E' then
      match r with
      | '-' :: r => (digits? 10 r).map fun (ds, rest) => (-(valueOf 10 ds : Int), rest)
      | '+' :: r => (digits? 10 r).map fun (ds, rest) => ((valueOf 10 ds : Int), rest)
      | r => (digits? 10 r).map fun (ds, rest) => ((valueOf 10 ds : Int), rest)
    else some (0, s)
  | [] => some (0, [])

/-- The number of some digits before the point and after it, with a power of ten. -/
def ofDigits (whole part : List Char) (power : Int) : Numeral :=
  .number (Double.ofScaled false (valueOf 10 (whole ++ part)) (power - part.length))

/-- A number whose whole part has been read. -/
def afterWhole? (whole : List Char) (s : List Char) : Option (Numeral × List Char) := do
  let (part, s) ← match s with
    | '.' :: r => optionalDigits? 10 r
    | s => some ([], s)
  let (power, s) ← power? s
  pure (ofDigits whole part power, s)

/-- A number after a zero and further digits: all of them octal, or else decimal. -/
def afterZero? (s : List Char) : Option (Numeral × List Char) :=
  let ds := s.takeWhile Char.isDigit
  let rest := s.dropWhile Char.isDigit
  if ds.all (isDigitOf 8) then some (.number (Double.ofNat (valueOf 8 ds)), rest)
  else afterWhole? ds rest

/-- A number in a base other than ten. -/
def inBase? (base : Nat) (s : List Char) : Option (Numeral × List Char) :=
  (digits? base s).map fun (ds, rest) =>
    match rest with
    | 'n' :: rest => (.big (valueOf base ds), rest)
    | rest => (.number (Double.ofNat (valueOf base ds)), rest)

/-- The number at the start of a text and what follows it. -/
def read? (s : List Char) : Option (Numeral × List Char) :=
  match s with
  | '0' :: c :: r =>
    if c = 'x' ∨ c = 'X' then inBase? 16 r
    else if c = 'o' ∨ c = 'O' then inBase? 8 r
    else if c = 'b' ∨ c = 'B' then inBase? 2 r
    else if c = '_' then none
    else if c = 'n' then some (.big 0, r)
    else if c.isDigit then afterZero? (c :: r)
    else afterWhole? ['0'] (c :: r)
  | '.' :: r => do
    let (part, s) ← digits? 10 r
    let (power, s) ← power? s
    pure (ofDigits [] part power, s)
  | s => do
    let (whole, s) ← digits? 10 s
    match s with
    | 'n' :: rest => pure (.big (valueOf 10 whole), rest)
    | s => afterWhole? whole s

/-! ## Writing -/

/-- The shorter of two texts, the first one if they are equally long. -/
def shorter (a b : List Char) : List Char := if b.length < a.length then b else a

/-- A fraction that starts with zeros, as digits with a power of ten. -/
def scaledFraction (s : List Char) : List Char :=
  match s with
  | '.' :: '0' :: r =>
    let digits := r.dropWhile (· == '0')
    if digits.isEmpty then s else digits ++ "e-".toList ++ (toString (s.length - 1)).toList
  | s => s

/-- Zeros at the end as a power of ten. -/
def scaledZeros (s : List Char) : List Char :=
  let kept := (s.reverse.dropWhile (· == '0')).reverse
  if kept.length = s.length ∨ kept.isEmpty then s
  else kept ++ 'e' :: (toString (s.length - kept.length)).toList

/-- A fraction with a power of ten, as a whole number with one. -/
def scaledPoint (s : List Char) : List Char :=
  match s.dropWhile (· != '.') with
  | '.' :: r =>
    match r.dropWhile (· != 'e') with
    | 'e' :: power =>
      match (String.ofList power).toInt? with
      | some power =>
        let part := r.takeWhile (· != 'e')
        s.takeWhile (· != '.') ++ part ++ 'e' :: (toString (power - part.length)).toList
      | none => s
    | _ => s
  | _ => s

/-- The digits of a number in place or with a power of ten, without a zero in front of the
point. -/
def decimalText (size : Magnitude) : List Char :=
  if size.isZero then ['0']
  else
    let d := Format.double.decimal size
    match d.text d.isPositional with
    | '0' :: '.' :: rest => '.' :: rest
    | text => text

/-- The text of a finite number. -/
def finiteText (size : Magnitude) : List Char :=
  let plain := decimalText size
  match size.whole? with
  | none => let best := shorter plain (scaledFraction plain)
    let best := shorter best (scaledZeros best)
    shorter best (scaledPoint best)
  | some n =>
    if n < 1000 then plain
    else
      let hex := '0' :: 'x' :: Nat.toDigits 16 n
      if hex.length < plain.length then hex
      else
        let best := shorter plain (scaledZeros plain)
        shorter best (scaledPoint best)

/-- The text of a number without its sign; infinity is a quotient. -/
def text : Double → String
  | .finite _ size => String.ofList (finiteText size)
  | .infinite _ => "1/0"
  | .undefined => "NaN"

end Numeral

end Pagefold.Script
