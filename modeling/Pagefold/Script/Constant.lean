import Pagefold.Script.Numeral
import Pagefold.Script.Quoted

/-!
# Constants of scripts

The values that a script can write down, and how a value of one kind counts as one of another:
as a text, as a number, as true or false. Texts are measured and cut in units of 16 bits, of which
characters beyond the first 65536 take two.
-/
namespace Pagefold.Script

open Number

/-- A value that is no object. -/
inductive Constant where
  | undefined
  | null
  | truth (value : Bool)
  | number (value : Double)
  | text (codes : Codes)
  deriving DecidableEq, Repr

namespace Codes

/-- The units of 16 bits of a text. -/
def units (codes : Codes) : List Nat :=
  codes.flatMap fun code =>
    if code < 0x10000 then [code]
    else [0xD800 + (code - 0x10000) / 0x400, 0xDC00 + (code - 0x10000) % 0x400]

/-- How many units of 16 bits a text has. -/
def length (codes : Codes) : Nat := (units codes).length

/-- The text of some units. -/
def ofUnits (units : List Nat) : Codes := paired units

/-- Whether a text is before another in the order of their units. -/
def before (a b : List Nat) : Bool :=
  match a, b with
  | [], [] => false
  | [], _ :: _ => true
  | _ :: _, [] => false
  | x :: a, y :: b => if x = y then before a b else x < y

/-- The first place from `start` on where some units stand in others. -/
def indexFrom? (wanted : List Nat) (start : Nat) : List Nat → Option Nat
  | [] => if wanted.isEmpty then some start else none
  | x :: rest =>
    if wanted.isPrefixOf (x :: rest) then some start else indexFrom? wanted (start + 1) rest

/-- Whether a unit is a blank or ends a line. -/
def isBlank (unit : Nat) : Bool :=
  [0x09, 0x0A, 0x0B, 0x0C, 0x0D, 0x20, 0xA0, 0x1680, 0x2028, 0x2029, 0x202F, 0x205F, 0x3000,
    0xFEFF].contains unit || (0x2000 ≤ unit && unit ≤ 0x200A)

/-- A text without blanks at its start. -/
def trimStart (codes : Codes) : Codes := codes.dropWhile isBlank

/-- A text without blanks at its end. -/
def trimEnd (codes : Codes) : Codes := (codes.reverse.dropWhile isBlank).reverse

/-- A text without blanks at its ends. -/
def trim (codes : Codes) : Codes := trimEnd (trimStart codes)

end Codes

/-! ## Numbers of texts -/

/-- The number that digits of a base write; no digits are no number. -/
def ofBase (base : Nat) (digits : List Char) : Double :=
  if digits.isEmpty ∨ !digits.all (Numeral.isDigitOf base) then .undefined
  else Double.ofNat (Numeral.valueOf base digits)

/-- The power of ten at the end of a number. -/
def exponent? (s : List Char) : Option Int :=
  let digits (r : List Char) : Option Int :=
    if r.isEmpty ∨ !r.all Char.isDigit then none else some (Numeral.valueOf 10 r)
  match s with
  | [] => some 0
  | e :: '-' :: r => if e = 'e' ∨ e = 'E' then (digits r).map (- ·) else none
  | e :: '+' :: r => if e = 'e' ∨ e = 'E' then digits r else none
  | e :: r => if e = 'e' ∨ e = 'E' then digits r else none

/-- The number that decimal digits with a point and a power of ten write. -/
def ofDecimal (negative : Bool) (s : List Char) : Double :=
  if s = "Infinity".toList then .infinite negative
  else
    let whole := s.takeWhile Char.isDigit
    let rest := s.dropWhile Char.isDigit
    let (part, rest) := match rest with
      | '.' :: r => (r.takeWhile Char.isDigit, r.dropWhile Char.isDigit)
      | rest => ([], rest)
    if whole.isEmpty ∧ part.isEmpty then .undefined
    else match exponent? rest with
      | none => .undefined
      | some power =>
        Double.ofScaled negative (Numeral.valueOf 10 (whole ++ part)) (power - part.length)

/-- The number that a text counts as. -/
def numberOf (codes : Codes) : Double :=
  match textOf? (Codes.trim codes) with
  | none => .undefined
  | some text =>
    match text.toList with
    | [] => Double.zero false
    | '0' :: c :: r =>
      if c = 'x' ∨ c = 'X' then ofBase 16 r
      else if c = 'o' ∨ c = 'O' then ofBase 8 r
      else if c = 'b' ∨ c = 'B' then ofBase 2 r
      else ofDecimal false ('0' :: c :: r)
    | '-' :: r => ofDecimal true r
    | '+' :: r => ofDecimal false r
    | s => ofDecimal false s

namespace Constant

/-- The text that a value counts as. -/
def toCodes : Constant → Codes
  | undefined => codesOf "undefined"
  | null => codesOf "null"
  | truth value => codesOf (if value then "true" else "false")
  | number value => codesOf value.text
  | text codes => codes

/-- The number that a value counts as. -/
def toNumber : Constant → Double
  | undefined => .undefined
  | null => Double.zero false
  | truth value => if value then Double.ofNat 1 else Double.zero false
  | number value => value
  | text codes => numberOf codes

/-- Whether a value counts as true. -/
def toTruth : Constant → Bool
  | undefined => false
  | null => false
  | truth value => value
  | number value => !value.isZero && value != .undefined
  | text codes => !codes.isEmpty

/-- The word for the kind of a value. -/
def kindWord : Constant → String
  | undefined => "undefined"
  | null => "object"
  | truth _ => "boolean"
  | number _ => "number"
  | text _ => "string"

/-- Whether two values are the same, with their kinds. -/
def identical : Constant → Constant → Bool
  | number a, number b => a.equals b
  | a, b => decide (a = b)

/-- Whether two values count as the same. -/
def alike : Constant → Constant → Bool
  | undefined, undefined => true
  | undefined, null => true
  | null, undefined => true
  | null, null => true
  | undefined, _ => false
  | null, _ => false
  | _, undefined => false
  | _, null => false
  | text a, text b => decide (a = b)
  | a, b => a.toNumber.equals b.toNumber

/-- Whether a value is less than another. Texts are compared unit by unit; nothing is known to
be less than what is no number. -/
def below (a b : Constant) : Bool :=
  match a, b with
  | text a, text b => Codes.before (Codes.units a) (Codes.units b)
  | a, b => a.toNumber.below b.toNumber

/-- Whether two values can be put in order. -/
def comparable (a b : Constant) : Bool :=
  match a, b with
  | text _, text _ => true
  | a, b => a.toNumber != .undefined && b.toNumber != .undefined

end Constant

end Pagefold.Script
