import Pagefold.Html.Reference.Name

/-!
# Character references

What an ampersand in HTML text stands for. A reference is a number or a name; many names are
also read without their semicolon, in an attribute only if no letter, digit or equals sign
follows.
-/
namespace Pagefold.Html.Reference

/-- The characters of the longest spelling at the start of a text, with its length. -/
def named? (s : List Char) : Option (List Char × Nat) :=
  (spellings.filter fun entry => entry.1.isPrefixOf s).foldl
    (fun best entry =>
      match best with
      | some (_, n) => if n < entry.1.length then some (entry.2, entry.1.length) else best
      | none => some (entry.2, entry.1.length))
    none

/-- The characters that the numbers 128 to 159 stand for. -/
def oldPage : List Nat :=
  [0x20AC, 0x81, 0x201A, 0x0192, 0x201E, 0x2026, 0x2020, 0x2021, 0x02C6, 0x2030, 0x0160, 0x2039,
   0x0152, 0x8D, 0x017D, 0x8F, 0x90, 0x2018, 0x2019, 0x201C, 0x201D, 0x2022, 0x2013, 0x2014,
   0x02DC, 0x2122, 0x0161, 0x203A, 0x0153, 0x9D, 0x017E, 0x0178]

/-- The character of a numeric reference. Zero, surrogates and numbers beyond Unicode stand
for the replacement character. -/
def ofNumber (n : Nat) : Char :=
  if 0x80 ≤ n ∧ n < 0xA0 then Char.ofNat (oldPage.getD (n - 0x80) 0xFFFD)
  else if n = 0 ∨ 0x10FFFF < n ∨ (0xD800 ≤ n ∧ n < 0xE000) then '\ufffd'
  else Char.ofNat n

/-- The value of a digit in a base up to 16. -/
def digit? (base : Nat) (c : Char) : Option Nat :=
  let n :=
    if c.isDigit then some (c.toNat - '0'.toNat)
    else if 'a' ≤ c ∧ c ≤ 'f' then some (c.toNat - 'a'.toNat + 10)
    else if 'A' ≤ c ∧ c ≤ 'F' then some (c.toNat - 'A'.toNat + 10)
    else none
  n.filter (· < base)

/-- The number written by the digits at the start of a text. Values beyond Unicode are not
told apart. -/
def number (base : Nat) (digits : List Char) : Nat :=
  digits.foldl (fun n c => min (n * base + (digit? base c).getD 0) 0x110000) 0

/-- A numeric reference after its opening of `opened` characters. -/
def numeric? (base opened : Nat) (s : List Char) : Option (List Char × Nat) :=
  match s.takeWhile (digit? base · |>.isSome) with
  | [] => none
  | digits =>
    let closed := if (s.drop digits.length).head? = some ';' then 1 else 0
    some ([ofNumber (number base digits)], opened + digits.length + closed)

/-- The characters that the text after an ampersand refers to, and the number of characters
that belong to the reference. -/
def read? (inAttribute : Bool) : List Char → Option (List Char × Nat)
  | '#' :: 'x' :: r => numeric? 16 2 r
  | '#' :: 'X' :: r => numeric? 16 2 r
  | '#' :: r => numeric? 10 1 r
  | s =>
    match named? s with
    | none => none
    | some (characters, n) =>
      let open_ := s.take n |>.getLast? |>.all (· ≠ ';')
      let next := (s.drop n).head?
      if inAttribute ∧ open_ ∧ next.any (fun d => d == '=' || d.isAlphanum) then none
      else some (characters, n)

/-- The text with its references replaced; `skip` characters still belong to the last one. -/
def decodeFrom (inAttribute : Bool) : Nat → List Char → List Char
  | _, [] => []
  | skip + 1, _ :: r => decodeFrom inAttribute skip r
  | 0, '&' :: r =>
    match read? inAttribute r with
    | some (characters, n) => characters ++ decodeFrom inAttribute n r
    | none => '&' :: decodeFrom inAttribute 0 r
  | 0, c :: r => c :: decodeFrom inAttribute 0 r

/-- Whether a text starts with a numeric reference that lacks its semicolon. -/
def startsUnclosed : List Char → Bool
  | '&' :: '#' :: r =>
    match read? false ('#' :: r) with
    | some (_, n) => (('#' :: r).drop (n - 1)).head? ≠ some ';'
    | none => false
  | _ => false

/-- The text with its references replaced. -/
def decode (inAttribute : Bool) (s : List Char) : List Char := decodeFrom inAttribute 0 s

end Pagefold.Html.Reference
