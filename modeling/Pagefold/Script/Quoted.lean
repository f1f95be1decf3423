/-!
# Strings in scripts

A string is a list of codes of characters. Half a surrogate pair may stand alone in it, which
is no character; two halves that meet are one character. In a script a string stands between
quotes, where a backslash starts an escape; it is written with the quotes that need the fewest
escapes.
-/
namespace Pagefold.Script

/-- The codes of a string. -/
abbrev Codes := List Nat

/-- The codes of a text. -/
def codesOf (s : String) : Codes := s.toList.map Char.toNat

/-- The text of codes, if each is a character. -/
def textOf? (codes : Codes) : Option String :=
  if codes.all fun code => code.isValidChar then some (String.ofList (codes.map Char.ofNat))
  else none

namespace Codes

/-- Codes where the halves of surrogate pairs that meet are put together. -/
def paired : Codes → Codes
  | high :: low :: rest =>
    if 0xD800 ≤ high ∧ high < 0xDC00 ∧ 0xDC00 ≤ low ∧ low < 0xE000 then
      (0x10000 + (high - 0xD800) * 0x400 + (low - 0xDC00)) :: paired rest
    else high :: paired (low :: rest)
  | codes => codes

end Codes

/-- The marks around a string. -/
inductive Quote where
  | single
  | double
  /-- Grave accents. Lines may end between them, and a dollar sign with a brace is special. -/
  | grave
  deriving DecidableEq, Repr

namespace Quote

/-- The character of a mark. -/
def char : Quote → Char
  | .single => '\''
  | .double => '"'
  | .grave => '\x60'

/-- The mark that a character is. -/
def ofChar? (c : Char) : Option Quote :=
  if c = '\'' then some .single else if c = '"' then some .double
  else if c = '\x60' then some .grave else none

/-! ## Reading -/

/-- The value of a hexadecimal digit. -/
def hexValue? (c : Char) : Option Nat :=
  if c.isDigit then some (c.toNat - '0'.toNat)
  else if 'a' ≤ c ∧ c ≤ 'f' then some (c.toNat - 'a'.toNat + 10)
  else if 'A' ≤ c ∧ c ≤ 'F' then some (c.toNat - 'A'.toNat + 10)
  else none

/-- The number that hexadecimal digits write, all of which have to be such digits. -/
def hexNumber? (digits : List Char) : Option Nat :=
  digits.foldlM (fun n c => (hexValue? c).map fun d => 16 * n + d) 0

/-- The code that some hexadecimal digits write, and what follows them. -/
def hexCode? (count : Nat) (s : List Char) : Option (Nat × List Char) :=
  if s.length < count then none
  else (hexNumber? (s.take count)).map fun code => (code, s.drop count)

/-- The code that hexadecimal digits in braces write, after the opening one. -/
def bracedCode? (s : List Char) : Option (Nat × List Char) :=
  match s.takeWhile (· != '\x7d'), s.dropWhile (· != '\x7d') with
  | digits@(_ :: _), _ :: rest =>
    match hexNumber? digits with
    | some code => if code ≤ 0x10FFFF then some (code, rest) else none
    | none => none
  | _, _ => none

/-- An octal escape: up to three digits, as long as they stay below 256. -/
def octalCode (s : List Char) : Nat × List Char :=
  let isOctal (c : Char) : Bool := '0' ≤ c && c ≤ '7'
  let count := if s.head?.any (· ≤ '3') then 3 else 2
  let digits := (s.take count).takeWhile isOctal
  (digits.foldl (fun n c => 8 * n + (c.toNat - '0'.toNat)) 0, s.drop digits.length)

/-- The codes that a text after a backslash stands for, and what follows. Octal escapes are
not known between grave accents. -/
def escaped? (quote : Quote) (s : List Char) : Option (Codes × List Char) :=
  match s with
  | [] => none
  | '\r' :: '\n' :: r => some ([], r)
  | 'n' :: r => some ([0x0A], r)
  | 't' :: r => some ([0x09], r)
  | 'r' :: r => some ([0x0D], r)
  | 'b' :: r => some ([0x08], r)
  | 'v' :: r => some ([0x0B], r)
  | 'f' :: r => some ([0x0C], r)
  | 'x' :: r => (hexCode? 2 r).map fun (code, rest) => ([code], rest)
  | 'u' :: '\x7b' :: r => (bracedCode? r).map fun (code, rest) => ([code], rest)
  | 'u' :: r => (hexCode? 4 r).map fun (code, rest) => ([code], rest)
  | c :: r =>
    if c = '\n' ∨ c = '\r' ∨ c = '\u2028' ∨ c = '\u2029' then some ([], r)
    else if c = '0' ∧ !r.head?.any Char.isDigit then some ([0], r)
    else if c.isDigit ∧ quote = .grave then none
    else if '0' ≤ c ∧ c ≤ '7' then
      let (code, rest) := octalCode s
      some ([code], rest)
    else some ([c.toNat], r)

/-- The codes of a string up to its closing mark, and what follows the mark. The bound is the
length of the text. -/
def codesFrom? (quote : Quote) : Nat → List Char → Option (Codes × List Char)
  | 0, _ => none
  | _, [] => none
  | n + 1, '\\' :: r => do
    let (codes, r) ← escaped? quote r
    let (rest, r) ← codesFrom? quote n r
    pure (codes ++ rest, r)
  | n + 1, c :: r =>
    if c = quote.char then some ([], r)
    else if c = '\n' ∨ c = '\r' then
      if quote = .grave then
        let after := if c = '\r' ∧ r.head? = some '\n' then r.drop 1 else r
        (codesFrom? quote n after).map fun (rest, r) => (0x0A :: rest, r)
      else none
    else if quote = .grave ∧ c = '$' ∧ r.head? = some '\x7b' then none
    else (codesFrom? quote n r).map fun (rest, r) => (c.toNat :: rest, r)

/-- The codes of a string after its opening mark, and what follows the closing one. -/
def read? (quote : Quote) (s : List Char) : Option (Codes × List Char) :=
  (codesFrom? quote (s.length + 1) s).map fun (codes, rest) => (codes.paired, rest)

/-! ## Writing -/

/-- How many escapes a string needs between marks; a line end between grave accents saves
one. -/
def cost (quote : Quote) : Codes → Int
  | [] => 0
  | code :: rest =>
    let here : Int :=
      if code = quote.char.toNat then 1
      else if quote = .grave ∧ code = 0x0A then -1
      else if quote = .grave ∧ code = '$'.toNat ∧ rest.head? = some '\x7b'.toNat then 1
      else 0
    here + quote.cost rest

/-- The marks that need the fewest escapes, of two kinds the first one if they are equal. -/
def cheaper (a b : Quote) (codes : Codes) : Quote := if b.cost codes < a.cost codes then b else a

/-- The marks for a string where any may stand. -/
def best (codes : Codes) : Quote := cheaper (cheaper .grave .double codes) .single codes

/-- The marks for a string where no grave accents may stand. -/
def plain (codes : Codes) : Quote := cheaper .double .single codes

/-- Whether codes start with a word in small letters, whatever their case. -/
def startsWord : List Char → Codes → Bool
  | [], _ => true
  | _ :: _, [] => false
  | c :: word, code :: codes =>
    (code == c.toNat || code == c.toUpper.toNat) && startsWord word codes

/-- A code as it stands in a string, before the codes in `rest`. -/
def escape (quote : Quote) (code : Nat) (rest : Codes) : List Char :=
  if code = 0 then
    if rest.head?.any fun next => '0'.toNat ≤ next && next ≤ '9'.toNat then "\\x00".toList
    else "\\0".toList
  else if code = 0x07 then "\\x07".toList
  else if code = 0x08 then "\\b".toList
  else if code = 0x0A then if quote = .grave then ['\n'] else "\\n".toList
  else if code = 0x0B then "\\v".toList
  else if code = 0x0C then "\\f".toList
  else if code = 0x0D then "\\r".toList
  else if code = 0x1B then "\\x1B".toList
  else if code = 0xA0 then "\\xA0".toList
  else if code = 0x2028 then "\\u2028".toList
  else if code = 0x2029 then "\\u2029".toList
  else if code = '\\'.toNat then "\\\\".toList
  else if code = quote.char.toNat then ['\\', quote.char]
  else if quote = .grave ∧ code = '$'.toNat ∧ rest.head? = some '\x7b'.toNat then "\\$".toList
  else if 0xD800 ≤ code ∧ code < 0xE000 then "\\u".toList ++ Nat.toDigits 16 code
  else [Char.ofNat code]

/-- A string as it is written between its marks. The end of a script element is not written
out. -/
def content (quote : Quote) : Codes → List Char
  | [] => []
  | code :: rest =>
    if code = '<'.toNat ∧ startsWord "/script".toList rest then '<' :: '\\' :: quote.content rest
    else quote.escape code rest ++ quote.content rest

/-- A string as it is written. -/
def text (quote : Quote) (codes : Codes) : String :=
  String.ofList (quote.char :: quote.content codes ++ [quote.char])

end Quote

end Pagefold.Script
