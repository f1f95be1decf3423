import Pagefold.Json
import Pagefold.Text.Cut

/-!
# Values in the environment

Variables hold plain text, but the values of settings have kinds. The text is read in a loose
notation: the two words for truth, quoted text, numbers, lists in brackets and records in
braces are read as such, and anything else is text as it stands.
-/
namespace Pagefold.Command

/-- The variables of the environment by name. -/
abbrev Environment := List (String × String)

namespace Environment

/-- Whether there is a variable with this name. -/
def has (env : Environment) (name : String) : Bool := (env.lookup name).isSome

/-- The characters that end a bare value. -/
def isMark (c : Char) : Bool := c == ',' || c == '\x7b' || c == '\x7d' || c == '[' || c == ']'

/-- Without the blanks at the start. -/
def skip (s : List Char) : List Char := s.dropWhile Text.isAsciiBlank

/-- The text without its sign. -/
def unsigned (s : List Char) : List Char :=
  match s with
  | '+' :: r | '-' :: r => r
  | r => r

/-- Whether there are digits only, and at least one. -/
def areDigits (s : List Char) : Bool := !s.isEmpty && s.all Char.isDigit

/-- Whether a text writes a whole number that fits into a word of 64 bits. -/
def isWhole (s : List Char) : Bool :=
  areDigits (unsigned s) &&
    (if s.head? = some '-' then decide (Json.decimal (unsigned s) ≤ 0x8000000000000000)
      else decide (Json.decimal (unsigned s) ≤ 0xFFFFFFFFFFFFFFFF))

/-- Whether a text writes a number with a point, and perhaps an exponent. -/
def isFractional (s : List Char) : Bool :=
  let isMantissa (c : Char) : Bool := c != 'e' && c != 'E'
  let mantissa := (unsigned s).takeWhile isMantissa
  let exponent := (unsigned s).dropWhile isMantissa
  mantissa.count '.' == 1 && areDigits (mantissa.filter (· != '.')) &&
    (exponent.isEmpty || areDigits (unsigned (exponent.drop 1)))

/-- A value without brackets and quotes. -/
def bare (s : List Char) : Json :=
  let text := Text.trim s
  if isFractional text || isWhole text then .number (String.ofList text)
  else .string (String.ofList text)

/-- The character of an escape of one letter. -/
def escaped? (c : Char) : Option Char := if c = '/' then none else Json.escaped? c

/-- The character whose number is written by hexadecimal digits. -/
def numbered? (digits : List Char) : Option Char := do
  let n ← digits.foldlM (fun n c => (Json.hexDigit? c).map (n * 16 + ·)) 0
  if n.isValidChar then some (Char.ofNat n) else none

/-- The text up to the next quote that has no backslash in front, and what follows that quote. -/
def toQuote? : List Char → Option (List Char × List Char)
  | [] => none
  | '"' :: r => some ([], r)
  | '\\' :: c :: r => (toQuote? r).map fun (cs, rest) => ('\\' :: c :: cs, rest)
  | c :: r => (toQuote? r).map fun (cs, rest) => (c :: cs, rest)

/-- A character that may stand in quoted text: a tab, or any character but the controls. -/
def isQuotable (c : Char) : Bool := c == '\t' || (0x20 ≤ c.toNat && c != '\x7f')

/-- A quoted text with its escapes read. -/
def unescaped? : List Char → Option (List Char)
  | [] => some []
  | '\\' :: 'u' :: a :: b :: c :: d :: r => do
    let x ← numbered? [a, b, c, d]
    pure (x :: (← unescaped? r))
  | '\\' :: 'U' :: a :: b :: c :: d :: e :: f :: g :: h :: r => do
    let x ← numbered? [a, b, c, d, e, f, g, h]
    pure (x :: (← unescaped? r))
  | '\\' :: c :: r => do
    let c ← escaped? c
    pure (c :: (← unescaped? r))
  | c :: r => do
    if c = '\\' ∨ !isQuotable c then none
    pure (c :: (← unescaped? r))

/-- The characters of a text that end within its first `bytes` bytes of UTF-8. -/
def withinBytes (bytes : Nat) : List Char → List Char
  | [] => []
  | c :: r => if c.utf8Size ≤ bytes then c :: withinBytes (bytes - c.utf8Size) r else []

/-- A quoted text with its escapes read. The text before the first escape is kept by its length:
as many bytes as it has characters. -/
def unquoted? (s : List Char) : Option (List Char) := do
  let isPlain (c : Char) : Bool := c != '\\'
  let before := s.takeWhile isPlain
  if !before.all isQuotable then none
  match s.dropWhile isPlain with
  | [] => pure before
  | rest => pure (withinBytes before.length s ++ (← unescaped? rest))

/-- The rest of a quoted text after its opening quote: the characters, and what follows the
closing quote. -/
def quoted? (s : List Char) : Option (List Char × List Char) := do
  let (content, rest) ← toQuote? s
  pure (← unquoted? content, rest)

/-- A character of a key without quotes. -/
def isKeyChar (c : Char) : Bool := c.isAlphanum || c == '_' || c == '-'

/-- The key of a member of a record. -/
def key? (s : List Char) : Option (String × List Char) :=
  match skip s with
  | '"' :: r => (quoted? r).map fun (cs, r) => (String.ofList cs, skip r)
  | r =>
    match r.takeWhile isKeyChar with
    | [] => none
    | cs => some (String.ofList cs, skip (r.dropWhile isKeyChar))

mutual

/-- The value at the start of a text, with the blanks around it. The fuel bounds the parts
still to be read. -/
def value? (fuel : Nat) (s : List Char) : Option (Json × List Char) :=
  match fuel with
  | 0 => none
  | fuel + 1 => do
    let (x, r) ←
      match skip s with
      | 't' :: 'r' :: 'u' :: 'e' :: r => some (.bool true, r)
      | 'f' :: 'a' :: 'l' :: 's' :: 'e' :: r => some (.bool false, r)
      | '\x7b' :: r => (members? fuel r).map fun (xs, r) => (.object xs, r)
      | '[' :: r => (items? fuel r).map fun (xs, r) => (.array xs, r)
      | '"' :: r => (quoted? r).map fun (cs, r) => (.string (String.ofList cs), r)
      | ['\''] => none
      | '\'' :: c :: '\'' :: r => some (.string (String.ofList [c]), r)
      | '\'' :: _ => none
      | r => some (bare (r.takeWhile fun c => !isMark c), r.dropWhile fun c => !isMark c)
    pure (x, skip r)

/-- The items of a list up to its closing bracket. -/
def items? (fuel : Nat) (s : List Char) : Option (List Json × List Char) :=
  match fuel with
  | 0 => none
  | fuel + 1 =>
    match s with
    | ']' :: r => some ([], r)
    | s => do
      let (x, r) ← value? fuel s
      match r with
      | ',' :: r => do
        let (xs, r) ← items? fuel r
        pure (x :: xs, r)
      | ']' :: r => pure ([x], r)
      | _ => none

/-- The members of a record up to its closing brace. -/
def members? (fuel : Nat) (s : List Char) : Option (List (String × Json) × List Char) :=
  match fuel with
  | 0 => none
  | fuel + 1 =>
    match s with
    | '\x7d' :: r => some ([], r)
    | s => do
      let (key, r) ← key? s
      match r with
      | '=' :: r => do
        let (x, r) ← value? fuel r
        match r with
        | ',' :: r => do
          let (xs, r) ← members? fuel r
          pure ((key, x) :: xs, r)
        | '\x7d' :: r => pure ([(key, x)], r)
        | _ => none
      | _ => none

end

/-- The value of a variable: what its whole text writes, or else the text itself. -/
def read (text : String) : Json :=
  match value? (2 * text.length + 2) text.toList with
  | some (x, []) => x
  | _ => .string text

/-- The text after `start`, which has to be at its beginning but for the case of letters. -/
def afterStart? : List Char → List Char → Option (List Char)
  | [], s => some s
  | a :: start, c :: s => if a.toLower = c.toLower then afterStart? start s else none
  | _ :: _, [] => none

/-- A value inside records of one member each, the outer names first. -/
def nested (x : Json) : List (List Char) → Json
  | [] => x
  | name :: inner => .object [(String.ofList name, nested x inner)]

/-- The value under a key in which points part the names of nested records; none of the names
may be empty. -/
def placed? (key : List Char) (x : Json) : Option (String × Json) :=
  match Text.pieces (· == '.') key with
  | [] => none
  | name :: inner =>
    if (name :: inner).any List.isEmpty then none
    else some (String.ofList name, nested x inner)

/-- The values of the variables whose names begin with `start`, by the rest of the name in
small letters. Blanks around a name and around its rest mean nothing. -/
def valuesUnder (env : Environment) (start : String) : List (String × Json) :=
  env.filterMap fun (name, text) => do
    let rest ← afterStart? start.toList (Text.trim name.toList)
    placed? ((Text.trim rest).map Char.toLower) (read text)

end Environment

end Pagefold.Command
