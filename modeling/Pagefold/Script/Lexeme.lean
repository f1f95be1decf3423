import Pagefold.Script.Numeral
import Pagefold.Script.Quoted
import Pagefold.Text.Identifier

/-!
# The tokens of a script

A script is made of names, numbers, strings and marks. Blanks and comments stand between them and
are dropped. Which token comes next may depend on what has been read: a slash divides after a
value and starts a regular expression elsewhere, and a closing brace may go on with text between
grave accents. So tokens are read one at a time.
-/
namespace Pagefold.Script

/-- Words that are no names. -/
def reserved : List String :=
  ["break", "case", "catch", "class", "const", "continue", "debugger", "default", "delete", "do",
   "else", "enum", "export", "extends", "false", "finally", "for", "function", "if", "import",
   "in", "instanceof", "new", "null", "return", "super", "switch", "this", "throw", "true", "try",
   "typeof", "var", "void", "while", "with"]

/-- A token of a script. -/
inductive Lexeme where
  | finish
  /-- A name, and whether it is written without escapes. -/
  | name (text : String) (plain : Bool)
  /-- A name that only a class can use. -/
  | hidden (text : String)
  | number (value : Numeral)
  /-- A string in single or double marks: what stands between them, and what it means. -/
  | quoted (source : String) (codes : Codes)
  /-- Text after a grave accent or a closing brace: as it is written, what it means, and whether a
  grave accent ends it. -/
  | piece (source : String) (codes : Option Codes) (last : Bool)
  | mark (text : String)
  deriving DecidableEq, Repr

namespace Lexeme

/-! ## Names -/

/-- A character that starts a name. -/
def isNameStart (c : Char) : Bool :=
  if c.toNat < 0x80 then c.isAlpha || c == '_' || c == '$' else Text.startsName c

/-- A character of a name. -/
def isNameChar (c : Char) : Bool :=
  if c.toNat < 0x80 then isNameStart c || c.isDigit else Text.continuesName c

/-- Whether a text can be a name, by its characters. -/
def isNameText (s : List Char) : Bool := s.head?.any isNameStart && s.all isNameChar

/-- The character of an escape in a name, after the backslash. -/
def nameEscape? (s : List Char) : Option (Char × List Char) := do
  let (code, rest) ← match s with
    | 'u' :: '\x7b' :: r => Quote.bracedCode? r
    | 'u' :: r => Quote.hexCode? 4 r
    | _ => none
  if code.isValidChar then some (Char.ofNat code, rest) else none

/-- The rest of a name, whether it is written without escapes, and what follows it. The bound is
the length of the text. -/
def nameFrom? : Nat → List Char → Option (List Char × Bool × List Char)
  | 0, _ => none
  | n + 1, s =>
    match s with
    | '\\' :: r => do
      let (c, rest) ← nameEscape? r
      if !isNameChar c then none
      let (more, _, rest) ← nameFrom? n rest
      pure (c :: more, false, rest)
    | c :: r =>
      if isNameChar c then
        (nameFrom? n r).map fun (more, plain, rest) => (c :: more, plain, rest)
      else some ([], true, s)
    | [] => some ([], true, [])

/-- The name at the start of a text. -/
def name? (bound : Nat) (s : List Char) : Option (List Char × Bool × List Char) := do
  let (text, plain, rest) ← nameFrom? bound s
  if text.head?.any isNameStart then pure (text, plain, rest) else none

/-! ## Blanks -/

/-- A character that ends a line. -/
def endsLine (c : Char) : Bool := c == '\n' || c == '\r' || c == '\u2028' || c == '\u2029'

/-- A blank. -/
def isBlank (c : Char) : Bool :=
  [0x09, 0x0B, 0x0C, 0x20, 0x85, 0xA0, 0x1680, 0x202F, 0x205F, 0x3000, 0xFEFF].contains c.toNat ||
    (0x2000 ≤ c.toNat && c.toNat ≤ 0x200B)

/-- What follows a comment that ends with a star and a slash, and whether a line ends in it or
has ended before; nothing if the comment does not end. -/
def afterComment? (line : Bool) : List Char → Option (Bool × List Char)
  | [] => none
  | '*' :: '/' :: r => some (line, r)
  | c :: r => afterComment? (line || endsLine c) r

/-- The text from the next end of a line. -/
def fromLineEnd (s : List Char) : List Char := s.dropWhile fun c => !endsLine c

/-- The text without blanks and comments at its start, and whether a line ends in them or has
ended before. The bound is the length of the text. -/
def skip? : Nat → Bool → List Char → Option (Bool × List Char)
  | 0, _, _ => none
  | n + 1, line, s =>
    match s with
    | [] => some (line, [])
    | '/' :: '/' :: r => skip? n line (fromLineEnd r)
    | '/' :: '*' :: r => (afterComment? line r).bind fun (line, rest) => skip? n line rest
    | '<' :: '!' :: '-' :: '-' :: r => skip? n line (fromLineEnd r)
    | c :: r =>
      if endsLine c then skip? n true r
      else if isBlank c then skip? n line r
      else if line ∧ ['-', '-', '>'].isPrefixOf s then skip? n line (fromLineEnd r)
      else some (line, s)

/-! ## Texts between grave accents -/

/-- The source of a piece of text between grave accents, whether a grave accent ends it, and what
follows. A line ends with one character however it is written. -/
def pieceSource? : List Char → Option (List Char × Bool × List Char)
  | [] => none
  | '\x60' :: r => some ([], true, r)
  | '$' :: '\x7b' :: r => some ([], false, r)
  | '\\' :: '\r' :: '\n' :: r => (pieceSource? r).map fun (s, more) => ('\\' :: '\n' :: s, more)
  | '\\' :: '\r' :: r => (pieceSource? r).map fun (s, more) => ('\\' :: '\n' :: s, more)
  | '\\' :: c :: r => (pieceSource? r).map fun (s, more) => ('\\' :: c :: s, more)
  | '\r' :: '\n' :: r => (pieceSource? r).map fun (s, more) => ('\n' :: s, more)
  | '\r' :: r => (pieceSource? r).map fun (s, more) => ('\n' :: s, more)
  | c :: r => (pieceSource? r).map fun (s, more) => (c :: s, more)

/-- The piece of text at the start of a text. -/
def piece? (s : List Char) : Option (Lexeme × List Char) := do
  let (source, last, rest) ← pieceSource? s
  let codes := (Quote.grave.read? (source ++ [Quote.grave.char])).map (·.1)
  pure (.piece (String.ofList source) codes last, rest)

/-! ## Regular expressions -/

/-- A regular expression up to its closing slash, and what follows. A slash in brackets does not
close it. -/
def regularSource? (inside : Bool) : List Char → Option (List Char × List Char)
  | [] => none
  | '\\' :: c :: r =>
    if endsLine c then none
    else (regularSource? inside r).map fun (s, more) => ('\\' :: c :: s, more)
  | c :: r =>
    if endsLine c then none
    else if c = '/' ∧ !inside then some ([], r)
    else
      let inside := if c = '[' then true else if c = ']' then false else inside
      (regularSource? inside r).map fun (s, more) => (c :: s, more)

/-- Whether letters after a regular expression are known and differ. -/
def areFlags (flags : List Char) : Bool :=
  flags.all "dgimsuvy".toList.contains && flags.eraseDups.length == flags.length &&
    !(flags.contains 'u' && flags.contains 'v')

/-- The regular expression after its opening slash, its flags, and what follows. -/
def regular? (s : List Char) : Option (String × String × List Char) := do
  let (source, rest) ← regularSource? false s
  let flags := rest.takeWhile isNameChar
  if areFlags flags then
    pure (String.ofList source, String.ofList flags, rest.dropWhile isNameChar)
  else none

/-! ## All tokens -/

/-- Marks, each before those that it starts with. -/
def marks : List String :=
  [">>>=", "...", "===", "!==", "**=", "<<=", ">>=", ">>>", "&&=", "||=", "??=", "=>", "==", "!=",
   "<=", ">=", "&&", "||", "??", "?.", "++", "--", "+=", "-=", "*=", "/=", "%=", "&=", "|=", "^=",
   "<<", ">>", "**", "(", ")", "[", "]", "\x7b", "\x7d", ",", ".", ";", ":", "?", "<", ">", "=",
   "+", "-", "*", "/", "%", "&", "|", "^", "!", "~"]

/-- The mark at the start of a text. A question mark and a point before a digit are two marks. -/
def mark? (s : List Char) : Option (String × List Char) := do
  let text ← marks.find? fun text => text.toList.isPrefixOf s
  let rest := s.drop text.length
  if text = "?." ∧ rest.head?.any Char.isDigit then pure ("?", s.drop 1) else pure (text, rest)

/-- The token at the start of a text without blanks at its start, and what follows it. The bound
is the length of the text. -/
def read? (bound : Nat) (s : List Char) : Option (Lexeme × List Char) :=
  match s with
  | [] => some (.finish, [])
  | c :: r =>
    if isNameStart c ∨ c = '\\' then
      (name? bound s).map fun (text, plain, rest) => (.name (String.ofList text) plain, rest)
    else if c = '#' then
      (name? bound r).map fun (text, _, rest) => (.hidden (String.ofList text), rest)
    else if c.isDigit ∨ (c = '.' ∧ r.head?.any Char.isDigit) then do
      let (value, rest) ← Numeral.read? s
      if rest.head?.any fun c => isNameChar c || c == '\\' then none
      else pure (.number value, rest)
    else
      match Quote.ofChar? c with
      | some .grave => piece? r
      | some quote => do
        let (codes, rest) ← quote.read? r
        pure (.quoted (String.ofList (r.take (r.length - rest.length - 1))) codes, rest)
      | none => (mark? s).map fun (text, rest) => (.mark text, rest)

end Lexeme

end Pagefold.Script
