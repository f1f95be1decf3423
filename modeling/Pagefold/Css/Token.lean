import Pagefold.Number.Single
import Pagefold.Text.Cut

/-!
# Tokens of a stylesheet

The lexical rules of CSS: names with escapes, strings, numbers with units, addresses in
`url(…)`, comments and marks. A token keeps the text it was read from, so that the tokens of
a stylesheet together are the stylesheet.
-/
namespace Pagefold.Css

/-- A number as it is read: its value, the whole number it is if it is written as one, and
whether a sign is written. -/
structure Numeric where
  value : Number.Single
  whole? : Option Int := none
  signed : Bool := false
  deriving DecidableEq, Repr

/-- What a token is. -/
inductive Kind where
  | blank
  | comment (content : String)
  | ident (name : String)
  /-- A name with the opening parenthesis of its arguments. -/
  | call (name : String)
  | atWord (name : String)
  /-- A number sign with a name; `isName` tells that the name is an identifier. -/
  | hash (name : String) (isName : Bool)
  | quoted (content : String)
  | url (link : String)
  | number (n : Numeric)
  /-- A percentage; its value is the fraction that it stands for. -/
  | percentage (n : Numeric)
  /-- A number with a unit. -/
  | dimension (n : Numeric) (unit : String)
  | delim (c : Char)
  /-- A mark of two characters that ends in an equals sign. -/
  | test (c : Char)
  | colon
  | semicolon
  | comma
  | opening (c : Char)
  | closing (c : Char)
  /-- The marks of a markup comment, which mean nothing. -/
  | markupComment
  | bad
  deriving DecidableEq, Repr

/-- A token with the text it was read from. -/
structure Token where
  kind : Kind
  text : List Char
  deriving DecidableEq, Repr

namespace Token

/-- A blank of a stylesheet. -/
def isBlank (c : Char) : Bool := c == ' ' || c == '\t' || c == '\n' || c == '\r' || c == '\x0c'

/-- A character that ends a line. -/
def isLineEnd (c : Char) : Bool := c == '\n' || c == '\r' || c == '\x0c'

def isHexDigit (c : Char) : Bool :=
  c.isDigit || ('a' ≤ c && c ≤ 'f') || ('A' ≤ c && c ≤ 'F')

/-- The value of a hexadecimal digit. -/
def hexDigit (c : Char) : Nat :=
  if c.isDigit then c.toNat - '0'.toNat
  else if 'a' ≤ c then c.toNat - 'a'.toNat + 10
  else c.toNat - 'A'.toNat + 10

/-- A character that may start a name. -/
def isNameStart (c : Char) : Bool := c.isAlpha || c == '_' || c == '\x00' || 0x80 ≤ c.toNat

/-- A character that may stand in a name. -/
def isNameChar (c : Char) : Bool := isNameStart c || c.isDigit || c == '-'

/-- The character with a code, where a code without a character stands for U+FFFD. -/
def ofCode (n : Nat) : Char :=
  if h : n.isValidChar then (if n = 0 then '\ufffd' else Char.ofNatAux n h) else '\ufffd'

/-- A null character is read as U+FFFD. -/
def readChar (c : Char) : Char := if c = '\x00' then '\ufffd' else c

/-- A text without one leading blank; two characters may be one line end. -/
def skipBlank : List Char → List Char
  | '\r' :: '\n' :: r => r
  | c :: r => if isBlank c then r else c :: r
  | [] => []

/-- The character that an escape stands for, and what follows it. The text starts after the
backslash. -/
def escape : List Char → Char × List Char
  | [] => ('\ufffd', [])
  | c :: r =>
    if isHexDigit c then
      let digits := (c :: r.take 5).takeWhile isHexDigit
      let code := digits.foldl (fun n d => n * 16 + hexDigit d) 0
      (ofCode code, skipBlank ((c :: r).drop digits.length))
    else (readChar c, r)

/-- Whether what follows a backslash makes it an escape. -/
def escapes : List Char → Bool
  | [] => true
  | c :: _ => !isLineEnd c

/-- Whether a text starts with an identifier. -/
def startsName : List Char → Bool
  | '-' :: '-' :: _ => true
  | '-' :: '\\' :: r => escapes r
  | '-' :: c :: _ => isNameStart c
  | '\\' :: r => escapes r
  | c :: _ => isNameStart c
  | [] => false

/-- The name at the start of a text, and what follows. The bound is the length of the text. -/
def nameFrom : Nat → List Char → List Char × List Char
  | 0, s => ([], s)
  | _, [] => ([], [])
  | n + 1, c :: r =>
    if isNameChar c then
      let (name, rest) := nameFrom n r
      (readChar c :: name, rest)
    else if c = '\\' ∧ escapes r then
      let (e, r) := escape r
      let (name, rest) := nameFrom n r
      (e :: name, rest)
    else ([], c :: r)

/-- The name at the start of a text, and what follows. -/
def name (s : List Char) : String × List Char :=
  let (name, rest) := nameFrom s.length s
  (String.ofList name, rest)

/-- The content of a string up to its quote, and what follows. An end of line that is not
escaped makes the string bad; the end of the text closes it. -/
def stringFrom (quote : Char) : Nat → List Char → Option (List Char) × List Char
  | 0, s => (some [], s)
  | _, [] => (some [], [])
  | n + 1, c :: r =>
    if c = quote then (some [], r)
    else if isLineEnd c then (none, c :: r)
    else if c = '\\' then
      match r with
      | [] => (some [], [])
      | '\r' :: '\n' :: r => stringFrom quote n r
      | d :: r' =>
        if isLineEnd d then stringFrom quote n r'
        else
          let (e, r) := escape r
          let (content, rest) := stringFrom quote n r
          (content.map (e :: ·), rest)
    else
      let (content, rest) := stringFrom quote n r
      (content.map (readChar c :: ·), rest)

/-- What follows a bad address: the text after its closing parenthesis. -/
def afterBadUrl : List Char → List Char
  | [] => []
  | ')' :: r => r
  | '\\' :: _ :: r => afterBadUrl r
  | _ :: r => afterBadUrl r

/-- A character that cannot stand in an address without quotes. -/
def spoilsUrl (c : Char) : Bool :=
  c == '"' || c == '\'' || c == '(' || c == '\x7f' || c == '\x0b' ||
    (c.toNat < 0x20 && c.toNat ≠ 0 && !isBlank c)

/-- An address without quotes, read up to its closing parenthesis. -/
def urlFrom : Nat → List Char → Option (List Char) × List Char
  | 0, s => (some [], s)
  | _, [] => (some [], [])
  | n + 1, c :: r =>
    if c = ')' then (some [], r)
    else if isBlank c then
      match r.dropWhile isBlank with
      | [] => (some [], [])
      | ')' :: rest => (some [], rest)
      | other => (none, afterBadUrl other)
    else if c = '\\' then
      if escapes r then
        let (e, r) := escape r
        let (link, rest) := urlFrom n r
        (link.map (e :: ·), rest)
      else (none, afterBadUrl r)
    else if spoilsUrl c then (none, afterBadUrl r)
    else
      let (link, rest) := urlFrom n r
      (link.map (readChar c :: ·), rest)

/-- Whether the text after `url(` starts with a quote, blanks aside. -/
def quoteFollows (s : List Char) : Bool :=
  match s.dropWhile isBlank with
  | '"' :: _ => true
  | '\'' :: _ => true
  | _ => false

/-- A text that starts with a name: a name, a call or an address. -/
def nameToken (s : List Char) : Kind × List Char :=
  match name s with
  | (word, '(' :: r) =>
    if Text.sameLetters word "url" && !quoteFollows r then
      match urlFrom (r.length + 1) (r.dropWhile isBlank) with
      | (some link, rest) => (.url (String.ofList link), rest)
      | (none, rest) => (.bad, rest)
    else (.call word, r)
  | (word, r) => (.ident word, r)

/-- The value of decimal digits. -/
def decimal (digits : List Char) : Nat :=
  digits.foldl (fun n d => n * 10 + (d.toNat - '0'.toNat)) 0

/-- The digits after a point, if there are any. -/
def fraction : List Char → List Char × List Char
  | '.' :: r =>
    match r.takeWhile Char.isDigit with
    | [] => ([], '.' :: r)
    | digits => (digits, r.dropWhile Char.isDigit)
  | s => ([], s)

/-- The exponent of a number, if one is written. Exponents are not told apart beyond the range
of the numbers. -/
def exponent (s : List Char) : Option Int × List Char :=
  let read (sign : Int) (r : List Char) : Option Int × List Char :=
    match r.takeWhile Char.isDigit with
    | [] => (none, s)
    | digits => (some (sign * min (decimal digits) 400), r.dropWhile Char.isDigit)
  match s with
  | e :: r =>
    if e = 'e' ∨ e = 'E' then
      match r with
      | '-' :: r => read (-1) r
      | '+' :: r => read 1 r
      | r => read 1 r
    else (none, s)
  | [] => (none, [])

/-- Whole numbers are bounded to 32 binary digits with a sign. -/
def bounded (n : Int) : Int := max (-2147483648) (min 2147483647 n)

/-- A number after its sign, and what follows it. -/
def numberToken (negative signed : Bool) (s : List Char) : Kind × List Char :=
  let whole := s.takeWhile Char.isDigit
  let (part, r) := fraction (s.dropWhile Char.isDigit)
  let (power, r) := exponent r
  let digits := decimal (whole ++ part)
  let whole? : Option Int :=
    if part = [] ∧ power.isNone then some (bounded (if negative then -(digits : Int) else digits))
    else none
  let value (down : Int) : Numeric :=
    ⟨.ofDigits negative digits part.length (power.getD 0 - down), whole?, signed⟩
  match r with
  | '%' :: r => (.percentage (value 2), r)
  | _ =>
    if startsName r then
      let (unit, rest) := name r
      (.dimension (value 0) unit, rest)
    else (.number (value 0), r)

/-- Whether a text starts with an unsigned number. -/
def startsNumber : List Char → Bool
  | '.' :: d :: _ => d.isDigit
  | d :: _ => d.isDigit
  | [] => false

/-- The content of a comment and what follows; the end of the text closes it. -/
def commentFrom : List Char → List Char × List Char
  | [] => ([], [])
  | '*' :: '/' :: r => ([], r)
  | c :: r =>
    let (content, rest) := commentFrom r
    (c :: content, rest)

/-- A string with its opening quote taken off. -/
def stringToken (quote : Char) (r : List Char) : Kind × List Char :=
  match stringFrom quote (r.length + 1) r with
  | (some content, rest) => (.quoted (String.ofList content), rest)
  | (none, rest) => (.bad, rest)

/-- The kind of the first token of a text that is not empty, and what follows it. -/
def first : List Char → Kind × List Char
  | [] => (.blank, [])
  | c :: r =>
    if isBlank c then (.blank, r.dropWhile isBlank)
    else if c.isDigit then numberToken false false (c :: r)
    else
      match c with
      | '"' => stringToken '"' r
      | '\'' => stringToken '\'' r
      | '#' =>
        if startsName r then
          let (word, rest) := name r
          (.hash word true, rest)
        else if (r.head?.map fun d => d.isDigit || d == '-').getD false then
          let (word, rest) := name r
          (.hash word false, rest)
        else (.delim c, r)
      | '@' =>
        if startsName r then
          let (word, rest) := name r
          (.atWord word, rest)
        else (.delim c, r)
      | '+' => if startsNumber r then numberToken false true r else (.delim c, r)
      | '.' => if startsNumber (c :: r) then numberToken false false (c :: r) else (.delim c, r)
      | '-' =>
        if startsNumber r then numberToken true true r
        else
          match r with
          | '-' :: '>' :: rest => (.markupComment, rest)
          | _ => if startsName (c :: r) then nameToken (c :: r) else (.delim c, r)
      | '/' =>
        match r with
        | '*' :: r =>
          let (content, rest) := commentFrom r
          (.comment (String.ofList content), rest)
        | _ => (.delim c, r)
      | '<' =>
        match r with
        | '!' :: '-' :: '-' :: rest => (.markupComment, rest)
        | _ => (.delim c, r)
      | '\\' => if escapes r then nameToken (c :: r) else (.delim c, r)
      | ':' => (.colon, r)
      | ';' => (.semicolon, r)
      | ',' => (.comma, r)
      | '(' | '[' | '{' => (.opening c, r)
      | ')' | ']' | '}' => (.closing c, r)
      | _ =>
        if ['~', '|', '^', '$', '*'].contains c && r.head? == some '=' then (.test c, r.drop 1)
        else if isNameStart c then nameToken (c :: r)
        else (.delim c, r)

/-- The tokens of a text. The bound is the length of the text. -/
def listFrom : Nat → List Char → List Token
  | 0, _ => []
  | _, [] => []
  | n + 1, s =>
    let (kind, rest) := first s
    ⟨kind, s.take (s.length - rest.length)⟩ :: listFrom n rest

/-- The tokens of a text. -/
def list (s : List Char) : List Token := listFrom s.length s

end Token

end Pagefold.Css

/-!
## Names, strings and addresses as they are written

Each is written in its shortest form: names with the escapes that they need, strings in double
quotes, and addresses without quotes unless the quoted form is shorter.
-/
namespace Pagefold.Css.Literal

/-- The digits of a character's code in base sixteen. -/
def hexCode (c : Char) : List Char := Nat.toDigits 16 c.toNat

/-- An escape by the code of a character. -/
def codeEscape (c : Char) : List Char := '\\' :: hexCode c ++ [' ']

/-- A control character, which is escaped by its code. -/
def isControl (c : Char) : Bool := c.toNat < 0x20 || c == '\x7f'

/-- A character inside a name. -/
def nameChar (c : Char) : List Char :=
  if c.isAlphanum || c == '_' || c == '-' || 0x80 ≤ c.toNat then [c]
  else if c = '\x00' then ['\ufffd']
  else if isControl c then codeEscape c
  else ['\\', c]

/-- The characters of a name whose first character is not special. -/
def nameRest (s : List Char) : List Char := s.flatMap nameChar

/-- The first character of a name, where digits are escaped. -/
def nameStart : List Char → List Char
  | [] => []
  | c :: r => (if c.isDigit then codeEscape c else nameChar c) ++ nameRest r

/-- A name. -/
def nameChars : List Char → List Char
  | '-' :: '-' :: r => '-' :: '-' :: nameRest r
  | ['-'] => ['\\', '-']
  | '-' :: r => '-' :: nameStart r
  | s => nameStart s

/-- A name. -/
def name (s : String) : String := String.ofList (nameChars s.toList)

/-- A character inside a string. -/
def stringChar (c : Char) : List Char :=
  if c = '"' ∨ c = '\\' then ['\\', c]
  else if c = '\x00' then ['\ufffd']
  else if isControl c then codeEscape c
  else [c]

/-- A string. -/
def quoted (s : String) : String :=
  String.ofList ('"' :: s.toList.flatMap stringChar ++ ['"'])

/-- A character inside an address without quotes. -/
def urlChar (c : Char) : List Char :=
  if c.toNat ≤ 0x20 || c == '\x7f' then codeEscape c
  else if ['(', ')', '"', '\'', '\\'].contains c then ['\\', c]
  else [c]

/-- An address. It is quoted only if that makes it shorter. -/
def url (link : String) : String :=
  let bare := "url(" ++ String.ofList (link.toList.flatMap urlChar) ++ ")"
  let inQuotes := "url(" ++ quoted link ++ ")"
  if link.utf8ByteSize + 7 < bare.utf8ByteSize ∧ inQuotes.utf8ByteSize < bare.utf8ByteSize then
    inQuotes
  else bare

end Pagefold.Css.Literal
