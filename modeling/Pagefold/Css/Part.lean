import Pagefold.Css.Token

/-!
# Brackets of a stylesheet

Tokens grouped by their brackets. A block reaches from its opening bracket to the closing one
of the same shape, or to the end of the text; a closing bracket of another shape is a token
of its own.
-/
namespace Pagefold.Css

/-- A token that is no opening bracket, or a block with its opening and closing tokens. -/
inductive Part where
  | token (t : Token)
  | block (opening : Token) (content : List Part) (closing : List Char)
  deriving Repr

namespace Part

/-- The bracket that closes a block opened by a token of this kind. -/
def closer? : Kind → Option Char
  | .call _ => some ')'
  | .opening '(' => some ')'
  | .opening '[' => some ']'
  | .opening _ => some '}'
  | _ => none

/-- Blocks that are open, innermost first, each with the parts before the next block in
reverse order. -/
structure Nesting where
  opened : List (Token × List Part) := []
  outside : List Part := []

namespace Nesting

/-- A part comes at the end of the innermost block. -/
def add (n : Nesting) (p : Part) : Nesting :=
  match n.opened with
  | [] => { n with outside := p :: n.outside }
  | (t, content) :: rest => { n with opened := (t, p :: content) :: rest }

/-- The innermost block is closed by the given text. -/
def close (n : Nesting) (closing : List Char) : Nesting :=
  match n.opened with
  | [] => n
  | (t, content) :: rest => add { n with opened := rest } (.block t content.reverse closing)

/-- One more token. -/
def step (n : Nesting) (t : Token) : Nesting :=
  if (closer? t.kind).isSome then { n with opened := (t, []) :: n.opened }
  else
    match t.kind, n.opened with
    | .closing c, (o, _) :: _ =>
      if closer? o.kind = some c then n.close t.text else n.add (.token t)
    | _, _ => n.add (.token t)

/-- The parts when the text ends, which closes all blocks. -/
def finish (n : Nesting) : List Part :=
  ((List.replicate n.opened.length ()).foldl (fun n _ => n.close []) n).outside.reverse

end Nesting

/-- The tokens of a text, grouped. -/
def ofTokens (tokens : List Token) : List Part := (tokens.foldl Nesting.step {}).finish

/-- The parts of a text. -/
def list (s : List Char) : List Part := ofTokens (Token.list s)

mutual

/-- The text of a part. -/
def text : Part → List Char
  | .token t => t.text
  | .block o content closing => o.text ++ textOf content ++ closing

/-- The text of a list of parts. -/
def textOf : List Part → List Char
  | [] => []
  | p :: rest => p.text ++ textOf rest

end

mutual

/-- The number of tokens in a part. -/
def size : Part → Nat
  | .token _ => 1
  | .block _ content _ => 2 + sizeOfAll content

/-- The number of tokens in a list of parts. -/
def sizeOfAll : List Part → Nat
  | [] => 0
  | p :: rest => p.size + sizeOfAll rest

end

/-- Blanks and comments. -/
def isSpace : Part → Bool
  | .token t =>
    match t.kind with
    | .blank => true
    | .comment _ => true
    | _ => false
  | .block .. => false

/-- Comments. -/
def isComment : Part → Bool
  | .token t =>
    match t.kind with
    | .comment _ => true
    | _ => false
  | .block .. => false

/-- Whether the part is the one token of a kind. -/
def is (kind : Kind) : Part → Bool
  | .token t => t.kind == kind
  | .block .. => false

/-- Whether the part is a block that the bracket opens. -/
def opensWith (c : Char) : Part → Bool
  | .token _ => false
  | .block o _ _ => o.kind == .opening c

/-- The name of a part that is a name. -/
def ident? : Part → Option String
  | .token t =>
    match t.kind with
    | .ident name => some name
    | _ => none
  | .block .. => none

/-- The name of a part that is a name with an at sign in front. -/
def atWord? : Part → Option String
  | .token t =>
    match t.kind with
    | .atWord name => some name
    | _ => none
  | .block .. => none

/-- The content of a part that is a string. -/
def quoted? : Part → Option String
  | .token t =>
    match t.kind with
    | .quoted content => some content
    | _ => none
  | .block .. => none

/-- The address in a part that is an address without quotes. -/
def url? : Part → Option String
  | .token t =>
    match t.kind with
    | .url link => some link
    | _ => none
  | .block .. => none

/-- The number that a part is. -/
def number? : Part → Option Numeric
  | .token t =>
    match t.kind with
    | .number n => some n
    | _ => none
  | .block .. => none

/-- The percentage that a part is. -/
def percentage? : Part → Option Numeric
  | .token t =>
    match t.kind with
    | .percentage n => some n
    | _ => none
  | .block .. => none

/-- The name and the arguments of a part that is a call. -/
def call? : Part → Option (String × List Part)
  | .token _ => none
  | .block o content _ =>
    match o.kind with
    | .call name => some (name, content)
    | _ => none

/-- The content of a block that the bracket opens. -/
def content? (c : Char) : Part → Option (List Part)
  | .token _ => none
  | .block o content _ => if o.kind = .opening c then some content else none

/-- The parts without the blanks and comments at their start. -/
def skipSpace (parts : List Part) : List Part := parts.dropWhile isSpace

/-- The parts without the blanks and comments at both ends. -/
def trim (parts : List Part) : List Part :=
  ((parts.dropWhile isSpace).reverse.dropWhile isSpace).reverse

/-- The parts before the first one that `stop` accepts, and those from it on. -/
def before (stop : Part → Bool) (parts : List Part) : List Part × List Part :=
  (parts.takeWhile (!stop ·), parts.dropWhile (!stop ·))

/-- The lists of parts between commas. -/
def commaLists : List Part → List (List Part)
  | [] => [[]]
  | p :: rest =>
    if p.is .comma then [] :: commaLists rest
    else
      match commaLists rest with
      | [] => [[p]]
      | l :: ls => (p :: l) :: ls

mutual

/-- Whether a part holds a token that is an error wherever it stands. -/
def isBroken : Part → Bool
  | .token t =>
    match t.kind with
    | .bad => true
    | .closing _ => true
    | _ => false
  | .block _ content _ => anyBroken content

/-- Whether one of the parts holds a token that is an error wherever it stands. -/
def anyBroken : List Part → Bool
  | [] => false
  | p :: rest => p.isBroken || anyBroken rest

end

end Part

end Pagefold.Css
