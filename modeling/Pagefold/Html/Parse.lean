import Pagefold.Html.Modes

/-!
# Reading a document

Every text is a document: markup that breaks the rules is repaired in the way of the HTML
standard.
-/
namespace Pagefold.Html

/-- The text with line ends of every kind as line feeds. -/
def normalizeLines : List Char → List Char
  | '\r' :: '\n' :: r => '\n' :: normalizeLines r
  | '\r' :: r => '\n' :: normalizeLines r
  | c :: r => c :: normalizeLines r
  | [] => []

/-- The text without a byte order mark at its start. -/
def dropMark (s : List Char) : List Char := if s.head? = some '\ufeff' then s.drop 1 else s

/-- The state after a text. Each round takes at least one character. The end of a script
starts the reading anew, so a byte order mark after it is no part of the document. -/
def Builder.read : Nat → Builder → List Char → Builder
  | 0, b, _ => b
  | _ + 1, b, [] => b.take .eof
  | fuel + 1, b, s =>
    let inForeign := !b.opened.isEmpty && (b.nameOf b.current).1 != .html
    let (tokens, rest) := Lexer.next b.reading inForeign s
    let after := tokens.foldl Builder.feed b
    let endsScript := b.reading = .script ∧ after.reading ≠ .script
    Builder.read fuel after (if endsScript then dropMark rest else rest)

/-- The document that a text describes. A byte order mark at the start is no part of it. -/
def parse (source : String) : Node :=
  let s := normalizeLines (dropMark source.toList)
  (Builder.read (s.length + 1) {} s).sketch.toDocument

end Pagefold.Html
