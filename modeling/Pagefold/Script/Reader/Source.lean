import Pagefold.Script.Lexeme
import Pagefold.Script.Tree

/-!
# A place in a script

A reader looks at the next token of a script, takes it, and fails where the script cannot go on.
What follows from where it stands, such as whether a result may be returned, is told to it.
-/
namespace Pagefold.Script

/-- Where a reader is: the next token, whether a line ends in front of it, the text from the
token on, and the text after it. -/
structure Source where
  lexeme : Lexeme
  line : Bool
  here : List Char
  rest : List Char
  /-- More than the length of the script. -/
  bound : Nat

/-- A reader takes tokens and gives what it has read. -/
abbrev Reader := StateT Source Option

/-- What is allowed where something is read. -/
structure Setting where
  /-- Whether the word `in` is an operator. -/
  membership : Bool := true
  /-- Whether a function around gives values one by one. -/
  generates : Bool := false
  /-- Whether a function around can wait. -/
  deferred : Bool := false
  /-- Whether there is a function around. -/
  returns : Bool := false

namespace Source

/-- The place at the start of a text. -/
def at? (bound : Nat) (line : Bool) (s : List Char) : Option Source := do
  let (line, here) ← Lexeme.skip? bound line s
  let (lexeme, rest) ← Lexeme.read? bound here
  pure ⟨lexeme, line, here, rest, bound⟩

/-- The place after the next token. -/
def next? (s : Source) : Option Source := at? s.bound false s.rest

end Source

namespace Reader

/-- Takes the next token. -/
def advance : Reader Unit := fun s => s.next?.map ((), ·)

/-- The next token. -/
def peek : Reader Lexeme := fun s => some (s.lexeme, s)

/-- Whether a line ends in front of the next token. -/
def atLine : Reader Bool := fun s => some (s.line, s)

/-- The token after the next one, and whether a line ends in front of it. Where there is none,
the end of the script is given. -/
def peekSecond : Reader (Lexeme × Bool) := fun s =>
  match s.next? with
  | some t => some ((t.lexeme, t.line), s)
  | none => some ((.finish, false), s)

/-- Whether the next token is a mark. -/
def isMark (text : String) : Reader Bool := do pure ((← peek) == .mark text)

/-- Whether the next token is a word. -/
def isWord (text : String) : Reader Bool := do pure ((← peek) == .name text true)

/-- Takes a mark, and says whether it was there. -/
def mark (text : String) : Reader Bool := do
  if ← isMark text then
    advance
    pure true
  else pure false

/-- Takes a mark that has to be there. -/
def need (text : String) : Reader Unit := do
  if ← mark text then pure () else failure

/-- Takes a word, and says whether it was there. -/
def word (text : String) : Reader Bool := do
  if ← isWord text then
    advance
    pure true
  else pure false

/-- Takes a word that has to be there. -/
def needWord (text : String) : Reader Unit := do
  if ← word text then pure () else failure

/-- Takes the end of a statement: a semicolon, or nothing where a line or a block ends. -/
def finishStatement : Reader Unit := do
  if ← mark ";" then pure ()
  else if ← isMark "\x7d" then pure ()
  else if (← peek) == .finish then pure ()
  else if ← atLine then pure ()
  else failure

/-- Whether a word can be the name of a variable. -/
def canName (s : Setting) (text : String) : Bool :=
  !reserved.contains text && !(s.generates && text == "yield") && !(s.deferred && text == "await")

/-- The name of a variable. -/
def variableName (s : Setting) : Reader Name := do
  match ← peek with
  | .name text _ =>
    if !canName s text then failure
    advance
    pure { text }
  | _ => failure

/-- The name of a label, if the next token on the same line is one. -/
def label? : Reader (Option String) := do
  match ← peek with
  | .name text _ =>
    if (← atLine) || reserved.contains text then pure none
    else
      advance
      pure (some text)
  | _ => pure none

/-- Repeats a step until it gives a result, but at most so many times. -/
def iterate {σ α : Type} (step : σ → Reader (Sum σ α)) : Nat → σ → Reader α
  | 0, _ => failure
  | n + 1, state => do
    match ← step state with
    | .inl state => iterate step n state
    | .inr x => pure x

/-- Repeats a step until it gives a result. -/
def run {σ α : Type} (step : σ → Reader (Sum σ α)) (state : σ) : Reader α := fun s =>
  iterate step s.bound state s

/-- The items up to a closing mark, each read by `item`. -/
def listUntil {α : Type} (close : String) (item : Reader α) : Reader (List α) := do
  let found ← run (fun (found : List α) => do
    if ← mark close then pure (.inr found)
    else
      let x ← item
      if ← mark close then pure (.inr (x :: found))
      else
        need ","
        pure (.inl (x :: found))) []
  pure found.reverse

/-- Everything up to a closing brace, which is taken, or up to the end of the script. -/
def blockUntil {α : Type} (inBraces : Bool) (item : Reader α) : Reader (List α) := do
  let found ← run (fun (found : List α) => do
    if (← peek) == .finish then if inBraces then failure else pure (.inr found)
    else if inBraces && (← mark "\x7d") then pure (.inr found)
    else
      let x ← item
      pure (.inl (x :: found))) []
  pure found.reverse

/-- Takes the regular expression that starts with the next token. -/
def regular : Reader Tree := fun s => do
  let (source, flags, rest) ← Lexeme.regular? (s.here.drop 1)
  let t ← Source.at? s.bound false rest
  pure (.node (.regular source flags) [], t)

/-- Takes the closing brace and the text between grave accents after it. The next token is then
that text. -/
def continuePiece : Reader Unit := fun s => do
  if s.lexeme ≠ .mark "\x7d" then failure
  let (lexeme, rest) ← Lexeme.piece? (s.here.drop 1)
  pure ((), { s with lexeme, rest })

end Reader

end Pagefold.Script
