import Pagefold.Css.Condition
import Pagefold.Css.Declaration.Property
import Pagefold.Css.Token

/-!
# Conditions on what is supported

A condition asks whether a declaration or a selector is understood, or something that cannot
be told, which is kept as it is. Values are kept as they are written. A declaration that is asked
for more than once in a list is asked for once.
-/
namespace Pagefold.Css

/-- Something that may be supported. -/
inductive Support where
  /-- A property by its marks and the rest of its name, with a value as it is written. -/
  | declared (marks : List String) (name : String) (value : String)
  | other (written : String)
  deriving DecidableEq, Repr

namespace Support

/-- How something is written. A property with marks stands in parentheses of its own, in which
each marked form is a choice. -/
def text : Support → String
  | declared marks name value =>
    let one (mark : String) : String := mark ++ String.ofList (Literal.nameRest name.toList) ++ ":" ++ value
    let all := ") or (".intercalate (marks.map one)
    if marks = [""] then "(" ++ all ++ ")" else "((" ++ all ++ "))"
  | other written => written

/-- A condition as it is written. -/
def textOf (c : Condition Support) : String := c.text { alone := text }

/-- All parts that are left, as they are written, if no error is among them. -/
def readVerbatim : Reading String := do
  let parts ← Reading.takeAll
  if Part.anyBroken parts then Reading.refuse else pure (String.ofList (Part.textOf parts))

/-- A declaration. -/
def readDeclaration : Reading Support := do
  let name ← Reading.ident
  Reading.token .colon
  Reading.skipSpace
  let value ← readVerbatim
  match Property.known? name with
  | some (mark, rest) => pure (declared [mark] rest value)
  | none => pure (declared [""] name value)

/-- What comes first, and what joins further conditions to it: a declaration that differs from
an earlier one in its marks alone is merged with it. -/
def add (all : List (Condition Support)) (c : Condition Support) : List (Condition Support) :=
  match c with
  | .member (declared marks name value) =>
    let isSame : Condition Support → Bool
      | .member (declared _ name' value') => name' = name && value' = value
      | _ => false
    if all.any isSame then
      all.map fun d =>
        match d with
        | .member (declared others name' value') =>
          if name' = name ∧ value' = value then
            .member (declared (others ++ marks.filter (!others.contains ·)) name value)
          else d
        | d => d
    else all ++ [c]
  | c => all ++ [c]

/-- The condition that a word makes of some conditions; a single one needs no word. -/
def join (word : Junction) (all : List (Condition Support)) : Condition Support :=
  match all with
  | [c] => c
  | all => .joined word all

mutual

/-- A condition. The argument bounds the depth. -/
def read : Nat → Reading (Condition Support)
  | 0 => Reading.refuse
  | n + 1 => do
    match ← Reading.attempt (Reading.word "not") with
    | some () => return .negation (← readMember n)
    | none =>
      let first ← readMember n
      match ← Reading.attempt (readNext n none) with
      | none => pure first
      | some (word, second) =>
        let rest ← readMore word (← get).length n
        pure (join word ((second :: rest).foldl add [first]))

/-- A word, which has to be the given one, and the condition after it. -/
def readNext : Nat → Option Junction → Reading (Junction × Condition Support)
  | n, expected => do
    let word ← Junction.read
    if expected.any (· ≠ word) then Reading.refuse
    else return (word, ← readMember n)

/-- Further conditions after the same word. The first bound is on their number. -/
def readMore (word : Junction) : Nat → Nat → Reading (List (Condition Support))
  | 0, _ => pure []
  | bound + 1, n => do
    match ← Reading.attempt (readNext n (some word)) with
    | some (_, c) => return c :: (← readMore word bound n)
    | none => pure []

/-- A condition in parentheses, a declaration, or a call. What is none of them stays as it
is written. -/
def readMember : Nat → Reading (Condition Support)
  | 0 => Reading.refuse
  | n + 1 => do
    let p ← Reading.next
    if Part.anyBroken [p] then Reading.refuse
    else
      let asIs : Condition Support := .member (other (String.ofList p.text))
      match p.content? '(', p.call? with
      | some content, _ =>
        let inner : Reading (Condition Support) := Reading.within content do
          match ← Reading.attempt (read n) with
          | some c => pure c
          | none => return .member (← readDeclaration)
        return (← Reading.attempt inner).getD asIs
      | none, some (name, content) =>
        if Text.sameLetters name "selector" then
          pure (.member (other ("selector(" ++ String.ofList (Part.textOf content) ++ ")")))
        else pure asIs
      | none, none => Reading.refuse

end

/-- A condition of any depth. -/
def readAny : Reading (Condition Support) := do read (2 * Part.sizeOfAll (← get) + 2)

end Support

end Pagefold.Css
