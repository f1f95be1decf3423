import Pagefold.Css.Reading

/-!
# Conditions

Conditions on the medium, on the boxes around an element and on what is supported are built from
members by negation and by the words `and` and `or`, which are not mixed without parentheses.
A condition is written with the parentheses that it needs and no others.
-/
namespace Pagefold.Css

/-- The words that join conditions. -/
inductive Junction where
  | both
  | either
  deriving DecidableEq, Repr

/-- A condition with members of some kind. -/
inductive Condition (α : Type) where
  | member (a : α)
  | negation (inner : Condition α)
  | joined (word : Junction) (all : List (Condition α))
  deriving Repr

/-- How a word that joins conditions is written. -/
def Junction.text : Junction → String
  | both => "and"
  | either => "or"

/-- A word that joins conditions. -/
def Junction.read : Reading Junction := do
  if (← Reading.wordOf ["and", "or"]) = "and" then pure both else pure either

namespace Condition

variable {α : Type}

/-- A text in parentheses. -/
def inParentheses (written : String) : String := "(" ++ written ++ ")"

/-- How conditions with members of some kind are written. -/
structure Writing (α : Type) where
  /-- A member that stands alone. -/
  alone : α → String
  /-- A member inside of another condition. -/
  inside : α → String := alone
  /-- The member that says what the negation of another one says, if there is one. Where there may
  be, two negations are none. -/
  opposite? : Option (α → Option α) := none

/-- How a condition with the given text is written inside another one. `around` is the word
that joins it with others. -/
def group (w : Writing α) (around : Option Junction) (c : Condition α) (written : String) :
    String :=
  match c with
  | member a => w.inside a
  | negation _ => inParentheses written
  | joined word _ => if some word = around then written else inParentheses written

mutual

/-- How a condition is written. -/
def text (w : Writing α) : Condition α → String
  | member a => w.alone a
  | negation (member a) =>
    match w.opposite?.bind (· a) with
    | some b => w.alone b
    | none => "not " ++ w.inside a
  | negation (negation c) =>
    if w.opposite?.isSome then text w c else "not " ++ inParentheses (text w (negation c))
  | negation c => "not " ++ group w none c (text w c)
  | joined word all => (" " ++ word.text ++ " ").intercalate (textsInside w word all)

/-- How conditions that a word joins are written. -/
def textsInside (w : Writing α) (word : Junction) : List (Condition α) → List String
  | [] => []
  | c :: rest => group w (some word) c (text w c) :: textsInside w word rest

end

/-- Whether a condition is a list joined by `or`. -/
def isEither : Condition α → Bool
  | joined .either _ => true
  | _ => false

/-- How the members of conditions are read: from all of some parentheses, or from the arguments
of a call, by the name of the call in small letters. -/
structure Grammar (α : Type) where
  feature : Reading α
  call? : String → Option (Reading α) := fun _ => none

mutual

/-- A condition. `mayChoose` tells that `or` is allowed. The first argument bounds the depth. -/
def read (g : Grammar α) : Nat → Bool → Reading (Condition α)
  | 0, _ => Reading.refuse
  | n + 1, mayChoose => do
    let p ← Reading.next
    if p.ident?.any (Text.sameLetters · "not") then
      return negation (← ofPart g n (← Reading.next))
    else
      let first ← ofPart g n p
      match ← Reading.attempt Junction.read with
      | none => pure first
      | some word =>
        if word = .either ∧ !mayChoose then Reading.refuse
        else return joined word (first :: (← readMore g word (← get).length n))

/-- The conditions after a word, each further one after the same word. -/
def readMore (g : Grammar α) (word : Junction) : Nat → Nat → Reading (List (Condition α))
  | bound, n => do
    let c ← ofPart g n (← Reading.next)
    match bound, ← Reading.attempt (Reading.word word.text) with
    | bound + 1, some () => return c :: (← readMore g word bound n)
    | _, _ => pure [c]

/-- A condition in parentheses or as a call. -/
def ofPart (g : Grammar α) : Nat → Part → Reading (Condition α)
  | 0, _ => Reading.refuse
  | n + 1, p =>
    match p.content? '(', p.call? with
    | some content, _ => Reading.within content do
      if ← Reading.atEnd then Reading.refuse
      match ← Reading.attempt (read g n true) with
      | some c => pure c
      | none => return member (← g.feature)
    | none, some (name, content) => do
      return member (← Reading.within content (← Reading.orRefuse (g.call? (Text.lower name))))
    | none, none => Reading.refuse

end

/-- All of some parentheses: a condition, or else a single member. -/
def readInside (g : Grammar α) : Reading (Condition α) := do
  match ← Reading.attempt (read g (2 * Part.sizeOfAll (← get) + 2) true) with
  | some c => pure c
  | none => return member (← g.feature)

end Condition

end Pagefold.Css
