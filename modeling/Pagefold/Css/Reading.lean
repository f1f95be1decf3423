import Pagefold.Css.Part

/-!
# Reading parts

A reading takes parts from the front of a list, or fails and says whether the list was too
short or something else was wrong with it. Blanks and comments in front of a part are passed
over unless a reading says otherwise. A reading of a whole list has to take all of it.
-/
namespace Pagefold.Css

/-- Why a list of parts cannot be read. -/
inductive Fault where
  /-- A part is missing at the end. -/
  | ended
  /-- A condition is no condition on a medium, whatever else it may be. -/
  | unfit
  | refused
  deriving DecidableEq, Repr

/-- A reading of parts. -/
abbrev Reading := StateT (List Part) (Except Fault)

namespace Reading

variable {α : Type}

/-- The reading fails. -/
def refuse : Reading α := throw .refused

/-- The value, or a failure if there is none. -/
def orRefuse (value : Option α) : Reading α :=
  match value with
  | some a => pure a
  | none => refuse

/-- The reading, or nothing with all parts left in place where it fails. -/
def attempt (r : Reading α) : Reading (Option α) := fun parts =>
  match r.run parts with
  | .ok (a, rest) => .ok (some a, rest)
  | .error _ => .ok (none, parts)

/-- Blanks and comments at the front are passed over. -/
def skipSpace : Reading Unit := modify Part.skipSpace

/-- The next part, which may be a blank; comments are passed over. -/
def nextHere : Reading Part := do
  match (← get).dropWhile Part.isComment with
  | [] => throw .ended
  | p :: rest =>
    set rest
    pure p

/-- The next part. -/
def next : Reading Part := do
  skipSpace
  nextHere

/-- Whether no part is left. -/
def atEnd : Reading Bool := return (Part.skipSpace (← get)).isEmpty

/-- No part may be left. -/
def finish : Reading Unit := do
  if !(← atEnd) then refuse

/-- The reading applied to all of a list. -/
def whole (r : Reading α) (parts : List Part) : Except Fault α :=
  (do
    let a ← r
    finish
    pure a : Reading α).run' parts

/-- The reading applied to all of a list, inside another reading. -/
def within (parts : List Part) (r : Reading α) : Reading α := fun rest =>
  (r.whole parts).map fun a => (a, rest)

/-- All parts that are left. -/
def takeAll : Reading (List Part) := do
  let parts ← get
  set ([] : List Part)
  pure parts

/-- The reading applied to each list between the commas that are left. -/
def commaSeparated (r : Reading α) : Reading (List α) := do
  (Part.commaLists (← takeAll)).mapM fun item => within item r

/-- The next part is this token. -/
def token (kind : Kind) : Reading Unit := do
  if !(← next).is kind then refuse

/-- The next part is this delimiter. -/
def delim (c : Char) : Reading Unit := token (.delim c)

/-- A name. -/
def ident : Reading String := do orRefuse (← next).ident?

/-- The name `word`, in any case of its letters. -/
def word (word : String) : Reading Unit := do
  if !Text.sameLetters (← ident) word then refuse

/-- A name out of a list, in small letters. -/
def wordOf (words : List String) : Reading String := do
  let small := Text.lower (← ident)
  if words.contains small then pure small else refuse

/-- A string. -/
def quoted : Reading String := do orRefuse (← next).quoted?

/-- A name or a string. -/
def identOrQuoted : Reading String := do
  let p ← next
  orRefuse (p.ident? <|> p.quoted?)

/-- A call: its name and its arguments. -/
def call : Reading (String × List Part) := do orRefuse (← next).call?

/-- A name out of a list of pairs, in any case of its letters, and what belongs to it. -/
def wordIn (words : List (String × α)) : Reading α := do
  orRefuse (words.lookup (Text.lower (← ident)))

/-- The arguments of a call of `name`, in any case of its letters. -/
def callOf (name : String) : Reading (List Part) := do
  let (called, content) ← call
  if Text.sameLetters called name then pure content else refuse

/-- The content of a block in parentheses. -/
def parentheses : Reading (List Part) := do orRefuse ((← next).content? '(')

/-- A whole number. -/
def integer : Reading Int := do orRefuse ((← next).number?.bind (·.whole?))

/-- A number that is written as one. -/
def plainNumber : Reading Number.Single := do orRefuse ((← next).number?.map (·.value))

/-- A percentage that is written as one, as the fraction that it stands for. -/
def plainPercentage : Reading Number.Single := do orRefuse ((← next).percentage?.map (·.value))

/-- The address of a file. -/
def link : Reading String := do
  let p ← next
  match p.url?, p.call? with
  | some link, _ => pure link
  | none, some (name, content) =>
    if Text.sameLetters name "url" then within content quoted else refuse
  | none, none => refuse

/-- The address of a file, which may be a string. -/
def linkOrQuoted : Reading String := do
  match ← attempt quoted with
  | some link => pure link
  | none => link

/-- As many readings as succeed one after the other. The bound is on their number. -/
def many (r : Reading α) : Nat → Reading (List α)
  | 0 => pure []
  | n + 1 => do
    match ← attempt r with
    | none => pure []
    | some a => return a :: (← many r n)

/-- The first of some readings that succeeds. -/
def firstOf : List (Reading α) → Reading α
  | [] => refuse
  | r :: rest => do
    match ← attempt r with
    | some a => pure a
    | none => firstOf rest

/-- The next slot that is vacant and whose reading succeeds is filled. -/
def fillOne : List (Reading α × Option α) → Reading (List (Reading α × Option α))
  | [] => refuse
  | (r, some a) :: rest => return (r, some a) :: (← fillOne rest)
  | (r, none) :: rest => do
    match ← attempt r with
    | some a => pure ((r, some a) :: rest)
    | none => return (r, none) :: (← fillOne rest)

/-- Slots that are filled one after the other as long as one can be. The bound is on their
number. -/
def fillSlots : Nat → List (Reading α × Option α) → Reading (List (Reading α × Option α))
  | 0, slots => pure slots
  | n + 1, slots => do
    match ← attempt (fillOne slots) with
    | some slots => fillSlots n slots
    | none => pure slots

/-- Some readings in any order, each at most once; an earlier one goes first where more than one
succeeds. -/
def anyOrder (rs : List (Reading α)) : Reading (List (Option α)) := do
  return (← fillSlots rs.length (rs.map fun r => (r, none))).map (·.2)

/-- Some readings in any order, of which one has to succeed. -/
def someOf (rs : List (Reading α)) : Reading (List (Option α)) := do
  let found ← anyOrder rs
  if found.all Option.isNone then refuse else pure found

end Reading

end Pagefold.Css
