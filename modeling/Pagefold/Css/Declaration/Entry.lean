import Pagefold.Css.Declaration.Property
import Pagefold.Css.Declaration.Reader
import Pagefold.Css.Declaration.Transition

/-!
# Runs of declarations

What declarations of one block say together. An entry gives a property its values, under all the
marks that the property is written with. Writing entries goes in steps: a step takes entries and
gives one declaration for them, and what is taken is not written again.
-/
namespace Pagefold.Css

/-- A declaration by the name of its property without a mark, with all marks that it is written
with. -/
structure Marked where
  marks : List String
  name : String
  content : Content

/-- What is said about one property. A value that the property does not know is open. -/
structure Entry where
  property : String
  marks : List String
  values : List Value
  isOpen : Bool := false

namespace Marked

/-- The marks in the order of writing. -/
def order : List String := ["-webkit-", "-moz-", "-ms-", "-o-", ""]

/-- A declaration with its mark apart. -/
def ofDeclaration (d : Declaration) : Marked :=
  match Property.known? d.property with
  | some (mark, name) => ⟨[mark], name, d.content⟩
  | none => ⟨[""], d.property, d.content⟩

/-- The declarations for all marks. -/
def declarations (m : Marked) : List Declaration :=
  (order.filter m.marks.contains).map fun mark => ⟨mark ++ m.name, m.content⟩

/-- Whether nothing is known about the value. -/
def isOpen (m : Marked) : Bool :=
  match m.content with
  | .free _ => true
  | _ => false

/-- What a declaration says. -/
def entries (m : Marked) : List Entry :=
  let all (said : List Said) : List Entry := said.map fun s => ⟨s.property, m.marks, s.values, false⟩
  match m.content with
  | .free value => [⟨m.name, m.marks, [value], true⟩]
  | .known value [] => [⟨m.name, m.marks, [value], false⟩]
  | .known _ said => all said
  | .animations list => all (Animation.columns list)
  | .animationNames names => [⟨m.name, m.marks, names.map fun name => .word name.text, false⟩]

/-- A declaration of a shorthand that says the given values about its parts. -/
def ofParts (marks : List String) (name : String) (value : Value) (parts : List String)
    (said : List (List Value)) : Marked :=
  ⟨marks, name, .known value ((parts.zip said).map fun (property, values) => ⟨property, values⟩)⟩

end Marked

/-- What is said about several properties, each at most once. -/
abbrev Entries := List Entry

namespace Entries

/-- What is said about a property. -/
def get? (es : Entries) (property : String) : Option Entry := es.find? (·.property = property)

/-- An entry in the place of one about its property, or at the end. -/
def set (es : Entries) (e : Entry) : Entries :=
  if (es.get? e.property).isSome then
    es.map fun old => if old.property = e.property then e else old
  else es ++ [e]

/-- A later entry: its values hold for all marks that the property has been given. -/
def put (es : Entries) (e : Entry) : Entries :=
  let old := ((es.get? e.property).map (·.marks)).getD []
  es.set { e with marks := (old ++ e.marks).eraseDups }

/-- Whether an entry says something else about its property than is said already, under another
mark. Both have to be written then. -/
def conflicts (es : Entries) (e : Entry) : Bool :=
  (es.get? e.property).any fun old =>
    old.values ≠ e.values && e.marks.any fun mark => !old.marks.contains mark

/-- The entries that are left if some properties have been written with some marks. What can have
no mark is written together with what has one. -/
def without (es : Entries) (properties marks : List String) : Entries :=
  es.filterMap fun e =>
    if !properties.contains e.property then some e
    else
      let left := e.marks.filter fun mark => !marks.contains mark
      if left.isEmpty || !Property.mayBeMarked e.property then none
      else some { e with marks := left }

/-- The marks that some entries share. Those of properties that can have no mark do not count beside
others. -/
def sharedMarks (found : List Entry) : List String :=
  let able := found.filter fun e => Property.mayBeMarked e.property
  match if able.isEmpty then found else able with
  | [] => []
  | e :: rest => e.marks.filter fun mark => rest.all fun other => other.marks.contains mark

end Entries

/-- A way to write entries. -/
inductive Step where
  /-- The entry of one property, as its values are shown. -/
  | one (property : String) (shown : List Value → Value)
  /-- All parts of a shorthand, with the marks that they share. -/
  | all (shorthand : Shorthand)
  /-- All parts of a shorthand that has no mark, behind the forms of the parts that have one. -/
  | plain (shorthand : Shorthand)

namespace Step

/-- The declaration of one entry. -/
def single (shown : List Value → Value) (e : Entry) : Marked :=
  if e.isOpen then ⟨e.marks, e.property, .free (.listed e.values)⟩
  else ⟨e.marks, e.property, .known (shown e.values) [⟨e.property, e.values⟩]⟩

/-- The parts of a shorthand, if each of them has a known value, with the value of all. -/
def joined? (s : Shorthand) (es : Entries) : Option (List Entry × Value) := do
  let found ← s.parts.mapM es.get?
  if found.any (·.isOpen) then none
  pure (found, ← s.join? (found.map (·.values)))

/-- The declarations that a step writes, and the entries that are left. -/
def run (es : Entries) : Step → List Marked × Entries
  | one property shown =>
    match es.get? property with
    | some e => ([single shown e], es.filter (·.property ≠ property))
    | none => ([], es)
  | all s =>
    match joined? s es with
    | none => ([], es)
    | some (found, value) =>
      let marks := Entries.sharedMarks found
      if marks.isEmpty then ([], es)
      else ([.ofParts marks s.name value s.parts (found.map (·.values))], es.without s.parts marks)
  | plain s =>
    match joined? s es with
    | none => ([], es)
    | some (found, value) =>
      if !(Entries.sharedMarks found).contains "" then ([], es)
      else
        let left := found.filterMap fun e =>
          let marks := e.marks.filter (· ≠ "")
          if marks.isEmpty then none else some (single .listed { e with marks })
        (left ++ [.ofParts [""] s.name value s.parts (found.map (·.values))],
          es.filter fun e => !s.parts.contains e.property)

/-- The declarations that some steps write one after the other. -/
def runAll : List Step → Entries → List Marked
  | [], _ => []
  | step :: rest, es =>
    let (written, left) := step.run es
    written ++ runAll rest left

/-- Steps for single properties with lists of values. -/
def ones (properties : List String) : List Step := properties.map fun p => one p .listed

end Step

end Pagefold.Css
