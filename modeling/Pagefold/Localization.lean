import Pagefold.Json
import Pagefold.Text.Cut

/-!
# Localization

A placeholder is `#lang#`, a key of letters, digits, `_`, `.` and `-`, and a number sign. A
localizer replaces placeholders by the values of its dictionary; keys that it does not know
stay in the text and are reported. Values are never scanned for placeholders again.
-/
namespace Pagefold

/-- A part of a text: a character to copy, or a placeholder with its key. -/
inductive Segment where
  | literal (c : Char)
  | placeholder (key : String)
  deriving DecidableEq, Repr

namespace Segment

/-- The text that opens a placeholder. -/
def opening : List Char := "#lang#".toList

/-- A character of a key. -/
def isKeyChar (c : Char) : Bool := c.isAlphanum || c == '_' || c == '.' || c == '-'

/-- The key of the placeholder at the start of a text. -/
def keyAt? (s : List Char) : Option (List Char) :=
  match Text.after? opening s with
  | none => none
  | some r =>
    match r.takeWhile isKeyChar, r.dropWhile isKeyChar with
    | key@(_ :: _), '#' :: _ => some key
    | _, _ => none

/-- The segments of a text; `skip` characters still belong to the placeholder before. -/
def scanFrom : Nat → List Char → List Segment
  | _, [] => []
  | skip + 1, _ :: r => scanFrom skip r
  | 0, c :: r =>
    match keyAt? (c :: r) with
    | some key =>
      .placeholder (String.ofList key) :: scanFrom (opening.length + key.length) r
    | none => .literal c :: scanFrom 0 r

/-- The segments of a text: its leftmost placeholders and the characters around them. -/
def scan (s : List Char) : List Segment := scanFrom 0 s

/-- How a segment is written. -/
def text : Segment → List Char
  | literal c => [c]
  | placeholder key => opening ++ key.toList ++ ['#']

end Segment

/-- A dictionary, or none, in which case every key is missing. -/
structure Localizer where
  dictionary : Option (List (String × String)) := none

namespace Localizer

/-- The value of a key. -/
def value? (l : Localizer) (key : String) : Option String :=
  l.dictionary.bind fun entries => entries.lookup key

/-- A segment with its value put in; an unknown key stays as it is written. -/
def resolve (l : Localizer) (segment : Segment) : List Char :=
  match segment with
  | .literal c => [c]
  | .placeholder key =>
    match l.value? key with
    | some value => value.toList
    | none => segment.text

/-- The key of a segment, if the dictionary lacks it. -/
def missingKey? (l : Localizer) : Segment → Option String
  | .literal _ => none
  | .placeholder key => if (l.value? key).isSome then none else some key

/-- The text with every known placeholder replaced. -/
def apply (l : Localizer) (s : List Char) : List Char := (Segment.scan s).flatMap l.resolve

/-- The unknown keys of a text, in order. -/
def missing (l : Localizer) (s : List Char) : List String := (Segment.scan s).filterMap l.missingKey?

/-- The number of entries. -/
def size (l : Localizer) : Nat := (l.dictionary.map List.length).getD 0

/-- The keys of a report: ascending, each once. -/
def report (keys : List String) : List String :=
  (keys.mergeSort fun a b => decide (a ≤ b)).eraseDups

/-- Why a text is no dictionary. -/
inductive Defect where
  /-- The text is not JSON. -/
  | notJson
  | notObject
  | notText (key : String) (found : Json)

/-- What a JSON value is called in messages. -/
def kindOf : Json → String
  | .null => "null"
  | .bool _ => "a boolean"
  | .number _ => "a number"
  | .string _ => "a string"
  | .array _ => "an array"
  | .object _ => "an object"

/-- The wording of a defect. -/
def Defect.message : Defect → String
  | notJson => "the text is not JSON"
  | notObject => "expected a JSON object at the top level"
  | notText key found => s!"value of '{key}' must be a string, found {kindOf found}"

/-- The entries of a flat object. The first member in key order that is no text is reported. -/
def entries : List (String × Json) → Except Defect (List (String × String))
  | [] => .ok []
  | (key, .string value) :: rest => (entries rest).map ((key, value) :: ·)
  | (key, other) :: _ => .error (.notText key other)

/-- The localizer of a flat JSON object of strings. -/
def ofJson (text : String) : Except Defect Localizer :=
  match Json.read? text with
  | none => .error .notJson
  | some (.object members) =>
    (entries (Json.sortedMembers members)).map fun entries => ⟨some entries⟩
  | some _ => .error .notObject

end Localizer

end Pagefold
