import Pagefold.Command.Environment
import Pagefold.Number.Double
import Pagefold.Text.Cut
import Pagefold.Text.WordChar

/-!
# Values of fields

A test of a field compares it with a value. The text of the value is read as a truth value, as a
whole number of 64 bits, as any number, or else as a pattern for texts.
-/
namespace Pagefold.Command

/-!
## Patterns for texts

A pattern is written in the usual notation for regular expressions: groups, alternatives,
repetitions, classes and escapes. Only whether a text is a pattern matters here. A brace cannot
be closed within the texts that are looked at, so a count of repetitions is never one; and a word
boundary is one only where its words are made of the letters without accents.
-/

namespace TextPattern

/-- The switches of a pattern that change what is allowed in it. -/
structure Switches where
  /-- Whether characters beyond the first 128 count. -/
  wide : Bool := true
  /-- Whether blanks and comments mean nothing. -/
  spaced : Bool := false
  deriving DecidableEq, Repr

/-- What a backslash with the text after it stands for. -/
inductive Escaped where
  | character (code : Nat)
  | kind
  | place
  deriving DecidableEq, Repr

/-- The value of a hexadecimal digit. -/
def hexValue? (c : Char) : Option Nat :=
  if c.isDigit then some (c.toNat - '0'.toNat)
  else if 'a' ≤ c ∧ c ≤ 'f' then some (c.toNat - 'a'.toNat + 10)
  else if 'A' ≤ c ∧ c ≤ 'F' then some (c.toNat - 'A'.toNat + 10)
  else none

/-- The character that a fixed count of hexadecimal digits writes, and what follows them. -/
def hexCode? (count : Nat) (s : List Char) : Option (Escaped × List Char) := do
  if s.length < count then none
  let code ← (s.take count).foldlM (fun n c => (hexValue? c).map fun d => 16 * n + d) 0
  if code.isValidChar then some (.character code, s.drop count) else none

/-- The letters that name the kinds of characters. -/
def kinds : List Char := ['l', 'm', 'n', 'p', 's', 'z', 'c']

/-- What stands after a backslash, and what follows it. -/
def escaped? (w : Switches) (s : List Char) : Option (Escaped × List Char) :=
  match s with
  | [] => none
  | c :: r =>
    if c = 'x' then hexCode? 2 r
    else if c = 'u' then hexCode? 4 r
    else if c = 'U' then hexCode? 8 r
    else if c = 'p' ∨ c = 'P' then
      match r with
      | kind :: r => if w.wide ∧ kinds.contains kind.toLower then some (.kind, r) else none
      | [] => none
    else if ['d', 's', 'w'].contains c then some (.kind, r)
    else if ['D', 'S', 'W'].contains c then if w.wide then some (.kind, r) else none
    else if c = 'A' ∨ c = 'z' then some (.place, r)
    else if c = 'b' ∨ c = 'B' ∨ c = '<' ∨ c = '>' then if w.wide then none else some (.place, r)
    else if ['a', 'f', 't', 'n', 'r', 'v'].contains c then
      let code := match c with
        | 'a' => 0x07
        | 'f' => 0x0C
        | 't' => 0x09
        | 'n' => 0x0A
        | 'r' => 0x0D
        | _ => 0x0B
      some (.character code, r)
    else if c.toNat < 0x80 ∧ !c.isAlphanum then some (.character c.toNat, r)
    else none

/-! ## Classes -/

/-- The names of the classes between colons. -/
def classNames : List String :=
  ["alnum", "alpha", "ascii", "blank", "cntrl", "digit", "graph", "lower", "print", "punct",
   "space", "upper", "word", "xdigit"]

/-- What follows a named class after its opening bracket. -/
def afterNamed? (s : List Char) : Option (List Char) :=
  match s with
  | ':' :: r =>
    let r := if r.head? = some '^' then r.drop 1 else r
    let name := String.ofList (r.takeWhile (· != ':'))
    match r.dropWhile (· != ':') with
    | ':' :: ']' :: rest => if classNames.contains name then some rest else none
    | _ => none
  | _ => none

/-- The text after the start of a class: a sign for all other characters, dashes, and a closing
bracket that stands for itself. -/
def afterClassStart? (w : Switches) (s : List Char) : Option (List Char) := do
  let s ← match s with
    | '^' :: r => if w.wide then some r else none
    | s => some s
  let rest := s.dropWhile (· == '-')
  if rest.isEmpty then none
  else if rest.length = s.length ∧ rest.head? = some ']' then some (rest.drop 1)
  else some rest

/-- One member of a class, and what follows it. -/
def member? (w : Switches) (s : List Char) : Option (Escaped × List Char) :=
  match s with
  | [] => none
  | '\\' :: r => escaped? w r
  | c :: r => some (.character c.toNat, r)

/-- A member of a class or a range of characters, and what follows it. -/
def range? (w : Switches) (s : List Char) : Option (List Char) := do
  let (first, r) ← member? w s
  match r with
  | [] => none
  | '-' :: r' =>
    if r'.head? = some ']' ∨ r'.head? = some '-' then
      if first = .place then none else pure r
    else
      let (last, rest) ← member? w r'
      match first, last with
      | .character a, .character b => if a ≤ b then pure rest else none
      | _, _ => none
  | _ => if first = .place then none else pure r

/-- What follows a class with so many open brackets. The bound is the length of the text. -/
def afterClass? (w : Switches) : Nat → Nat → List Char → Option (List Char)
  | 0, _, _ => none
  | bound + 1, open_, s =>
    match s with
    | [] => none
    | '[' :: r =>
      match afterNamed? r with
      | some rest => afterClass? w bound open_ rest
      | none => (afterClassStart? w r).bind (afterClass? w bound (open_ + 1))
    | ']' :: r => if open_ ≤ 1 then some r else afterClass? w bound (open_ - 1) r
    | '&' :: '&' :: r => afterClass? w bound open_ r
    | '-' :: '-' :: r => afterClass? w bound open_ r
    | '~' :: '~' :: r => afterClass? w bound open_ r
    | s => (range? w s).bind (afterClass? w bound open_)

/-! ## Groups -/

/-- How a group begins. -/
inductive Opening where
  | group (name : Option String) (switches : Switches)
  | switches (switches : Switches)

/-- The name of a group up to its closing angle, and what follows it. -/
def groupName? (s : List Char) : Option (String × List Char) :=
  let name := s.takeWhile (· != '>')
  let isLetter (c : Char) : Bool := c == '_' || (Text.isLetterOrNumber c && !c.isDigit)
  let isPart (c : Char) : Bool := isLetter c || c.isDigit || c == '.' || c == '[' || c == ']'
  match s.dropWhile (· != '>') with
  | '>' :: rest =>
    if name.head?.any isLetter ∧ name.all isPart then some (String.ofList name, rest) else none
  | _ => none

/-- The switches at the start of a group; `on` says whether they are switched on, and `seen`
are those that have been read. -/
def switches? (w : Switches) (on : Bool) (seen : List Char) : List Char → Option (Opening × List Char)
  | [] => none
  | ':' :: r => if seen.getLast? = some '-' then none else some (.group none w, r)
  | ')' :: r => if seen.isEmpty ∨ seen.getLast? = some '-' then none else some (.switches w, r)
  | '-' :: r => if on then switches? w false (seen ++ ['-']) r else none
  | c :: r =>
    if seen.contains c then none
    else if c = 'u' then switches? { w with wide := on } on (seen ++ [c]) r
    else if c = 'x' then switches? { w with spaced := on } on (seen ++ [c]) r
    else if ['i', 'm', 's', 'U', 'R'].contains c then switches? w on (seen ++ [c]) r
    else none

/-- How a group begins after its parenthesis, and what follows. -/
def opening? (w : Switches) (s : List Char) : Option (Opening × List Char) :=
  match s with
  | '?' :: 'P' :: '<' :: r => (groupName? r).map fun (name, r) => (.group (some name) w, r)
  | '?' :: '<' :: r => (groupName? r).map fun (name, r) => (.group (some name) w, r)
  | '?' :: r => switches? w true [] r
  | r => some (.group none w, r)

/-- How far a pattern has been read. -/
structure Progress where
  switches : Switches := {}
  /-- The switches around each open group. -/
  around : List Switches := []
  /-- Whether there is something that can be repeated. -/
  repeatable : Bool := false
  names : List String := []

/-- Whether the rest of a text completes a pattern. The bound is the length of the text. -/
def completes : Nat → Progress → List Char → Bool
  | 0, _, _ => false
  | bound + 1, p, s =>
    match s with
    | [] => p.around.isEmpty
    | c :: r =>
      let after (rest : List Char) : Bool := completes bound { p with repeatable := true } rest
      match c with
      | '(' =>
        match opening? p.switches r with
        | none => false
        | some (.switches w, rest) => completes bound { p with switches := w, repeatable := false } rest
        | some (.group name w, rest) =>
          if name.any p.names.contains then false
          else completes bound
            { switches := w, around := p.switches :: p.around, repeatable := false,
              names := name.toList ++ p.names } rest
      | ')' =>
        match p.around with
        | [] => false
        | w :: around => completes bound { p with switches := w, around, repeatable := true } r
      | '|' => completes bound { p with repeatable := false } r
      | '[' => ((afterClassStart? p.switches r).bind (afterClass? p.switches s.length 1)).any after
      | '?' | '*' | '+' =>
        p.repeatable && after (if r.head? = some '?' then r.drop 1 else r)
      | '\x7b' => false
      | '\\' => (escaped? p.switches r).any fun found => after found.2
      | '.' => p.switches.wide && after r
      | c =>
        if p.switches.spaced ∧ Text.isBlank c then completes bound p r
        else if p.switches.spaced ∧ c = '#' then completes bound p (r.dropWhile (· != '\n'))
        else after r

/-- Whether a text is a pattern. -/
def isValid (s : List Char) : Bool := completes (s.length + 1) {} s

end TextPattern

open Number

/-- A value that a field is compared with. -/
inductive FieldValue where
  | truth (value : Bool)
  | natural (value : Nat)
  | integer (value : Int)
  | number (value : Double)
  | pattern (text : String)
  deriving DecidableEq, Repr

namespace FieldValue

/-- The whole number without a sign that a text writes. -/
def natural? (text : List Char) : Option Nat :=
  if text.head? ≠ some '-' ∧ Environment.isWhole text then
    some (Json.decimal (Environment.unsigned text))
  else none

/-- The whole number with a sign that a text writes. -/
def integer? (text : List Char) : Option Int :=
  let size := Json.decimal (Environment.unsigned text)
  if !Environment.areDigits (Environment.unsigned text) then none
  else if text.head? = some '-' then
    if size ≤ 0x8000000000000000 then some (-(size : Int)) else none
  else if size < 0x8000000000000000 then some size
  else none

/-- The power of ten at the end of a number; without one it is zero. -/
def power? (text : List Char) : Option Int :=
  match text with
  | [] => some 0
  | _ :: r =>
    let digits := Environment.unsigned r
    if !Environment.areDigits digits then none
    else if r.head? = some '-' then some (-(Json.decimal digits : Int))
    else some (Json.decimal digits)

/-- The number without a sign that a text writes: infinity, no number, or digits with a point and
a power of ten. -/
def unsigned? (negative : Bool) (text : List Char) : Option Double :=
  let word := String.ofList (text.map Char.toLower)
  if word = "inf" ∨ word = "infinity" then some (.infinite negative)
  else if word = "nan" then some .undefined
  else do
    let isMantissa (c : Char) : Bool := c != 'e' && c != 'E'
    let mantissa := text.takeWhile isMantissa
    let power ← power? (text.dropWhile isMantissa)
    let digits := mantissa.filter (· != '.')
    if 1 < mantissa.count '.' ∨ !Environment.areDigits digits then none
    let places := (mantissa.dropWhile (· != '.')).length - 1
    pure (Double.ofScaled negative (Json.decimal digits) (power - places))

/-- The number that a text writes. -/
def number? (text : List Char) : Option Double :=
  unsigned? (text.head? == some '-') (Environment.unsigned text)

/-- The value that a text writes; nothing where it is not even a pattern. -/
def read? (text : List Char) : Option FieldValue :=
  if text = "true".toList then some (.truth true)
  else if text = "false".toList then some (.truth false)
  else
    let known :=
      ((natural? text).map FieldValue.natural).orElse fun _ =>
        ((integer? text).map FieldValue.integer).orElse fun _ => (number? text).map FieldValue.number
    match known with
    | some value => some value
    | none => if TextPattern.isValid text then some (.pattern (String.ofList text)) else none

/-- How a value is written. -/
def text : FieldValue → String
  | truth value => if value then "true" else "false"
  | natural value => toString value
  | integer value => toString value
  | number value => value.placedText
  | pattern text => text

/-- Whether two values are compared in the same way. Of the zeros only the kind counts. -/
def same : FieldValue → FieldValue → Bool
  | number a, number b => a == b || a.equals b
  | a, b => a == b

end FieldValue

end Pagefold.Command
