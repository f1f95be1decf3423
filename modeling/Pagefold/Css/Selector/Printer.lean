import Pagefold.Css.Selector
import Pagefold.Css.Token

/-!
# Selectors as they are written

Selectors are written without blanks around their combinators. A universal selector beside
others is left out, and `:is` around one simple compound without an element name is too.
-/
namespace Pagefold.Css

/-- How a combinator is written; before a pseudo-element nothing is. -/
def Combinator.text : Combinator → String
  | descendant => " "
  | child => ">"
  | next => "+"
  | later => "~"
  | element => ""
  | slot => ""
  | part => ""

/-- Whether a universal selector is left out in front of this combinator, even alone. -/
def Combinator.hidesUniversal : Combinator → Bool
  | element => true
  | slot => true
  | _ => false

/-- The value of an attribute test, as a name if that is shorter than a string. -/
def AttributeTest.valueText (t : AttributeTest) : String :=
  let word := Literal.name t.value
  let quoted := Literal.quoted t.value
  if word ≠ "" ∧ word.utf8ByteSize < quoted.utf8ByteSize then word else quoted

/-- How a test of an attribute is written. In a namespace or with capital letters in the name
of the attribute its value stays a string. -/
def Attribute.text (a : Attribute) : String :=
  let isBrief := a.space.isNone && !a.name.any Char.isUpper
  let space := match a.space with
    | none => ""
    | some "*" => "*|"
    | some name => Literal.name name ++ "|"
  let test := match a.test with
    | none => ""
    | some t =>
      t.operator ++ "=" ++ (if isBrief then t.valueText else Literal.quoted t.value) ++
        (if t.flag = "" then "" else " " ++ t.flag)
  "[" ++ space ++ Literal.name a.name ++ test ++ "]"

/-- How the start of a group is written. -/
def Grouping.text : Grouping → String
  | negation => ":not("
  | isAny => ":is("
  | whereAny => ":where("
  | has => ":has("
  | webkitAny => ":-webkit-any("
  | mozAny => ":-moz-any("

/-- How positions are written. -/
def Positions.text (p : Positions) : String :=
  let offset := if p.offset < 0 then toString p.offset else "+" ++ toString p.offset
  let multiple :=
    if p.step = 1 then "n" else if p.step = -1 then "-n" else toString p.step ++ "n"
  if p.step = 0 then toString p.offset
  else if p.step = 2 ∧ p.offset = 1 then "odd"
  else if p.offset = 0 then multiple
  else multiple ++ offset

/-- What stands for the first position of some kind, as it is written. Columns have no word for
it, and nothing follows the parenthesis. -/
def Positions.firstText (name : String) : String :=
  match name with
  | "nth-child" => ":first-child"
  | "nth-last-child" => ":last-child"
  | "nth-of-type" => ":first-of-type"
  | "nth-last-of-type" => ":last-of-type"
  | other => ":" ++ other ++ "("

/-- A compound with the text of each simple selector in it, and the combinator after it. -/
abbrev WrittenCompound := List (Simple × String) × Option Combinator

namespace WrittenCompound

/-- Whether a simple selector is the universal one. -/
def isUniversal : Simple → Bool
  | .universal => true
  | _ => false

/-- Whether a simple selector is a namespace. -/
def isSpace : Simple → Bool
  | .space _ => true
  | _ => false

/-- Whether a simple selector is the start of the search. -/
def isScope : Simple → Bool
  | .scope => true
  | _ => false

/-- Whether a simple selector is that of the enclosing rule. -/
def isParent : Simple → Bool
  | .parent => true
  | _ => false

/-- How a compound is written: the universal selector only if it is alone, with nothing but a
namespace or, at the start of a selector, the enclosing rule in front of it. -/
def text (isFirst : Bool) (compound : List (Simple × String)) (after : Option Combinator) :
    String :=
  let parent := isFirst && compound.head?.any (isParent ·.1)
  let body := if parent then compound.drop 1 else compound
  let spaced := body.head?.any (isSpace ·.1)
  let named := if spaced then body.drop 1 else body
  let alone := named.length == 1 && named.any (isUniversal ·.1) &&
    !after.any Combinator.hidesUniversal
  let kept := if alone || spaced then compound else compound.filter (!isUniversal ·.1)
  "".intercalate (kept.map (·.2))

/-- How compounds are written one after the other with these combinators between them. If
`hidesScope`, the first compound that starts with `:scope` is written without it, after its
combinator. -/
def textOfAll (isFirst hidesScope : Bool) : List (List (Simple × String)) → List Combinator → String
  | [], _ => ""
  | compound :: rest, joined =>
    let hides := hidesScope && compound.head?.any (isScope ·.1)
    let lead := if hides then joined.take 1 else []
    let compound := if hides then compound.drop 1 else compound
    let joined := joined.drop lead.length
    let leadText := "".intercalate (lead.map Combinator.text)
    if compound.isEmpty then leadText ++ textOfAll isFirst (hidesScope && !hides) rest joined
    else
      leadText ++ text isFirst compound joined.head? ++
        "".intercalate ((joined.take 1).map Combinator.text) ++
        textOfAll false (hidesScope && !hides) rest (joined.drop 1)

/-- How a chain of compounds is written. -/
def chainText (hidesScope : Bool) (chain : List WrittenCompound) : String :=
  textOfAll true hidesScope (chain.map (·.1)) (chain.filterMap (·.2))

/-- How a list of chains is written. -/
def listText (hidesScope : Bool) (chains : List (List WrittenCompound)) : String :=
  ",".intercalate (chains.map (chainText hidesScope))

end WrittenCompound

mutual

/-- How a simple selector is written; `parent` is what the enclosing rule is written as. -/
def Simple.text (parent : String) : Simple → String
  | .space name => Literal.name name ++ "|"
  | .universal => "*"
  | .element name => Literal.name name
  | .id name => "#" ++ Literal.name name
  | .cls name => "." ++ Literal.name name
  | .attribute a => a.text
  | .parent => parent
  | .scope => ":scope"
  | .pseudo text => text
  | .group kind among =>
    let written := Selector.writtenAll parent among
    match kind, among with
    | .isAny, [s] =>
      if s.isPlain then WrittenCompound.listText false written
      else ":is(" ++ WrittenCompound.listText false written ++ ")"
    | kind, _ => kind.text ++ WrittenCompound.listText (kind = .has) written ++ ")"
  | .nth name positions none =>
    if positions = ⟨0, 1⟩ then Positions.firstText name
    else ":" ++ name ++ "(" ++ positions.text ++ ")"
  | .nth name positions (some among) =>
    ":" ++ name ++ "(" ++ positions.text ++ " of " ++
      WrittenCompound.listText false (Selector.writtenAll parent among) ++ ")"
  | .host none => ":host"
  | .host (some inner) =>
    ":host(" ++ WrittenCompound.chainText false (inner.written parent) ++ ")"
  | .slotted inner =>
    "::slotted(" ++ WrittenCompound.chainText false (inner.written parent) ++ ")"
  | .foreign name inner =>
    "::" ++ name ++ "(" ++ WrittenCompound.chainText false (inner.written parent) ++ ")"

/-- The simple selectors of a compound, each with its text. -/
def Simple.writtenAll (parent : String) : List Simple → List (Simple × String)
  | [] => []
  | s :: rest => (s, s.text parent) :: Simple.writtenAll parent rest

/-- The compounds of a selector with their texts. -/
def Selector.written (parent : String) : Selector → List WrittenCompound
  | .last compound => [(Simple.writtenAll parent compound, none)]
  | .step compound joined rest =>
    (Simple.writtenAll parent compound, some joined) :: rest.written parent

/-- The compounds of some selectors with their texts. -/
def Selector.writtenAll (parent : String) : List Selector → List (List WrittenCompound)
  | [] => []
  | s :: rest => s.written parent :: Selector.writtenAll parent rest

end

namespace Selector

/-- How a list of selectors is written where the enclosing rule is written as `parent`. -/
def textOfAllIn (parent : String) (selectors : List Selector) : String :=
  WrittenCompound.listText false (writtenAll parent selectors)

/-- How a list of selectors is written. -/
def textOfAll (selectors : List Selector) : String := textOfAllIn "&" selectors

/-- What stands for some selectors inside a compound. -/
def standIn (selectors : List Selector) : String :=
  match selectors with
  | [s] => if s.isPlain then textOfAll [s] else ":is(" ++ textOfAll [s] ++ ")"
  | selectors => ":is(" ++ textOfAll selectors ++ ")"

end Selector

end Pagefold.Css
