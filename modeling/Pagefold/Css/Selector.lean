/-!
# Selectors

A selector is a chain of compounds joined by combinators. Classes may stand in a compound or
in the selectors that are its arguments, to any depth. A selector is traversed from its last
compound to its first, and inside a compound from left to right.
-/
namespace Pagefold.Css

/-- How two compounds are joined. A pseudo-element that is known starts a compound of its own,
and so do the slotted elements and the parts of a component. -/
inductive Combinator where
  | descendant
  | child
  | next
  | later
  | element
  | slot
  | part
  deriving DecidableEq, Repr

/-- The test of an attribute's value: the mark before the equals sign, the value, and the
letter after it. -/
structure AttributeTest where
  operator : String
  value : String
  flag : String := ""
  deriving DecidableEq, Repr

/-- An attribute, with the name of its namespace or an asterisk where one is written, and the
test of its value. -/
structure Attribute where
  space : Option String := none
  name : String
  test : Option AttributeTest := none
  deriving DecidableEq, Repr

/-- Pseudo-classes whose arguments are selectors. -/
inductive Grouping where
  | negation
  | isAny
  | whereAny
  | has
  | webkitAny
  | mozAny
  deriving DecidableEq, Repr

/-- The positions `step * n + offset`. -/
structure Positions where
  step : Int
  offset : Int
  deriving DecidableEq, Repr

mutual

/-- A simple selector. -/
inductive Simple where
  /-- The namespace of the element name after it; none is empty. -/
  | space (name : String)
  | universal
  | element (name : String)
  | id (name : String)
  | cls (name : String)
  | attribute (a : Attribute)
  /-- The selector of the enclosing rule. -/
  | parent
  /-- The elements that the search for others starts from. -/
  | scope
  /-- A pseudo-class or pseudo-element without selectors, as it is written. -/
  | pseudo (text : String)
  | group (kind : Grouping) (among : List Selector)
  | nth (name : String) (positions : Positions) (among : Option (List Selector))
  | host (inner : Option Selector)
  | slotted (inner : Selector)
  /-- A pseudo-element with a selector for what is not part of the document. -/
  | foreign (name : String) (inner : Selector)

/-- A chain of compounds, written from left to right. -/
inductive Selector where
  | last (compound : List Simple)
  | step (compound : List Simple) (joined : Combinator) (rest : Selector)

end

mutual

/-- A simple selector with an action carried out on each class name. -/
def Simple.traverse {m : Type → Type} [Monad m] (f : String → m String) : Simple → m Simple
  | .cls name => return .cls (← f name)
  | .group kind among => return .group kind (← Selector.traverseAll f among)
  | .nth name positions (some among) =>
    return .nth name positions (some (← Selector.traverseAll f among))
  | .host (some inner) => return .host (some (← inner.traverse f))
  | .slotted inner => return .slotted (← inner.traverse f)
  | other => return other

/-- A compound with an action carried out on each class name, from left to right. -/
def Simple.traverseAll {m : Type → Type} [Monad m] (f : String → m String) :
    List Simple → m (List Simple)
  | [] => return []
  | s :: rest => do
    let s ← s.traverse f
    let rest ← Simple.traverseAll f rest
    return s :: rest

/-- A selector with an action carried out on each class name, from the last compound to the
first. -/
def Selector.traverse {m : Type → Type} [Monad m] (f : String → m String) : Selector → m Selector
  | .last compound => return .last (← Simple.traverseAll f compound)
  | .step compound joined rest => do
    let rest ← rest.traverse f
    let compound ← Simple.traverseAll f compound
    return .step compound joined rest

/-- A list of selectors with an action carried out on each class name. -/
def Selector.traverseAll {m : Type → Type} [Monad m] (f : String → m String) :
    List Selector → m (List Selector)
  | [] => return []
  | s :: rest => do
    let s ← s.traverse f
    let rest ← Selector.traverseAll f rest
    return s :: rest

end

mutual

/-- Whether a simple selector names the enclosing rule, itself or in its arguments. -/
def Simple.namesParent : Simple → Bool
  | .parent => true
  | .group _ among => Selector.anyNamesParent among
  | .nth _ _ (some among) => Selector.anyNamesParent among
  | .host (some inner) => inner.namesParent
  | .slotted inner => inner.namesParent
  | _ => false

/-- Whether one of some simple selectors names the enclosing rule. -/
def Simple.anyNamesParent : List Simple → Bool
  | [] => false
  | s :: rest => s.namesParent || Simple.anyNamesParent rest

/-- Whether a selector names the enclosing rule. -/
def Selector.namesParent : Selector → Bool
  | .last compound => Simple.anyNamesParent compound
  | .step compound _ rest => Simple.anyNamesParent compound || rest.namesParent

/-- Whether one of some selectors names the enclosing rule. -/
def Selector.anyNamesParent : List Selector → Bool
  | [] => false
  | s :: rest => s.namesParent || Selector.anyNamesParent rest

end

namespace Selector

/-- Compounds with the combinators in front of them, after a first one, as a selector. -/
def ofCompounds (first : List Simple) : List (Combinator × List Simple) → Selector
  | [] => last first
  | (joined, compound) :: rest => step first joined (ofCompounds compound rest)

/-- Whether a selector is one compound that may follow others: it has no name of an element. -/
def isPlain : Selector → Bool
  | last (.space _ :: _) => false
  | last (.universal :: _) => false
  | last (.element _ :: _) => false
  | last _ => true
  | step .. => false

end Selector

end Pagefold.Css
