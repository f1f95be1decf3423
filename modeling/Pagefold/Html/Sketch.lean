import Pagefold.Html.Node

/-!
# Documents under construction

While a document is read, nodes are moved and text is put in front of nodes that are
already there. The sketch of a document is the list of its nodes in the order in which they
were made; each node knows its parent and its children by their numbers.
-/
namespace Pagefold.Html

/-- The languages whose elements an HTML document holds. -/
inductive Space where
  | html
  | svg
  | math
  deriving DecidableEq, Repr

/-- What a node of a sketch is. A template has its contents in a fragment of their own. -/
inductive SketchKind where
  | document
  | fragment
  | doctype (name : String)
  | element (space : Space) (name : String) (attributes : List Attribute) (contents : Option Nat)
  | text (content : String)
  | comment (content : String)
  deriving Repr

/-- A node with its place in the tree. -/
structure SketchNode where
  kind : SketchKind
  parent : Option Nat := none
  children : Array Nat := #[]
  deriving Repr

/-- The nodes of a document; the document itself is number 0. -/
structure Sketch where
  nodes : Array SketchNode := #[⟨.document, none, #[]⟩]

namespace Sketch

/-- The number of the document. -/
def root : Nat := 0

/-- The node with a number; there is a fragment where there is no node. -/
def node (s : Sketch) (id : Nat) : SketchNode := s.nodes.getD id ⟨.fragment, none, #[]⟩

/-- The sketch with one node changed. -/
def update (s : Sketch) (id : Nat) (change : SketchNode → SketchNode) : Sketch :=
  ⟨s.nodes.modify id change⟩

/-- A new node without a place. -/
def add (s : Sketch) (kind : SketchKind) : Nat × Sketch :=
  (s.nodes.size, ⟨s.nodes.push ⟨kind, none, #[]⟩⟩)

/-- The language and name of an element. -/
def elementName? (s : Sketch) (id : Nat) : Option (Space × String) :=
  match (s.node id).kind with
  | .element space name _ _ => some (space, name)
  | _ => none

/-- The attributes of an element. -/
def attributes (s : Sketch) (id : Nat) : List Attribute :=
  match (s.node id).kind with
  | .element _ _ attributes _ => attributes
  | _ => []

/-- Where the children of a node are put: for a template, into its contents. -/
def inside (s : Sketch) (id : Nat) : Nat :=
  match (s.node id).kind with
  | .element _ _ _ (some contents) => contents
  | _ => id

/-- The node is taken out of its parent. -/
def detach (s : Sketch) (id : Nat) : Sketch :=
  match (s.node id).parent with
  | none => s
  | some p =>
    (s.update p fun n => { n with children := n.children.filter (· ≠ id) }).update id
      fun n => { n with parent := none }

/-- The node becomes the last child of `parent`. -/
def append (s : Sketch) (parent id : Nat) : Sketch :=
  ((s.detach id).update parent fun n => { n with children := n.children.push id }).update id
    fun n => { n with parent := some parent }

/-- Whether the node is text. -/
def isText (s : Sketch) (id : Nat) : Bool :=
  match (s.node id).kind with
  | .text _ => true
  | _ => false

/-- More text at the end of a text node. -/
def extend (s : Sketch) (id : Nat) (more : String) : Sketch :=
  s.update id fun n =>
    match n.kind with
    | .text content => { n with kind := .text (content ++ more) }
    | _ => n

/-- Text at the end of a node; it joins text that is already there. -/
def appendText (s : Sketch) (parent : Nat) (content : String) : Sketch :=
  match (s.node parent).children.back? with
  | some last =>
    if s.isText last then s.extend last content
    else
      let (id, s) := s.add (.text content)
      s.append parent id
  | none =>
    let (id, s) := s.add (.text content)
    s.append parent id

/-- The position of a node among its siblings. -/
def position (s : Sketch) (parent id : Nat) : Nat :=
  ((s.node parent).children.toList.findIdx? (· == id)).getD (s.node parent).children.size

/-- The node is put in front of `sibling`, which has the given parent. -/
def insertBefore (s : Sketch) (parent sibling id : Nat) : Sketch :=
  let s := s.detach id
  let place := s.position parent sibling
  (s.update parent fun n =>
    { n with children := n.children.extract 0 place ++ #[id] ++
        n.children.extract place n.children.size }).update id
    fun n => { n with parent := some parent }

/-- Text is put in front of `sibling`; it joins text that stands directly before. -/
def insertTextBefore (s : Sketch) (parent sibling : Nat) (content : String) : Sketch :=
  let place := s.position parent sibling
  let before := if place = 0 then none else (s.node parent).children[place - 1]?
  match before.filter s.isText with
  | some last => s.extend last content
  | none =>
    let (id, s) := s.add (.text content)
    s.insertBefore parent sibling id

/-- All children of one node become the last children of another. -/
def moveChildren (s : Sketch) (source target : Nat) : Sketch :=
  (s.node source).children.foldl (fun s id => s.append target id) s

/-- Attributes that an element does not have yet. -/
def addMissing (s : Sketch) (id : Nat) (more : List Attribute) : Sketch :=
  s.update id fun n =>
    match n.kind with
    | .element space name attributes contents =>
      let new := more.filter fun a => attributes.all (·.name ≠ a.name)
      { n with kind := .element space name (attributes ++ new) contents }
    | _ => n

/-- The finished tree at a node. The fuel bounds the depth. -/
def toNode (s : Sketch) : Nat → Nat → Node
  | 0, _ => .text ""
  | fuel + 1, id =>
    let below (id : Nat) : List Node := (s.node id).children.toList.map (toNode s fuel)
    match (s.node id).kind with
    | .document | .fragment => .document (below id)
    | .doctype name => .doctype name
    | .element _ name attributes contents =>
      .element name attributes (below (contents.getD id))
    | .text content => .text content
    | .comment content => .comment content

/-- The finished document. -/
def toDocument (s : Sketch) : Node := s.toNode (s.nodes.size + 1) root

end Sketch

end Pagefold.Html
