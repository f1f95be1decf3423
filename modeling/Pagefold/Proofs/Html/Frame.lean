import Mathlib
import Pagefold.Proofs.Html.Ending

/-!
# Documents and their frames

Every text is read as a document with one root element. The root has one head and after it, unless
framesets stand there, one body. No other head or body is found anywhere in the document, and no
document inside of another.
-/
namespace Pagefold.Html

mutual

/-- Whether no part of a frame stands at or below a node: no document, no head and no body. -/
def Node.isInner : Node → Bool
  | .document _ => false
  | .element name _ children => !(["head", "body"].contains name) && areInner children
  | _ => true

/-- Whether no part of a frame stands in a list of nodes. -/
def areInner : List Node → Bool
  | [] => true
  | n :: rest => n.isInner && areInner rest

end

/-- Nodes are inside of a frame if each of them is. -/
theorem areInner_iff (all : List Node) : areInner all = true ↔ ∀ n ∈ all, n.isInner = true := by
  induction all with
  | nil => simp [areInner]
  | cons n rest inductionHypothesis => simp [areInner, inductionHypothesis]

@[simp]
theorem areInner_append (first second : List Node) :
    areInner (first ++ second) = (areInner first && areInner second) := by
  rw [Bool.eq_iff_iff, Bool.and_eq_true, areInner_iff, areInner_iff, areInner_iff]
  simp [or_imp, forall_and]

/-- A head or a body: its attributes and its children. -/
structure Part where
  attributes : List Attribute
  children : List Node

/-- The element with the name and the attributes and children of the part. -/
def Part.toNode (part : Part) (name : String) : Node :=
  .element name part.attributes part.children

/-- A document with its frame. The body, with what follows it in the root element, is missing where
framesets stand in its place. -/
structure Page where
  before : List Node
  attributes : List Attribute
  start : List Node
  head : Part
  between : List Node
  body : Option (Part × List Node)
  after : List Node

namespace Page

/-- The body and what follows it in the root element. -/
def ending (page : Page) : List Node :=
  match page.body with
  | none => []
  | some (part, rest) => part.toNode "body" :: rest

/-- The document. -/
def toNode (page : Page) : Node :=
  .document (page.before ++ .element "html" page.attributes
    (page.start ++ page.head.toNode "head" :: (page.between ++ page.ending)) :: page.after)

/-- What stands in the body and after it in the root element. -/
def bodyNodes (page : Page) : List Node :=
  match page.body with
  | none => []
  | some (part, rest) => part.children ++ rest

/-- A frameset that stands in the root element in place of a body. -/
def HasFrameset (page : Page) : Prop :=
  ∃ attributes children, .element "frameset" attributes children ∈ page.start ++ page.between

/-- The nodes that the frame holds, in the order of the document. -/
def nodes (page : Page) : List Node :=
  page.before ++ page.start ++ page.head.children ++ page.between ++ page.bodyNodes ++ page.after

end Page

namespace Sketch

variable {s : Sketch} {stage : Stage}

/-- The finished trees at the children of a node. -/
def below (s : Sketch) (fuel id : Nat) : List Node :=
  (s.node id).children.toList.map (s.toNode fuel)

/-- An element that puts its children nowhere else is finished with its children. -/
theorem toNode_outline {id : Nat} {space : Space} {name : String}
    (outline : s.outline id = .element space name [] none) (fuel : Nat) :
    s.toNode (fuel + 1) id = .element name (s.attributes id) (s.below fuel id) := by
  rw [Sketch.outline] at outline
  rw [toNode, Sketch.attributes, below]
  cases kind : (s.node id).kind with
  | element space' name' attributes contents =>
    rw [kind] at outline
    obtain ⟨_, rfl, _, rfl⟩ := SketchKind.element.inj outline
    rfl
  | _ =>
    rw [kind] at outline
    cases outline

namespace Shape

/-- An element of the frame is finished with its children. -/
theorem toNode_member (shape : Shape stage s) {id : Nat} {name : String}
    (member : (id, name) ∈ stage.members) (fuel : Nat) :
    s.toNode (fuel + 1) id = .element name (s.attributes id) (s.below fuel id) :=
  toNode_outline (shape.members id name member) fuel

/-- A node that is no part of the frame is finished without one.

Proof: by induction on the fuel. The children of an ordinary node are ordinary, and so are the
contents of a template, since no part of the frame is in a fragment. -/
theorem toNode_inner (shape : Shape stage s) (fuel : Nat) :
    ∀ id, s.isOrdinary id = true → (s.toNode fuel id).isInner = true := by
  induction fuel with
  | zero =>
    intro id _
    rfl
  | succ fuel inductionHypothesis =>
    intro id ordinary
    have children : ∀ holder, s.framed holder = [] → areInner (s.below fuel holder) = true := by
      intro holder none
      rw [areInner_iff, below, List.forall_mem_map]
      intro child member
      apply inductionHypothesis
      simpa using List.filter_eq_nil_iff.mp none child member
    have own := ordinary
    rw [isOrdinary, Sketch.outline] at own
    rw [toNode]
    cases kind : (s.node id).kind with
    | document | fragment =>
      rw [kind] at own
      cases own
    | doctype | text | comment => rfl
    | element space name attributes contents =>
      have inner : areInner (s.below fuel (contents.getD id)) = true := by
        apply children
        cases contents with
        | none => exact shape.framed_ordinary ordinary
        | some contents =>
          have outline : s.outline id = .element space name [] (some contents) := by
            rw [Sketch.outline, kind]
            rfl
          obtain ⟨_, fragment⟩ := shape.contents id space name contents outline
          exact shape.framed_apart (by simp [fragment]) (by simp [fragment])
      have named : (["head", "body"].contains name) = false := by
        rw [kind] at own
        simp only [SketchKind.outline, SketchKind.isOrdinary, Bool.not_eq_true',
          Bool.or_eq_false_iff] at own
        exact own.1
      exact Bool.and_eq_true_iff.mpr ⟨by simp only [named, Bool.not_false], inner⟩

/-- Nodes that are no parts of the frame are finished without one. -/
theorem map_inner (shape : Shape stage s) (fuel : Nat) {children : List Nat}
    (ordinary : ∀ child ∈ children, s.isOrdinary child = true) :
    areInner (children.map (s.toNode fuel)) = true := by
  rw [areInner_iff, List.forall_mem_map]
  intro child member
  exact shape.toNode_inner fuel child (ordinary child member)

/-- Among the children of a node the first part of the frame is found after nodes that are none. -/
theorem split (shape : Shape stage s) (fuel : Nat) {children rest : List Nat} {part : Nat}
    (framed : (children.filter fun child => !s.isOrdinary child) = part :: rest) :
    ∃ (before : List Node) (after : List Nat), children.map (s.toNode fuel) =
        before ++ s.toNode fuel part :: after.map (s.toNode fuel) ∧
      areInner before = true ∧ (after.filter fun child => !s.isOrdinary child) = rest := by
  obtain ⟨first, after, rfl, ordinary, _, left⟩ := List.filter_eq_cons_iff.mp framed
  refine ⟨first.map (s.toNode fuel), after, by simp, shape.map_inner fuel ?_, left⟩
  intro child member
  simpa using ordinary child member

/-- After the last part of the frame there is none. -/
theorem rest_inner (shape : Shape stage s) (fuel : Nat) {children : List Nat}
    (framed : (children.filter fun child => !s.isOrdinary child) = []) :
    areInner (children.map (s.toNode fuel)) = true := by
  apply shape.map_inner fuel
  intro child member
  simpa using List.filter_eq_nil_iff.mp framed child member

/-- A document with a body or framesets is finished with its frame. If there is no body, there is a
frameset.

Proof: the root element is the only part of the frame among the children of the document, the head
is the first one among the children of the root element, and the body is the only one after it. -/
theorem page (shape : Shape stage s) (wide : stage.isOpen = true) :
    ∃ page : Page, s.toDocument = page.toNode ∧ areInner page.nodes = true ∧
      (page.body = none → page.HasFrameset) := by
  obtain ⟨html, head, others, ids, htmlMember, headMember⟩ : ∃ html head others,
      stage.ids = html :: head :: others ∧ (html, "html") ∈ stage.members ∧
        (head, "head") ∈ stage.members := by
    cases stage with
    | inBody html head body => exact ⟨html, head, [body], rfl, by simp [Stage.members]⟩
    | inFrames html head => exact ⟨html, head, [], rfl, by simp [Stage.members]⟩
    | _ => cases wide
  have apart : html ≠ Sketch.root := by
    rintro rfl
    have root := shape.root
    rw [shape.members _ _ htmlMember] at root
    cases root
  obtain ⟨fuel, size⟩ : ∃ fuel, s.nodes.size = fuel + 2 := by
    have inside := shape.member_inside htmlMember
    have positive : 0 < html := Nat.pos_of_ne_zero apart
    exact ⟨s.nodes.size - 2, by omega⟩
  -- The document and the root element are cut at the parts of the frame.
  have rootFramed : s.framed Sketch.root = [html] := by
    rw [shape.framed, Stage.children, if_pos rfl, ids]
    rfl
  have htmlFramed : s.framed html = head :: others := by
    rw [shape.framed, Stage.children, if_neg apart, ids]
    simp
  obtain ⟨before, after, document, beforeInner, afterFramed⟩ :=
    shape.split (fuel + 2) rootFramed
  obtain ⟨start, later, root, startInner, laterFramed⟩ := shape.split (fuel + 1) htmlFramed
  have afterInner := shape.rest_inner (fuel + 2) afterFramed
  have headInner : areInner (s.below fuel head) = true := by
    apply shape.rest_inner fuel
    apply shape.framed_apart
    all_goals simp [shape.members _ _ headMember]
  have whole : s.toDocument = .document (before ++
      .element "html" (s.attributes html)
        (start ++ .element "head" (s.attributes head) (s.below fuel head) ::
          later.map (s.toNode (fuel + 1))) ::
      after.map (s.toNode (fuel + 2))) := by
    have outline := shape.root
    rw [Sketch.outline] at outline
    rw [toDocument, size, toNode]
    cases kind : (s.node Sketch.root).kind with
    | document =>
      simp only [document, shape.toNode_member htmlMember, below, root,
        shape.toNode_member headMember]
    | _ =>
      rw [kind] at outline
      cases outline
  cases stage with
  | inBody html' head' body =>
    obtain ⟨rfl, rfl, rfl⟩ : html' = html ∧ head' = head ∧ [body] = others := by
      simpa [Stage.ids, Stage.members] using ids
    have bodyMember : (body, "body") ∈ (Stage.inBody html' head' body).members := by
      simp [Stage.members]
    obtain ⟨between, rest, middle, betweenInner, restFramed⟩ :=
      shape.split (fuel + 1) laterFramed
    have bodyInner : areInner (s.below fuel body) = true := by
      apply shape.rest_inner fuel
      apply shape.framed_apart
      all_goals simp [shape.members _ _ bodyMember]
    refine ⟨⟨before, s.attributes html', start, ⟨s.attributes head', s.below fuel head'⟩, between,
      some (⟨s.attributes body, s.below fuel body⟩, rest.map (s.toNode (fuel + 1))),
      after.map (s.toNode (fuel + 2))⟩, ?_, ?_, by simp⟩
    · rw [whole, middle, shape.toNode_member bodyMember]
      rfl
    · have restInner := shape.rest_inner (fuel + 1) restFramed
      simp [Page.nodes, Page.bodyNodes, beforeInner, startInner, headInner, betweenInner,
        bodyInner, restInner, afterInner]
  | inFrames html' head' =>
    obtain ⟨rfl, rfl, rfl⟩ : html' = html ∧ head' = head ∧ [] = others := by
      simpa [Stage.ids, Stage.members] using ids
    refine ⟨⟨before, s.attributes html', start, ⟨s.attributes head', s.below fuel head'⟩,
      later.map (s.toNode (fuel + 1)), none, after.map (s.toNode (fuel + 2))⟩, ?_, ?_, ?_⟩
    · rw [whole, Page.toNode, Page.ending, List.append_nil]
      rfl
    · have laterInner := shape.rest_inner (fuel + 1) laterFramed
      simp [Page.nodes, Page.bodyNodes, beforeInner, startInner, headInner, laterInner,
        afterInner]
    · -- The frameset is not the head, so it is before or after it.
      intro _
      obtain ⟨holder, frameset, member, inside, outline⟩ := shape.frameset rfl
      have element := toNode_outline outline fuel
      have same : holder = html' := by simpa [Stage.members] using member
      have apart : s.toNode (fuel + 1) frameset ≠ s.toNode (fuel + 1) head' := by
        rw [element, shape.toNode_member headMember]
        simp
      have found := List.mem_map_of_mem (f := s.toNode (fuel + 1)) inside
      rw [same, root, List.mem_append, List.mem_cons] at found
      refine ⟨s.attributes frameset, s.below fuel frameset, ?_⟩
      rw [← element, List.mem_append]
      tauto
  | _ => cases wide

end Shape

end Sketch

/-- Every text is read as a document with its frame. If there is no body, there is a frameset. -/
theorem parse_page (source : String) :
    ∃ page : Page, parse source = page.toNode ∧ areInner page.nodes = true ∧
      (page.body = none → page.HasFrameset) := by
  obtain ⟨s, stage, document, wide, shape⟩ := Builder.parse_complete source
  rw [document]
  exact shape.page wide

end Pagefold.Html
