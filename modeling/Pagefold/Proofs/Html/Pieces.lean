import Mathlib
import Pagefold.Html.Emit

/-!
# The pieces of a written document

A document is written piece by piece: tags, texts and bundles, in the order of the tree. Which pieces
there are depends on the document alone; what is written for a piece depends on the emitter and, for
the attributes of a tag, on the classes that have been named before.
-/
namespace Pagefold.Html

/-- A piece of a written document. -/
inductive Piece where
  | doctype (name : String)
  | opening (name : String) (attributes : List Attribute)
  | text (mode : TextMode) (content : String)
  /-- The bundle that stands at the end of an element, if there is one. -/
  | bundle (element : String)
  | closing (name : String)

mutual

/-- The pieces of a node, if its text is written in a mode. -/
def Node.pieces (mode : TextMode) : Node → List Piece
  | .document children => piecesOf mode children
  | .doctype name => [.doctype name]
  | .text content => [.text mode content]
  | .comment _ => []
  | .element name attributes children =>
    if isInlined name attributes then []
    else if children.isEmpty && selfClosing.contains name then [.opening name attributes]
    else
      .opening name attributes :: piecesOf (mode.inside name) children ++
        [.bundle name, .closing name]

/-- The pieces of a list of nodes. -/
def piecesOf (mode : TextMode) : List Node → List Piece
  | [] => []
  | n :: rest => n.pieces mode ++ piecesOf mode rest

end

/-- The pieces of nodes in a row are those of the first ones and then those of the others. -/
theorem piecesOf_append (mode : TextMode) (first second : List Node) :
    piecesOf mode (first ++ second) = piecesOf mode first ++ piecesOf mode second := by
  induction first with
  | nil => rfl
  | cons n rest inductionHypothesis =>
    rw [List.cons_append, piecesOf, piecesOf, inductionHypothesis, List.append_assoc]

namespace Emitter

variable {n : Type → Type} [Monad n] (token : String → n String) (e : Emitter)

/-- What is written for a piece. -/
def write : Piece → n String
  | .doctype name => pure ("<!DOCTYPE " ++ (if name = "" then "html" else name) ++ ">")
  | .opening name attrs => do
    let written ← attributes token e name attrs attrs
    pure ("<" ++ name ++ written ++ ">")
  | .text mode content => pure (e.text mode content)
  | .bundle element => pure (e.bundle element)
  | .closing name => pure ("</" ++ name ++ ">")

/-- What is written for pieces in a row. -/
def writeAll : List Piece → n String
  | [] => pure ""
  | piece :: rest => do
    let first ← write token e piece
    let others ← writeAll rest
    pure (first ++ others)

variable [LawfulMonad n]

/-- Pieces in a row are written one part after the other. -/
theorem writeAll_append (first second : List Piece) :
    writeAll token e (first ++ second) = (do
      let a ← writeAll token e first
      let b ← writeAll token e second
      pure (a ++ b)) := by
  induction first with
  | nil => simp only [List.nil_append, writeAll, pure_bind, String.empty_append, bind_pure]
  | cons piece rest inductionHypothesis =>
    rw [List.cons_append]
    simp only [writeAll, inductionHypothesis, bind_assoc, pure_bind, String.append_assoc]

mutual

/-- The markup of a node is what is written for its pieces. -/
theorem node_pieces (mode : TextMode) : (n : Node) →
    node token e mode n = writeAll token e (n.pieces mode)
  | .document children => by rw [node, Node.pieces, nodes_pieces mode children]
  | .doctype name => by simp [node, Node.pieces, writeAll, write]
  | .text content => by simp [node, Node.pieces, writeAll, write]
  | .comment content => by simp [node, Node.pieces, writeAll]
  | .element name attrs children => by
    rw [node, Node.pieces]
    cases inlined : isInlined name attrs with
    | true => simp [writeAll]
    | false =>
      cases empty : children.isEmpty && selfClosing.contains name with
      | true => simp [writeAll, write]
      | false =>
        have last : writeAll token e [.bundle name, .closing name] =
            pure (e.bundle name ++ ("</" ++ name ++ ">")) := by
          simp [writeAll, write]
        simp only [Bool.false_eq_true, if_false]
        rw [List.cons_append, writeAll, writeAll_append, last, ← nodes_pieces _ children]
        simp only [write, bind_assoc, pure_bind, String.append_assoc]

/-- The markup of nodes is what is written for their pieces. -/
theorem nodes_pieces (mode : TextMode) : (all : List Node) →
    nodes token e mode all = writeAll token e (piecesOf mode all)
  | [] => by rw [nodes, piecesOf, writeAll]
  | n :: rest => by
    rw [nodes, piecesOf, writeAll_append, ← node_pieces mode n, ← nodes_pieces mode rest]

end

/-- What stands in a document for a piece, whichever classes have been named before. -/
def Writes (e : Emitter) (s : String) : Piece → Prop
  | .doctype name => s = "<!DOCTYPE " ++ (if name = "" then "html" else name) ++ ">"
  | .opening name _ => ∃ attributes, s = "<" ++ name ++ attributes ++ ">"
  | .text mode content => s = e.text mode content
  | .bundle element => s = e.bundle element
  | .closing name => s = "</" ++ name ++ ">"

/-- Pieces are written with what stands for each of them. -/
theorem writeAll_writes (token : String → StateM Class.Table String) (pieces : List Piece)
    (classes : Class.Table) :
    ∃ parts, ((writeAll token e pieces).run classes).1 = String.join parts ∧
      List.Forall₂ e.Writes parts pieces := by
  induction pieces generalizing classes with
  | nil => exact ⟨[], rfl, List.Forall₂.nil⟩
  | cons piece rest inductionHypothesis =>
    obtain ⟨parts, joined, each⟩ :=
      inductionHypothesis ((write token e piece).run classes).2
    refine ⟨((write token e piece).run classes).1 :: parts, ?_, ?_⟩
    · rw [String.join_cons, ← joined]
      rfl
    · refine List.Forall₂.cons ?_ each
      cases piece with
      | opening name attrs => exact ⟨_, rfl⟩
      | _ => rfl

/-- A document is what is written for its pieces. -/
theorem emit_pieces (document : Node) (classes : Class.Table) :
    ∃ parts, (e.emit document classes).1 = String.join parts ∧
      List.Forall₂ e.Writes parts (document.pieces .collapse) := by
  let token (name : String) : StateM Class.Table String := modifyGet (·.associate name .html)
  have whole : e.emit document classes =
      (writeAll token e (document.pieces .collapse)).run classes := by
    rw [← node_pieces]
    rfl
  rw [whole]
  exact writeAll_writes e token _ classes

end Emitter

end Pagefold.Html
