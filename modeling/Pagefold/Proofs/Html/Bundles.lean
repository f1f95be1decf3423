import Mathlib
import Pagefold.Html.Emit
import Pagefold.Proofs.Html.Frame

/-!
# Where the bundles are written

A document has one head, and the style is written once, at its end. The script is written once, at the
end of the body, if there is one; it is not written at all where framesets stand in place of a body.
-/
namespace Pagefold.Html.Emitter

variable {n : Type → Type} [Monad n] (token : String → n String) (e : Emitter)

/-- The same without the bundles. -/
def unbundled : Emitter := { e with css := "", js := "" }

/-- The markup of a head or a body with a bundle at its end. -/
def part (name : String) (part : Part) (bundle : String) : n String := do
  let written ← attributes token e name part.attributes part.attributes
  let content ← nodes token e .collapse part.children
  pure ("<" ++ name ++ written ++ ">" ++ content ++ bundle ++ "</" ++ name ++ ">")

/-- The markup of the body with what follows it in the root element. -/
def ending (script : String) : Option (Part × List Node) → n String
  | none => pure ""
  | some (body, rest) => do
    let first ← part token e "body" body script
    let others ← nodes token e .collapse rest
    pure (first ++ others)

/-- The markup of a page with a style at the end of its head and a script at the end of its body. -/
def page (p : Page) (style script : String) : n String := do
  let before ← nodes token e .collapse p.before
  let written ← attributes token e "html" p.attributes p.attributes
  let start ← nodes token e .collapse p.start
  let head ← part token e "head" p.head style
  let between ← nodes token e .collapse p.between
  let ending ← ending token e script p.body
  let after ← nodes token e .collapse p.after
  pure (before ++ "<html" ++ written ++ ">" ++ start ++ head ++ between ++ ending ++ "</html>" ++
    after)

/-! ## What the bundles do not change -/

/-- Attributes are written without the bundles. -/
theorem attributes_unbundled (element : String) (all attrs : List Attribute) :
    attributes token e.unbundled element all attrs = attributes token e element all attrs := by
  induction attrs with
  | nil => rfl
  | cons a rest inductionHypothesis =>
    rw [attributes, attributes, inductionHypothesis]
    rfl

/-- There is a bundle only in a head or a body. -/
theorem bundle_elsewhere (name : String) (head : name ≠ "head") (body : name ≠ "body") :
    e.bundle name = "" := by
  simp [bundle, head, body]

mutual

/-- What a frame holds is written without the bundles. -/
theorem node_unbundled (mode : TextMode) : (n : Node) → n.isInner = true →
    node token e.unbundled mode n = node token e mode n
  | .document _ => nofun
  | .doctype _ => fun _ => rfl
  | .text _ => fun _ => rfl
  | .comment _ => fun _ => rfl
  | .element name attrs children => fun inner => by
    obtain ⟨named, others⟩ := Bool.and_eq_true_iff.mp inner
    have apart : name ≠ "head" ∧ name ≠ "body" := by simpa using named
    rw [node, node, nodes_unbundled _ children others, attributes_unbundled,
      bundle_elsewhere e name apart.1 apart.2, bundle_elsewhere _ name apart.1 apart.2]

/-- Nodes that a frame holds are written without the bundles. -/
theorem nodes_unbundled (mode : TextMode) : (all : List Node) → areInner all = true →
    nodes token e.unbundled mode all = nodes token e mode all
  | [] => fun _ => rfl
  | n :: rest => fun inner => by
    obtain ⟨first, others⟩ := Bool.and_eq_true_iff.mp inner
    rw [nodes, nodes, node_unbundled mode n first, nodes_unbundled mode rest others]

end

/-! ## The frame with the bundles -/

/-- An element of the frame is written with its bundle. -/
theorem node_part (name : String) (member : name ∈ ["head", "body"]) (p : Part)
    (inner : areInner p.children = true) :
    node token e .collapse (p.toNode name) = part token e.unbundled name p (e.bundle name) := by
  have plain : isInlined name p.attributes = false ∧ selfClosing.contains name = false ∧
      TextMode.collapse.inside name = .collapse := by
    fin_cases member <;> exact ⟨rfl, rfl, rfl⟩
  obtain ⟨apart, closed, mode⟩ := plain
  rw [Part.toNode, node, part, apart, closed, mode, Bool.and_false, attributes_unbundled,
    nodes_unbundled token e _ _ inner]
  rfl

/-- The root element is written with its children and no bundle. -/
theorem node_root (attrs : List Attribute) (children : List Node) :
    node token e .collapse (.element "html" attrs children) = (do
      let written ← attributes token e "html" attrs attrs
      let content ← nodes token e .collapse children
      pure ("<html" ++ written ++ ">" ++ content ++ "</html>")) := by
  have apart : isInlined "html" attrs = false := rfl
  have closed : selfClosing.contains "html" = false := rfl
  have mode : TextMode.collapse.inside "html" = .collapse := rfl
  have bare : e.bundle "html" = "" := bundle_elsewhere e "html" (by decide) (by decide)
  rw [node, apart, closed, mode, Bool.and_false, bare]
  simp only [Bool.false_eq_true, if_false, String.append_empty, String.append_assoc]
  rfl

/-- The body is written with its bundle and what follows it without one. -/
theorem nodes_ending (p : Page) (inner : areInner p.bodyNodes = true) :
    nodes token e .collapse p.ending = ending token e.unbundled (e.bundle "body") p.body := by
  rw [Page.bodyNodes] at inner
  rw [Page.ending]
  cases body : p.body with
  | none => rfl
  | some both =>
    obtain ⟨body', rest⟩ := both
    rw [body] at inner
    obtain ⟨first, others⟩ := Bool.and_eq_true_iff.mp ((areInner_append _ _).symm.trans inner)
    simp only [nodes, ending]
    rw [node_part token e "body" (by decide) body' first, nodes_unbundled token e _ rest others]

variable [LawfulMonad n]

/-- Nodes in a row are written one after the other. -/
theorem nodes_append (mode : TextMode) (first second : List Node) :
    nodes token e mode (first ++ second) = (do
      let a ← nodes token e mode first
      let b ← nodes token e mode second
      pure (a ++ b)) := by
  induction first with
  | nil => simp only [List.nil_append, nodes, pure_bind, String.empty_append, bind_pure]
  | cons n rest inductionHypothesis =>
    rw [List.cons_append]
    simp only [nodes, inductionHypothesis, bind_assoc, pure_bind, String.append_assoc]

/-- A page is written with the two bundles in their places, and without them in any other. -/
theorem node_page (p : Page) (inner : areInner p.nodes = true) :
    node token e .collapse p.toNode =
      page token e.unbundled p (e.bundle "head") (e.bundle "body") := by
  simp only [Page.nodes, areInner_append, Bool.and_eq_true] at inner
  obtain ⟨⟨⟨⟨⟨before, start⟩, head⟩, between⟩, body⟩, after⟩ := inner
  rw [Page.toNode, node, page]
  simp only [nodes_append, nodes, node_root, node_part token e "head" (by decide) p.head head,
    nodes_ending token e p body, nodes_unbundled token e _ _ before,
    nodes_unbundled token e _ _ start, nodes_unbundled token e _ _ between,
    nodes_unbundled token e _ _ after, attributes_unbundled, bind_assoc, pure_bind,
    String.append_assoc]

/-- Every text is read as a document with its frame, and the document is written with the style once,
as the last child of the head, and with the script once, as the last child of the body. Nothing else in
it depends on the bundles. The script is not written only where a frameset stands in place of the
body. -/
theorem bundles_written (source : String) (css : e.css ≠ "") (js : e.js ≠ "")
    (classes : Class.Table) :
    ∃ p : Page, parse source = p.toNode ∧ areInner p.nodes = true ∧
      (p.body = none → p.HasFrameset) ∧
      e.emit (parse source) classes =
        (page (fun name => modifyGet (·.associate name .html)) e.unbundled p
          ("<style>" ++ escapeClosing "style" e.css ++ "</style>")
          ("<script>" ++ escapeClosing "script" e.js ++ "</script>") :
            StateM Class.Table String).run classes := by
  obtain ⟨p, document, inner, frameset⟩ := parse_page source
  refine ⟨p, document, inner, frameset, ?_⟩
  have style : e.bundle "head" = "<style>" ++ escapeClosing "style" e.css ++ "</style>" :=
    if_pos ⟨rfl, css⟩
  have script : e.bundle "body" = "<script>" ++ escapeClosing "script" e.js ++ "</script>" := by
    simp [bundle, js]
  rw [emit, markup, document, node_page _ e p inner, style, script]

/-- The bundles of a document without any text. -/
theorem bundles_written_empty :
    ("@layer a;" ≠ "" ∧ "f()" ≠ "") ∧ ∃ p : Page, parse "" = p.toNode ∧ areInner p.nodes = true ∧
      (p.body = none → p.HasFrameset) ∧
      emit { css := "@layer a;", js := "f()" } (parse "") {} =
        (page (fun name => modifyGet (·.associate name .html))
          (unbundled { css := "@layer a;", js := "f()" }) p
          ("<style>" ++ escapeClosing "style" "@layer a;" ++ "</style>")
          ("<script>" ++ escapeClosing "script" "f()" ++ "</script>") :
            StateM Class.Table String).run {} :=
  ⟨⟨by decide, by decide⟩,
    bundles_written { css := "@layer a;", js := "f()" } "" (by decide) (by decide) {}⟩

/-- A page of framesets has no body, and the script is not written. -/
theorem frameset_unscripted :
    (emit { css := "@layer a;", js := "f()" } (parse "<frameset>") {}).1 =
      "<html><head><style>@layer a;</style></head><frameset></frameset></html>" := by
  decide +kernel

end Pagefold.Html.Emitter
