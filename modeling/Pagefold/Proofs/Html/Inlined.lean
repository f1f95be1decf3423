import Pagefold.Html.Emit
import Pagefold.Html.Extract
import Pagefold.Html.Parse
import Pagefold.Proofs.Html.RawText

/-!
# Inlined bundles

What is read of a bundle that was put into a document. Only the closing tag in small letters is
escaped in a bundle: the reader takes a bundle as the whole content of its element exactly when it
has no closing tag in other letters and, if it is a script, leaves no script tag open in a comment.
-/
namespace Pagefold.Html

open Text Lexer

/-! ## The text of a bundle -/

/-- The closing tag in small letters is what is replaced. -/
theorem escapeClosing_toList (name bundle : String) :
    (escapeClosing name bundle).toList =
      replace ('<' :: '/' :: name.toList) ('<' :: '\\' :: '/' :: name.toList) bundle.toList := by
  rw [escapeClosing, String.toList_ofList, String.toList_append, String.toList_append]
  rfl

/-- Of a bundle that is not empty something is written. -/
theorem escapeClosing_nonempty (name bundle : String) (nonempty : bundle ≠ "") :
    (escapeClosing name bundle).toList ≠ [] := by
  rw [escapeClosing_toList]
  exact replace_nonempty _ (mt String.toList_eq_nil_iff.mp nonempty)

section Escaped

variable {name : String} (small : Small name) (bundle : String)
include small

/-- What a test finds in an escaped bundle is what it found in the bundle apart from the closing
tag, if it looks no further than the next `<`. -/
theorem escaped_positions (f : List Char → Bool)
    (outside : ∀ s, s.head? ≠ some '<' → f s = false)
    (near : ∀ c s, f (c :: ahead s) = f (c :: s))
    (refused : ∀ s, f ('<' :: '\\' :: s) = false) :
    (∀ t, t <:+ (escapeClosing name bundle).toList → f t = false) ↔
      ∀ t, t <:+ bundle.toList → f t = true → '<' :: '/' :: name.toList <+: t := by
  have letters : '<' ∉ name.toList := small.absent '<' (by decide)
  have seen : ∀ c s t, ahead s = ahead t → f (c :: s) = f (c :: t) := by
    intro c s t same
    rw [← near c s, ← near c t, same]
  have refusedHere : ∀ s, f ('<' :: ('\\' :: '/' :: name.toList) ++ s) = false := fun s => refused _
  rw [escapeClosing_toList]
  exact replace_positions f outside seen refusedHere (by simpa using letters)
    (by simpa using letters) _

/-- No closing tag in small letters is left in an escaped bundle. -/
theorem escaped_word :
    ∀ t, t <:+ (escapeClosing name bundle).toList → ¬ '<' :: '/' :: name.toList <+: t := by
  have letters : '<' ∉ '/' :: name.toList := by simpa using small.absent '<' (by decide)
  have gone := (escaped_positions small bundle
    (fun t => (after? ('<' :: '/' :: name.toList) t).isSome) (opening_marked '<' _)
    (fun c s => opening_ahead '<' c _ s letters) (fun s => by simp [after?])).mpr
      fun t _ found => (after_isSome _ t).mp found
  intro t position
  simp [← after_isSome, gone t position]

/-- An escaped bundle holds no end tag exactly when all end tags of the bundle are in small
letters. -/
theorem escaped_endTags :
    (∀ t, t <:+ (escapeClosing name bundle).toList → atEndTag name t = false) ↔
      ∀ t, t <:+ bundle.toList → atEndTag name t = true → '<' :: '/' :: name.toList <+: t :=
  escaped_positions small bundle (atEndTag name) (atEndTag_marked name)
    (fun c s => atEndTag_ahead name c s (small.absent '<' (by decide))) (fun _ => rfl)

/-- An escaped bundle opens a comment exactly when the bundle does. -/
theorem escaped_comments :
    (∀ t, t <:+ (escapeClosing name bundle).toList → (after? "<!--".toList t).isSome = false) ↔
      ∀ t, t <:+ bundle.toList → (after? "<!--".toList t).isSome = false := by
  have comment : "<!--".toList = '<' :: ['!', '-', '-'] := by decide
  rw [comment]
  refine (escaped_positions small bundle _ (opening_marked '<' _)
    (fun c s => opening_ahead '<' c _ s (by decide)) (fun s => by simp [after?])).trans ?_
  refine forall₂_congr fun t _ => ?_
  have apart : (after? ['<', '!', '-', '-'] t).isSome = true →
      ¬ '<' :: '/' :: name.toList <+: t := by
    rw [after_isSome]
    rintro ⟨rest, rfl⟩
    simp
  rw [← Bool.not_eq_true]
  exact ⟨fun closes found => apart found (closes found), fun none found => absurd found none⟩

end Escaped

/-! ## Where a bundle stands -/

/-- A node that is written as part of a document: the way to it passes no element that is
inlined. -/
inductive Node.Shown (part : Node) : Node → Prop
  | here : Shown part part
  | document {children : List Node} {n : Node} (member : n ∈ children) (inside : Shown part n) :
      Shown part (.document children)
  | element {name : String} {attributes : List Attribute} {children : List Node} {n : Node}
      (written : isInlined name attributes = false) (member : n ∈ children)
      (inside : Shown part n) : Shown part (.element name attributes children)

namespace Emitter

variable (e : Emitter) (token : String → StateM Class.Table String)

/-- What is written of a node is part of what is written of a list with the node. -/
theorem nodes_split (mode : TextMode) (n : Node) (all : List Node) (member : n ∈ all)
    (classes : Class.Table) :
    ∃ before after classes', ((nodes token e mode all).run classes).1 =
      before ++ ((node token e mode n).run classes').1 ++ after := by
  induction all generalizing classes with
  | nil => cases member
  | cons first rest inductionHypothesis =>
    have written : ((nodes token e mode (first :: rest)).run classes).1 =
        ((node token e mode first).run classes).1 ++
          ((nodes token e mode rest).run ((node token e mode first).run classes).2).1 := by
      rw [nodes]
      rfl
    rw [written]
    rcases List.mem_cons.mp member with rfl | later
    · exact ⟨"", _, classes, by rw [String.empty_append]⟩
    · obtain ⟨before, after, classes', split⟩ := inductionHypothesis later
        ((node token e mode first).run classes).2
      refine ⟨((node token e mode first).run classes).1 ++ before, after, classes', ?_⟩
      rw [split]
      simp only [String.append_assoc]

/-- What is written of an element that has an end tag ends with its bundle and the tag. -/
theorem node_element (mode : TextMode) (name : String) (attributes : List Attribute)
    (children : List Node) (written : isInlined name attributes = false)
    (closed : (children.isEmpty && selfClosing.contains name) = false) (classes : Class.Table) :
    ∃ opening classes',
      ((node token e mode (.element name attributes children)).run classes).1 =
        opening ++ ((nodes token e (mode.inside name) children).run classes').1 ++ e.bundle name ++
          "</" ++ name ++ ">" := by
  rw [node]
  simp only [written, closed, Bool.false_eq_true, if_false]
  exact ⟨"<" ++ name ++ ((Emitter.attributes token e name attributes attributes).run classes).1 ++
    ">", ((Emitter.attributes token e name attributes attributes).run classes).2, rfl⟩

/-- What is written of a node is part of what is written of a document that shows it. -/
theorem node_shown (part document : Node) (shown : part.Shown document) (mode : TextMode)
    (classes : Class.Table) :
    ∃ before after mode' classes', ((node token e mode document).run classes).1 =
      before ++ ((node token e mode' part).run classes').1 ++ after := by
  induction shown generalizing mode classes with
  | here => exact ⟨"", "", mode, classes, by simp⟩
  | document member inside inductionHypothesis =>
    obtain ⟨before, after, table, split⟩ := nodes_split e token mode _ _ member classes
    obtain ⟨before', after', mode', classes', within⟩ := inductionHypothesis mode table
    refine ⟨before ++ before', after' ++ after, mode', classes', ?_⟩
    rw [node, split, within]
    simp only [String.append_assoc]
  | @element name attributes children n written member inside inductionHypothesis =>
    have hasChild : (children.isEmpty && selfClosing.contains name) = false := by
      simp [List.ne_nil_of_mem member]
    obtain ⟨opening, table, whole⟩ :=
      node_element e token mode name attributes children written hasChild classes
    obtain ⟨before, after, table', split⟩ := nodes_split e token (mode.inside name) _ _ member table
    obtain ⟨before', after', mode', classes', within⟩ :=
      inductionHypothesis (mode.inside name) table'
    refine ⟨opening ++ before ++ before',
      after' ++ after ++ e.bundle name ++ "</" ++ name ++ ">", mode', classes', ?_⟩
    rw [whole, split, within]
    simp only [String.append_assoc]

/-- The bundle of an element that is shown stands in the markup, right before the end tag of the
element. -/
theorem emit_bundle (document : Node) (classes : Class.Table) (name : String)
    (attributes : List Attribute) (children : List Node)
    (written : isInlined name attributes = false) (closed : selfClosing.contains name = false)
    (shown : (Node.element name attributes children).Shown document) :
    ∃ before after, (e.emit document classes).1 =
      before ++ (e.bundle name ++ ("</" ++ name ++ ">" ++ after)) := by
  let token (name : String) : StateM Class.Table String := modifyGet (·.associate name .html)
  have whole : (e.emit document classes).1 =
      ((node token e .collapse document).run classes).1 := rfl
  obtain ⟨before, after, mode, table, split⟩ :=
    node_shown e token _ _ shown .collapse classes
  obtain ⟨opening, table', last⟩ := node_element e token mode name attributes children written
    (by rw [closed, Bool.and_false]) table
  refine ⟨before ++ (opening ++ ((nodes token e (mode.inside name) children).run table').1),
    after, ?_⟩
  rw [whole, split, last]
  simp only [String.append_assoc]

end Emitter

/-! ## How a bundle is read -/

/-- A token that is dealt with at once leaves the state that the present mode gives. -/
theorem Builder.take_done (b b' : Builder) (token : Token) (html : Foreign.takes b token = false)
    (done : b.inMode token = .done b') : b.take token = b' := by
  have step : b.step token = .done b' := by rw [Builder.step, html]; exact done
  rw [Builder.take, Builder.settle, step]

/-- In the head and in the body of a document, the start tag of the name makes the parser read what
follows in a way of its own. -/
def Turns (name : String) (reading : Reading) : Prop :=
  ∀ b : Builder, b.mode = .inHead ∨ b.mode = .inBody →
    Foreign.takes b (.startTag { name }) = false →
    (b.feed (.startTag { name })).reading = reading

/-- An element that is read in a way of its own in the head is so in the body, if the body leaves
it to the head. -/
theorem turns_raw (name : String) (reading : Reading)
    (head : ∀ b, Builder.inHead b (.startTag { name }) = .done (b.insertRaw { name } reading))
    (body : ∀ b, Builder.startInBody b { name } = Builder.inHead b (.startTag { name })) :
    Turns name reading := by
  intro b mode html
  have fed : b.feed (.startTag { name }) =
      ({ b with skipsLineFeed := false } : Builder).insertRaw { name } reading := by
    refine Builder.take_done _ _ _ html ?_
    rcases mode with inHead | inBody
    · simp only [Builder.inMode, inHead, head]
    · simp only [Builder.inMode, inBody, Builder.inBody, body, head]
  rw [fed]
  rfl

theorem turns_style : Turns "style" (.raw "style") := turns_raw _ _ (fun _ => rfl) (fun _ => rfl)

theorem turns_script : Turns "script" .script := turns_raw _ _ (fun _ => rfl) (fun _ => rfl)

/-- All end tags of the name in a text are in small letters, so that each is one that is escaped. -/
def SmallEndTags (name : String) (s : List Char) : Prop :=
  ∀ t, t <:+ s → atEndTag name t = true → '<' :: '/' :: name.toList <+: t

instance (name : String) (s : List Char) : Decidable (SmallEndTags name s) :=
  decidable_of_iff
    (∀ t ∈ s.tails, atEndTag name t = true → '<' :: '/' :: name.toList <+: t)
    (forall_congr' fun t => by rw [List.mem_tails])

/-- The reader takes an inlined bundle as the whole content of its element under these conditions
and no others. A style, which stands at the end of each head that is written: its end tags are in
small letters. A script, which stands at the end of each body: when it has been escaped, it is
contained, which means that its end tags are in small letters if it opens no comment.

Proof: the reader leaves the content of an element at the first end tag that counts. That is the one
that was written after the bundle exactly when there is none in the escaped bundle. There the end
tags are those of the bundle apart from the ones in small letters, and comments are opened where the
bundle opens them. -/
theorem bundles_enclosed (e : Emitter) (document : Node) (classes : Class.Table) :
    (∀ attributes children, (Node.element "head" attributes children).Shown document → e.css ≠ "" →
      ∃ before after, (e.emit document classes).1 =
          before ++ "<style>" ++ escapeClosing "style" e.css ++ "</style></head>" ++ after ∧
        Turns "style" (.raw "style") ∧
        (Encloses (.raw "style") "style" (escapeClosing "style" e.css).toList
            ("</head>" ++ after).toList ↔
          SmallEndTags "style" e.css.toList)) ∧
    ∀ attributes children, (Node.element "body" attributes children).Shown document → e.js ≠ "" →
      ∃ before after, (e.emit document classes).1 =
          before ++ "<script>" ++ escapeClosing "script" e.js ++ "</script></body>" ++ after ∧
        Turns "script" .script ∧
        (Encloses .script "script" (escapeClosing "script" e.js).toList
            ("</body>" ++ after).toList ↔
          Contained .top (escapeClosing "script" e.js).toList) ∧
        ((∀ t, t <:+ e.js.toList → (after? "<!--".toList t).isSome = false) →
          (Contained .top (escapeClosing "script" e.js).toList ↔
            SmallEndTags "script" e.js.toList)) := by
  constructor
  · intro attributes children shown nonempty
    obtain ⟨before, after, split⟩ :=
      e.emit_bundle document classes "head" attributes children rfl rfl shown
    have bundled : e.bundle "head" = "<style>" ++ escapeClosing "style" e.css ++ "</style>" := by
      simp [Emitter.bundle, nonempty]
    refine ⟨before, after, ?_, turns_style, ?_⟩
    · rw [split, bundled]
      simp only [String.append_assoc]
      rfl
    · rw [raw_encloses small_style _ _ (escapeClosing_nonempty _ _ nonempty)]
      exact escaped_endTags small_style e.css
  · intro attributes children shown nonempty
    obtain ⟨before, after, split⟩ :=
      e.emit_bundle document classes "body" attributes children rfl rfl shown
    have bundled : e.bundle "body" = "<script>" ++ escapeClosing "script" e.js ++ "</script>" := by
      simp [Emitter.bundle, nonempty]
    refine ⟨before, after, ?_, turns_script, ?_, fun plain => ?_⟩
    · rw [split, bundled]
      simp only [String.append_assoc]
      rfl
    · exact script_encloses _ _ (escapeClosing_nonempty _ _ nonempty)
    · rw [contained_plain _ ((escaped_comments small_script e.js).mpr plain)]
      exact escaped_endTags small_script e.js

/-- Bundles whose closing tags are in small letters are the whole content of their elements. -/
theorem bundles_enclosed_small :
    let e : Emitter := { css := "p{}</style>", js := "s='</script>'" }
    let document : Node := .document
      [.element "html" [] [.element "head" [] [], .element "body" [] []]]
    (∃ before after, (e.emit document {}).1 =
        before ++ "<style>" ++ "p{}<\\/style>" ++ "</style></head>" ++ after ∧
      Encloses (.raw "style") "style" "p{}<\\/style>".toList ("</head>" ++ after).toList) ∧
    ∃ before after, (e.emit document {}).1 =
        before ++ "<script>" ++ "s='<\\/script>'" ++ "</script></body>" ++ after ∧
      Encloses .script "script" "s='<\\/script>'".toList ("</body>" ++ after).toList := by
  intro e document
  have shown (name : String)
      (member : Node.element name [] [] ∈ [Node.element "head" [] [], .element "body" [] []]) :
      (Node.element name [] []).Shown document :=
    .document (List.mem_singleton_self _) (.element rfl member .here)
  have style : escapeClosing "style" e.css = "p{}<\\/style>" := by decide +kernel
  have script : escapeClosing "script" e.js = "s='<\\/script>'" := by decide +kernel
  obtain ⟨styles, scripts⟩ := bundles_enclosed e document {}
  rw [style] at styles
  rw [script] at scripts
  constructor
  · obtain ⟨before, after, written, -, whole⟩ :=
      styles [] [] (shown "head" List.mem_cons_self) (by decide)
    exact ⟨before, after, written, whole.mpr (by decide +kernel)⟩
  · obtain ⟨before, after, written, -, whole, plain⟩ :=
      scripts [] [] (shown "body" (List.mem_cons_of_mem _ List.mem_cons_self)) (by decide)
    have comments : ∀ t ∈ e.js.toList.tails, (after? "<!--".toList t).isSome = false := by
      decide +kernel
    have contained := (plain fun t position => comments t ((List.mem_tails t _).mpr position)).mpr
      (by decide +kernel)
    exact ⟨before, after, written, whole.mpr contained⟩

/-- A closing tag in other letters ends its element, and a script tag that is left open in a comment
does not let the script end: of what is written for a page with these bundles, the reader takes less
than the bundle, or more. -/
theorem bundles_not_enclosed :
    let document := parse "<head></head><body></body>"
    let capitals : Emitter := { css := "p{}</Style>", js := "s='</SCRIPT>'" }
    let comment : Emitter := { js := "s='<!--<script>'" }
    (capitals.emit document {}).1 =
        "<html><head><style>p{}</Style></style></head><body><script>s='</SCRIPT>'</script>" ++
          "</body></html>" ∧
      (parse (capitals.emit document {}).1).styles = [.inline "p{}"] ∧
      (parse (capitals.emit document {}).1).scripts = [.inline "s='"] ∧
      ¬ Encloses .script "script" (escapeClosing "script" capitals.js).toList
          "</body></html>".toList ∧
      (comment.emit document {}).1 =
        "<html><head></head><body><script>s='<!--<script>'</script></body></html>" ∧
      (parse (comment.emit document {}).1).scripts =
        [.inline "s='<!--<script>'</script></body></html>"] := by
  intro document capitals comment
  refine ⟨by decide +kernel, by decide +kernel, by decide +kernel, fun enclosed => ?_,
    by decide +kernel, by decide +kernel⟩
  exact absurd (enclosed.takes false) (by decide +kernel)

end Pagefold.Html
