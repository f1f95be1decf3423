import Mathlib
import Pagefold.Proofs.Html.Encoding
import Pagefold.Proofs.Html.Undisturbed

/-!
# Preformatted elements

Text that is taken up inside of a preformatted element becomes the one text of the element, whether
the element is a block of the body, an area for text, or foreign. A line feed at the start of the text
is dropped, unless the element is foreign. Until its end tag the element and its text are a part of
the document that nothing outside of it refers to but as a whole.
-/
namespace Pagefold.Html

open Builder

/-- A text without the line feed at its start. -/
def dropLineFeed : List Char → List Char
  | '\n' :: rest => rest
  | s => s

/-- A text that starts with anything else is kept. -/
theorem dropLineFeed_kept {s : List Char} (apart : s.head? ≠ some '\n') : dropLineFeed s = s := by
  unfold dropLineFeed
  split
  · exact absurd rfl apart
  · rfl

/-- The nodes of a text: none if it is empty. -/
def textNodes (s : List Char) : List Node := if s = [] then [] else [.text (String.ofList s)]

/-! ## An element with one text -/

namespace Builder

open Sketch

variable {b : Builder} {id : Nat} {below : List Nat} {head : Option Nat} {content : List Char}

/-- What an element holds: nothing, or one text. -/
inductive Content (s : Sketch) (id : Nat) : List Nat → List Char → Prop
  | none (childless : (s.node id).children = #[]) : Content s id [] []
  | text {child : Nat} {content : List Char} (some : content ≠ [])
      (only : (s.node id).children = #[child])
      (written : (s.node child).kind = .text (String.ofList content)) :
      Content s id [child] content

/-- An element with one text, or without any, is an island, and the elements around it are outside
of it. -/
def Filled (s : Sketch) (id : Nat) (below : List Nat) (head : Option Nat)
    (content : List Char) : Prop :=
  ∃ ids, Around ⟨s, id :: ids, id⟩ s below head ∧ Content s id ids content

/-- A new element that is put at the end of another one is empty. -/
theorem Filled.begin (apart : b.Apart .none false) (space : Space) (name : String)
    (attributes : List Attribute) {parent : Nat} (inside : parent < b.sketch.nodes.size) :
    Filled ((b.sketch.add (.element space name attributes none)).2.append parent
      b.sketch.nodes.size) b.sketch.nodes.size b.opened b.head [] := by
  have size := size_appendNew (s := b.sketch) (.element space name attributes none) parent
  have outside (id : Nat) (old : b.sketch.Outside [] id) :
      Sketch.Outside [b.sketch.nodes.size] ((b.sketch.add
        (.element space name attributes none)).2.append parent b.sketch.nodes.size) id :=
    ⟨old.made.trans_le (by omega), by simpa using old.made.ne⟩
  refine ⟨[], ⟨apart.intact.begin space name attributes inside,
    fun id member => outside id (apart.opened id member),
    fun id found => outside id (apart.head id found)⟩, .none ?_⟩
  rw [node_appendNew _ inside, if_pos rfl]

/-- Text at the end of the element becomes part of its one text. -/
theorem Filled.more {s : Sketch} (filled : Filled s id below head content) {run : String}
    (some : run ≠ "") :
    Filled (s.appendText id run) id below head (content ++ run.toList) ∧
      ((s.appendText id run).node id).kind = (s.node id).kind := by
  obtain ⟨ids, around, held⟩ := filled
  have inside : id < s.nodes.size := around.intact.made id List.mem_cons_self
  cases held with
  | none childless =>
    have appended : s.appendText id run = (s.add (.text run)).2.append id s.nodes.size := by
      rw [appendText, childless]
      rfl
    rw [appended]
    have size := size_appendNew (s := s) (.text run) id
    have outside (other : Nat) (old : s.Outside [id] other) :
        Sketch.Outside [id, s.nodes.size] ((s.add (.text run)).2.append id s.nodes.size)
          other := by
      have made := old.made
      have apart := old.apart
      exact ⟨by omega, by grind⟩
    have node := node_appendNew (s := s) (.text run) inside
    refine ⟨⟨[s.nodes.size], ⟨around.intact.firstText run,
      fun other member => outside other (around.opened other member),
      fun other found => outside other (around.head other found)⟩, .text ?_ ?_ ?_⟩, ?_⟩
    · simpa using some
    · rw [node, if_neg inside.ne, if_pos rfl, childless]
      rfl
    · rw [node, if_pos rfl]
      simp
    · rw [node, if_neg inside.ne, if_pos rfl]
  | @text child content filled only written =>
    have text : s.isText child = true := by rw [isText, written]
    have appended : s.appendText id run = s.extend child run := by
      rw [appendText, only]
      simp [text]
    rw [appended]
    have size : (s.extend child run).nodes.size = s.nodes.size := size_update _
    have made : child < s.nodes.size := around.intact.made child (by simp)
    have apart : id ≠ child := by
      rintro rfl
      have solid := around.intact.solid List.mem_cons_self
      dsimp only at solid
      rw [text] at solid
      cases solid
    refine ⟨⟨[child], ⟨around.intact.moreText text run,
      fun other member => (around.opened other member).later size.ge,
      fun other found => (around.head other found).later size.ge⟩, .text ?_ ?_ ?_⟩, ?_⟩
    · simp [filled]
    · rw [Sketch.extend, node_update, if_neg (fun same => apart same.1), only]
    rotate_left
    · rw [Sketch.extend, node_update, if_neg (fun same => apart same.1)]
    · rw [Sketch.extend, node_update, if_pos ⟨rfl, made⟩, written]
      simp

/-! ## Text inside of an element -/

/-- Modes in which text and most tags are taken up as in the body. -/
def flowModes : List Mode := [.inBody, .inCaption, .inCell]

/-- No formatting element is to be opened again. -/
def Settled (b : Builder) : Prop := ∀ entry, b.formatting.head? = some entry → b.isSettled entry = true

/-- In a settled state nothing is opened again. -/
theorem reconstruct_settled (settled : b.Settled) : b.reconstruct = b := by
  have none : b.formatting.takeWhile (!b.isSettled ·) = [] := by
    cases formatting : b.formatting with
    | nil => rfl
    | cons entry rest =>
      have first := settled entry (by rw [formatting]; rfl)
      simp [first]
  have all : b.formatting.dropWhile (!b.isSettled ·) = b.formatting := by
    conv_rhs => rw [← List.takeWhile_append_dropWhile (p := (!b.isSettled ·)) (l := b.formatting)]
    rw [none, List.nil_append]
  unfold Builder.reconstruct
  dsimp only
  rw [none, all]
  rfl

/-- How the text of the innermost element is taken up, if the element is preformatted: as text of the
body, as raw text, or as foreign text. -/
inductive Takes (b : Builder) (below : List Nat) : Space → String → Prop
  | block {name : String} (known : name ∈ ["pre", "listing"]) (mode : b.mode ∈ flowModes)
      (settled : b.Settled) (reading : b.reading = .data) : Takes b below .html name
  | area (mode : b.mode = .text) (reading : b.reading = .escapable "textarea") :
      Takes b below .html "textarea"
  | foreign {space : Space} (other : space ≠ .html) (some : below ≠ []) (reading : b.reading = .data) :
      Takes b below space "textarea"

/-- What else may change while text is taken up does not matter. -/
theorem Takes.unseen {space : Space} {name : String} (takes : Takes b below space name) (s : Sketch)
    (allowsFrameset skipsLineFeed : Bool) :
    Takes { b with sketch := s, allowsFrameset, skipsLineFeed } below space name := by
  cases takes with
  | block known mode settled reading => exact .block known mode settled reading
  | area mode reading => exact .area mode reading
  | foreign other some reading => exact .foreign other some reading

/-- A token that is dealt with in one step. -/
theorem take_step {b' : Builder} {token : Token} (done : b.step token = .done b') :
    b.take token = b' := by
  rw [take, settle, done]

/-- The innermost element is preformatted and holds one text, or none. -/
structure Inside (b : Builder) (id : Nat) (below : List Nat) (space : Space) (name : String)
    (attributes : List Attribute) (content : List Char) : Prop where
  opened : b.opened = id :: below
  element : (b.sketch.node id).kind = .element space name attributes none
  straight : b.fosters = false
  takes : Takes b below space name
  filled : Filled b.sketch id below b.head content

namespace Inside

variable {space : Space} {name : String} {attributes : List Attribute}

theorem named (inside : Inside b id below space name attributes content) :
    b.nameOf id = (space, name) := by
  rw [Builder.nameOf, elementName?, inside.element]
  rfl

/-- Text goes into the element. -/
theorem insertText (inside : Inside b id below space name attributes content) (run : String) :
    b.insertText run = { b with sketch := b.sketch.appendText id run } := by
  have current : b.current = id := by rw [Builder.current, inside.opened]; rfl
  have spot : b.spotIn id = .last id := by
    rw [spotIn, inside.straight, Sketch.inside, inside.element]
    rfl
  rw [Builder.insertText, current, spot]

theorem current (inside : Inside b id below space name attributes content) : b.current = id := by
  rw [Builder.current, inside.opened]
  rfl

/-- Tokens inside of an HTML element are not foreign. -/
theorem html (inside : Inside b id below .html name attributes content) (token : Token) :
    Foreign.takes b token = false := by
  unfold Foreign.takes
  dsimp only
  rw [inside.current, inside.named]
  exact if_pos (Or.inr (Or.inr rfl))

/-- Text and the end tag inside of a foreign area are foreign. -/
theorem foreign (inside : Inside b id below space "textarea" attributes content)
    (other : space ≠ .html) {token : Token}
    (plain : (∃ run, token = .blanks run ∨ token = .text run) ∨ ∃ name, token = .endTag name) :
    Foreign.takes b token = true := by
  have text : b.isMathText id = false := by
    rw [isMathText, inside.named]
    simp
  have holder : b.isHtmlHolder id = false := by
    rw [isHtmlHolder, inside.named]
    simp
  unfold Foreign.takes
  dsimp only
  rw [inside.current, inside.named, inside.opened, text, holder]
  rcases plain with ⟨run, rfl | rfl⟩ | ⟨name, rfl⟩ <;> simp [other, Foreign.isText]

theorem unseen (inside : Inside b id below space name attributes content)
    (allowsFrameset skipsLineFeed : Bool) :
    Inside { b with allowsFrameset, skipsLineFeed } id below space name attributes content :=
  ⟨inside.opened, inside.element, inside.straight, inside.takes.unseen b.sketch _ _, inside.filled⟩

/-- A run of text is taken up in one step, and only the text of the document changes. -/
theorem take_text (inside : Inside b id below space name attributes content) {token : Token}
    {run : String} (text : token = .blanks run ∨ token = .text run) :
    ∃ allowsFrameset, b.take token =
      { b with sketch := b.sketch.appendText id run, allowsFrameset } := by
  have forbidden := inside.unseen false b.skipsLineFeed
  have done : ∃ allowsFrameset, b.step token =
      .done { b with sketch := b.sketch.appendText id run, allowsFrameset } := by
    cases inside.takes with
    | block known mode settled reading =>
      have body : b.step token = inBody b token := by
        rw [Builder.step, inside.html token]
        simp only [flowModes, List.mem_cons, List.not_mem_nil, or_false] at mode
        rcases text with rfl | rfl <;> rcases mode with mode | mode | mode <;>
          simp [inMode, mode, inCaption, inCell]
      rw [body]
      rcases text with rfl | rfl
      · exact ⟨b.allowsFrameset, by rw [inBody, reconstruct_settled settled, inside.insertText]⟩
      · exact ⟨false, by rw [inBody, reconstruct_settled settled, forbidden.insertText]⟩
    | area mode reading =>
      refine ⟨b.allowsFrameset, ?_⟩
      rw [Builder.step, inside.html token]
      rcases text with rfl | rfl <;> simp [inMode, mode, inText, inside.insertText]
    | foreign other some reading =>
      rw [Builder.step, inside.foreign other (Or.inl ⟨run, text⟩)]
      rcases text with rfl | rfl
      · exact ⟨b.allowsFrameset, by simp [inForeign, inside.insertText]⟩
      · exact ⟨false, by simp [inForeign, forbidden.insertText]⟩
  obtain ⟨allowsFrameset, same⟩ := done
  exact ⟨allowsFrameset, take_step same⟩

/-- A run of text becomes part of the text of the element. -/
theorem more (inside : Inside b id below space name attributes content) {token : Token}
    {run : String} (text : token = .blanks run ∨ token = .text run) (some : run ≠ "") :
    Inside (b.take token) id below space name attributes (content ++ run.toList) ∧
      (b.take token).skipsLineFeed = b.skipsLineFeed := by
  obtain ⟨allowsFrameset, taken⟩ := inside.take_text text
  obtain ⟨filled, kind⟩ := inside.filled.more some
  rw [taken]
  exact ⟨⟨inside.opened, kind.trans inside.element, inside.straight,
    inside.takes.unseen _ _ _, filled⟩, rfl⟩

/-- Closing elements through the innermost one leaves those around it. -/
theorem popThrough_innermost (inside : Inside b id below space name attributes content)
    {last : Nat → Bool} (found : last id = true) : b.popThrough last = { b with opened := below } := by
  rw [popThrough, inside.opened, List.dropWhile_cons_of_neg (by simp [found])]
  rfl

/-- The end tag of the element closes it, and the document stays as it is. -/
theorem take_end (inside : Inside b id below space name attributes content) :
    (b.take (.endTag name)).sketch = b.sketch ∧ (b.take (.endTag name)).opened = below ∧
      (b.take (.endTag name)).head = b.head ∧ (b.take (.endTag name)).fosters = false := by
  have done : ∃ b', b.step (.endTag name) = .done b' ∧ b'.sketch = b.sketch ∧
      b'.opened = below ∧ b'.head = b.head ∧ b'.fosters = false := by
    cases inside.takes with
    | block known mode settled reading =>
      have named : b.isNamed name id = true := by simp [isNamed, inside.named]
      have body : b.step (.endTag name) =
          .done (if b.hasInScope name then (b.closeImplied "").popNamed name else b) := by
        rw [Builder.step, inside.html _]
        simp only [flowModes, List.mem_cons, List.not_mem_nil, or_false] at mode known
        rcases known with rfl | rfl <;> rcases mode with mode | mode | mode <;>
          simp only [inMode, mode] <;> rfl
      have found : b.hasInScope name = true := by
        rw [hasInScope, inScope, inside.opened, List.find?_cons_of_pos (by simp [named])]
        exact named
      have kept : b.closeImplied "" = b := by
        have ended : b.isOneOf impliedEnds id = false := by
          rw [isOneOf, inside.named]
          simp only [List.mem_cons, List.not_mem_nil, or_false] at known
          rcases known with rfl | rfl <;> decide
        have same : b.opened.dropWhile (fun id => b.isOneOf impliedEnds id && !b.isNamed "" id) =
            b.opened := by
          rw [inside.opened, List.dropWhile_cons_of_neg (by simp [ended])]
        rw [closeImplied, same]
      refine ⟨_, body, ?_⟩
      rw [if_pos found, kept, popNamed, inside.popThrough_innermost named]
      exact ⟨rfl, rfl, rfl, inside.straight⟩
    | area mode reading =>
      refine ⟨{ b.pop with mode := b.resumed, reading := .data }, ?_, rfl, ?_, rfl,
        inside.straight⟩
      · rw [Builder.step, inside.html _]
        simp [inMode, mode, inText]
      · rw [pop, inside.opened]
        rfl
    | foreign other some reading =>
      obtain ⟨outer, rest, split⟩ := List.exists_cons_of_ne_nil some
      have target : Foreign.endTarget b "textarea" true b.opened = .closes id := by
        rw [inside.opened, split, Foreign.endTarget, inside.named]
        · simp [Text.sameLetters]
        · exact List.cons_ne_nil _ _
      refine ⟨b.popThrough (· == id), ?_, ?_⟩
      · rw [Builder.step, inside.foreign other (Or.inr ⟨_, rfl⟩)]
        simp [inForeign, target]
      · rw [inside.popThrough_innermost (by simp)]
        exact ⟨rfl, rfl, rfl, inside.straight⟩
  obtain ⟨b', same, closed⟩ := done
  rw [take_step same]
  exact closed

end Inside

/-! ## The start of an element -/

/-- How the start tag of a preformatted element is taken up, and whether a line feed after it is
dropped: as a block or an area of the body, or as a foreign area. -/
inductive Opening (b : Builder) (tag : Tag) : Bool → Prop
  | block (known : tag.name ∈ ["pre", "listing"]) (mode : b.mode ∈ Mode.inTemplate :: flowModes)
      (html : Foreign.takes b (.startTag tag) = false)
      (settled : b.closeOpenParagraph.Settled) : Opening b tag true
  | area (name : tag.name = "textarea") (mode : b.mode ∈ Mode.inTemplate :: flowModes)
      (html : Foreign.takes b (.startTag tag) = false) : Opening b tag true
  | foreign (name : tag.name = "textarea") (taken : Foreign.takes b (.startTag tag) = true)
      (opens : tag.selfClosing = false) : Opening b tag false

/-- A new element that is not moved out of a table is open and empty. -/
theorem insertForeign_filled (apart : b.Apart .none false) (space : Space)
    {tag : Tag} (plain : tag.name ≠ "template") :
    ∃ s, b.insertForeign space tag =
        { b with sketch := s, opened := b.sketch.nodes.size :: b.opened } ∧
      (s.node b.sketch.nodes.size).kind = .element space tag.name tag.attributes none ∧
      Filled s b.sketch.nodes.size b.opened b.head [] := by
  have created : b.create space tag = (b.sketch.nodes.size, { b with
      sketch := (b.sketch.add (.element space tag.name tag.attributes none)).2 }) := by
    rw [create, if_neg (fun both => plain both.2)]
    rfl
  have made := (apart.intact.inside_outside apart.current).made
  have placed : Builder.place
      { b with sketch := (b.sketch.add (.element space tag.name tag.attributes none)).2 }
      b.sketch.nodes.size b.current = { b with
        sketch := (b.sketch.add (.element space tag.name tag.attributes none)).2.append
          (b.sketch.inside b.current) b.sketch.nodes.size } := by
    rw [Builder.place, spotIn, apart.2]
    simp only [Bool.false_and, Bool.false_eq_true, if_false, Sketch.inside, node_add,
      apart.current.made.ne]
  refine ⟨(b.sketch.add (.element space tag.name tag.attributes none)).2.append
    (b.sketch.inside b.current) b.sketch.nodes.size, ?_, ?_, .begin apart _ _ _ made⟩
  · rw [insertForeign, created]
    dsimp only
    exact congrArg (fun b' : Builder => { b' with opened := b.sketch.nodes.size :: b'.opened }) placed
  · rw [node_appendNew _ made, if_pos rfl]

/-- A block that is preformatted. -/
theorem startInBody_block {tag : Tag} (name : tag.name = "pre" ∨ tag.name = "listing")
    (b : Builder) : startInBody b tag = .done { b.closeOpenParagraph.insert tag with
      skipsLineFeed := true, allowsFrameset := false } := by
  obtain ⟨_, attributes, selfClosing⟩ := tag
  rcases name with rfl | rfl <;> rfl

/-- An area for text. -/
theorem startInBody_area {tag : Tag} (name : tag.name = "textarea") (b : Builder) :
    startInBody b tag = .done { b.insertRaw tag (.escapable "textarea") with
      skipsLineFeed := true, allowsFrameset := false } := by
  obtain ⟨_, attributes, selfClosing⟩ := tag
  obtain rfl := name
  rfl

/-- The start tag of a preformatted element is taken up as in the body, also at the start of a
template. -/
theorem take_flow {tag : Tag} (known : tag.name ∈ preformatted)
    (mode : b.mode ∈ Mode.inTemplate :: flowModes)
    (html : Foreign.takes b (.startTag tag) = false) {f : Builder → Builder}
    (done : ∀ b, startInBody b tag = .done (f b)) :
    ∃ mode ∈ flowModes, ∃ templateModes,
      b.take (.startTag tag) = f { b with mode, templateModes } := by
  simp only [preformatted, List.mem_cons, List.not_mem_nil, or_false] at known
  rcases List.mem_cons.mp mode with template | flow
  · refine ⟨.inBody, by decide, .inBody :: b.templateModes.drop 1, ?_⟩
    have first : b.step (.startTag tag) = .again
        { b with mode := .inBody, templateModes := .inBody :: b.templateModes.drop 1 } := by
      rw [Builder.step, html]
      rcases known with name | name | name <;>
        simp [inMode, template, inTemplateMode, name, isHeadContent, retarget, redirect]
    have second : Builder.step
        { b with mode := .inBody, templateModes := .inBody :: b.templateModes.drop 1 }
        (.startTag tag) = .done
          (f { b with mode := .inBody, templateModes := .inBody :: b.templateModes.drop 1 }) := by
      have same : Foreign.takes
          { b with mode := .inBody, templateModes := .inBody :: b.templateModes.drop 1 }
          (.startTag tag) = false := html
      rw [Builder.step, same]
      exact done _
    rw [take, settle, first]
    dsimp only
    rw [settle, second]
  · have body : b.step (.startTag tag) = startInBody b tag := by
      rw [Builder.step, html]
      simp only [flowModes, List.mem_cons, List.not_mem_nil, or_false] at flow
      rcases known with name | name | name <;> rcases flow with flow | flow | flow <;>
        simp [inMode, flow, inBody, inCaption, inCell, name]
    exact ⟨b.mode, flow, b.templateModes, take_step (body.trans (done b))⟩

/-- Whether a paragraph is closed does not depend on the modes. -/
theorem closeOpenParagraph_modes (b : Builder) (mode : Mode) (templateModes : List Mode)
    (skipsLineFeed : Bool) :
    closeOpenParagraph { b with mode, templateModes, skipsLineFeed } =
      { b.closeOpenParagraph with mode, templateModes, skipsLineFeed } := by
  have same : inScope { b with mode, templateModes, skipsLineFeed }
      (endsButtonScope { b with mode, templateModes, skipsLineFeed })
      (isNamed { b with mode, templateModes, skipsLineFeed } "p") =
        b.inScope b.endsButtonScope (b.isNamed "p") := rfl
  rw [closeOpenParagraph, closeOpenParagraph, same]
  split <;> rfl

/-- Closing a paragraph only changes which elements are open. -/
theorem closeOpenParagraph_opened (b : Builder) :
    b.closeOpenParagraph = { b with opened := b.closeOpenParagraph.opened } := by
  unfold closeOpenParagraph
  split <;> rfl

/-- An element that is opened leaves nothing to be opened again. -/
theorem Settled.cover (settled : b.Settled) (s : Sketch) (allowsFrameset skipsLineFeed : Bool) :
    Settled { b with sketch := s, opened := id :: b.opened, allowsFrameset, skipsLineFeed } := by
  intro entry first
  have before := settled entry first
  cases entry with
  | marker => rfl
  | element other tag =>
    simp only [isSettled, List.contains_eq_mem, decide_eq_true_eq] at before ⊢
    exact List.mem_cons_of_mem _ before

/-- A block that is preformatted is open and empty after its start tag. -/
theorem block_inside (apart : b.Apart .none false)
    (reading : b.reading = .data) (flow : b.mode ∈ flowModes) {tag : Tag}
    (known : tag.name ∈ ["pre", "listing"]) (settled : b.closeOpenParagraph.Settled) :
    Inside { b.closeOpenParagraph.insert tag with skipsLineFeed := true, allowsFrameset := false }
      b.sketch.nodes.size b.closeOpenParagraph.opened .html tag.name tag.attributes [] := by
  have plain : tag.name ≠ "template" := by
    intro same
    rw [same] at known
    exact absurd known (by decide)
  have closed := apart.closeOpenParagraph
  rw [closeOpenParagraph_opened] at settled closed ⊢
  generalize b.closeOpenParagraph.opened = opened at settled closed ⊢
  obtain ⟨s, inserted, kind, filled⟩ :=
    insertForeign_filled (b := { b with opened }) closed .html plain
  rw [Builder.insert, inserted]
  exact ⟨rfl, kind, apart.2, .block known flow (settled.cover s false true) reading, filled⟩

/-- An area for text is open and empty after its start tag. -/
theorem area_inside (apart : b.Apart .none false) {tag : Tag}
    (name : tag.name = "textarea") :
    Inside { b.insertRaw tag (.escapable "textarea") with
        skipsLineFeed := true, allowsFrameset := false }
      b.sketch.nodes.size b.opened .html tag.name tag.attributes [] := by
  obtain ⟨s, inserted, kind, filled⟩ :=
    insertForeign_filled apart .html (by rw [name]; decide)
  rw [insertRaw, Builder.insert, inserted]
  refine ⟨rfl, kind, apart.2, ?_, filled⟩
  rw [name]
  exact .area rfl rfl

/-- An area in foreign content is open and empty after its start tag, and nothing is dropped. -/
theorem foreign_inside (apart : b.Apart .none false)
    (reading : b.reading = .data) {tag : Tag} (name : tag.name = "textarea")
    (taken : Foreign.takes b (.startTag tag) = true) (opens : tag.selfClosing = false) :
    ∃ space attributes,
      Inside (b.take (.startTag tag)) b.sketch.nodes.size b.opened space tag.name attributes [] ∧
        (b.take (.startTag tag)).skipsLineFeed = b.skipsLineFeed := by
  obtain ⟨other, some⟩ : (b.nameOf b.current).1 ≠ .html ∧ b.opened ≠ [] := by
    unfold Foreign.takes at taken
    dsimp only at taken
    split at taken
    · cases taken
    · next outside =>
      rw [not_or, not_or] at outside
      exact ⟨outside.2.2, by simpa using outside.2.1⟩
  have unbroken : Foreign.breaksOut tag = false := by
    rw [Foreign.breaksOut, name]
    rfl
  have step : b.step (.startTag tag) = .done (b.insertForeign (b.nameOf b.current).1
      (Foreign.respellAttributes (b.nameOf b.current).1 tag)) := by
    have respelled : Foreign.respell Foreign.svgElements "textarea" = "textarea" := by
      decide +kernel
    have same : (if (b.nameOf b.current).1 = .svg then
        { tag with name := Foreign.respell Foreign.svgElements tag.name } else tag) = tag := by
      obtain ⟨_, attributes, selfClosing⟩ := tag
      obtain rfl := name
      rw [respelled, ite_self]
    have started : Foreign.startTag b tag = Foreign.insert b (b.nameOf b.current).1 tag :=
      congrArg (Foreign.insert b (b.nameOf b.current).1) same
    have opened : Foreign.insert b (b.nameOf b.current).1 tag =
        b.insertForeign (b.nameOf b.current).1
          (Foreign.respellAttributes (b.nameOf b.current).1 tag) :=
      if_neg (by simp [Foreign.respellAttributes, opens])
    rw [Builder.step, taken, ← opened, ← started]
    simp [inForeign, unbroken]
  have plain : (Foreign.respellAttributes (b.nameOf b.current).1 tag).name ≠ "template" := by
    rw [Foreign.respellAttributes, name]
    decide
  obtain ⟨s, inserted, kind, filled⟩ := insertForeign_filled apart (b.nameOf b.current).1 plain
  rw [take_step step, inserted]
  refine ⟨(b.nameOf b.current).1, _, ⟨rfl, kind, apart.2, ?_, filled⟩, rfl⟩
  rw [name]
  exact .foreign other some reading

/-- After its start tag, a preformatted element is open and empty. -/
theorem Opening.inside {tag : Tag} {drops : Bool} (opening : Opening b tag drops)
    (apart : b.Apart .none false) (reading : b.reading = .data) :
    ∃ below space attributes,
      Inside (b.feed (.startTag tag)) b.sketch.nodes.size below space tag.name attributes [] ∧
        (b.feed (.startTag tag)).skipsLineFeed = drops := by
  have fed : b.feed (.startTag tag) = take { b with skipsLineFeed := false } (.startTag tag) := rfl
  rw [fed]
  cases opening with
  | block known mode html settled =>
    have name : tag.name = "pre" ∨ tag.name = "listing" := by simpa using known
    obtain ⟨mode, flow, templateModes, taken⟩ := take_flow
      (b := { b with skipsLineFeed := false })
      (by rcases name with name | name <;> rw [name] <;> decide) mode html
      (startInBody_block name)
    rw [taken]
    refine ⟨_, _, _, block_inside (b := { b with skipsLineFeed := false, mode, templateModes })
      apart reading flow known ?_, rfl⟩
    rw [closeOpenParagraph_modes]
    exact settled
  | area name mode html =>
    obtain ⟨mode, flow, templateModes, taken⟩ := take_flow
      (b := { b with skipsLineFeed := false }) (by rw [name]; decide) mode html
      (startInBody_area name)
    rw [taken]
    exact ⟨_, _, _, area_inside (b := { b with skipsLineFeed := false, mode, templateModes })
      apart name, rfl⟩
  | foreign name taken opens =>
    exact ⟨_, foreign_inside (b := { b with skipsLineFeed := false }) apart reading name
      taken opens⟩

/-! ## The text of an element -/

/-- A token that is a run of text, of which no part is dropped but a line feed among blanks. -/
def IsRun (token : Token) : Prop :=
  ∃ run : String, run ≠ "" ∧
    (token = .blanks run ∨ token = .text run ∧ run.toList.head? ≠ some '\n')

/-- A run holds some text. -/
theorem IsRun.text_ne {token : Token} (text : IsRun token) : Lexer.textOf token ≠ [] := by
  obtain ⟨run, some, rfl | ⟨rfl, _⟩⟩ := text <;> simpa [Lexer.textOf] using some

/-- A token after the first one of an element is taken up as it is. -/
theorem feed_take (skips : b.skipsLineFeed = false) {token : Token} (text : IsRun token) :
    b.feed token = b.take token := by
  have same : { b with skipsLineFeed := false } = b := by rw [← skips]
  obtain ⟨run, _, rfl | ⟨rfl, _⟩⟩ := text
  · unfold feed
    dsimp only
    rw [same, skips]
  · unfold feed
    dsimp only
    rw [same]

namespace Inside

variable {space : Space} {name : String} {attributes : List Attribute}

/-- All runs of a text become the text of the element. -/
theorem feed_all (inside : Inside b id below space name attributes content)
    (skips : b.skipsLineFeed = false) (tokens : List Token) (runs : ∀ token ∈ tokens, IsRun token) :
    Inside (tokens.foldl feed b) id below space name attributes
      (content ++ tokens.flatMap Lexer.textOf) := by
  induction tokens generalizing b content with
  | nil => simpa using inside
  | cons token rest inductionHypothesis =>
    obtain ⟨first, others⟩ := List.forall_mem_cons.mp runs
    rw [List.foldl_cons, feed_take skips first, List.flatMap_cons, ← List.append_assoc]
    obtain ⟨run, some, text⟩ := first
    have own : Lexer.textOf token = run.toList := by
      rcases text with rfl | ⟨rfl, _⟩ <;> rfl
    obtain ⟨longer, kept⟩ := inside.more (text.imp_right And.left) some
    rw [own]
    exact inductionHypothesis longer (kept.trans skips) others

/-- A line feed at the start of the first run is dropped if it is to be. -/
theorem feed_one (inside : Inside b id below space name attributes []) {token : Token}
    (text : IsRun token) :
    Inside (b.feed token) id below space name attributes
        (if b.skipsLineFeed then dropLineFeed (Lexer.textOf token) else Lexer.textOf token) ∧
      (b.feed token).skipsLineFeed = false := by
  have begun := inside.unseen b.allowsFrameset false
  cases skips : b.skipsLineFeed with
  | false =>
    rw [feed_take skips text]
    obtain ⟨run, some, rfl | ⟨rfl, _⟩⟩ := text
    · exact (inside.more (Or.inl rfl) some).imp_right (·.trans skips)
    · exact (inside.more (Or.inr rfl) some).imp_right (·.trans skips)
  | true =>
    obtain ⟨run, some, rfl | ⟨rfl, apart⟩⟩ := text
    · rw [if_pos rfl, Lexer.textOf, feed, skips]
      split
      · next alone =>
        rw [alone]
        exact ⟨begun, rfl⟩
      · next rest alone _ split =>
        rw [split]
        have some : String.ofList rest ≠ "" := by simpa using alone
        have longer := begun.more (Or.inl rfl) some
        simpa [dropLineFeed] using longer
      · next other =>
        rw [dropLineFeed_kept]
        · exact begun.more (Or.inl rfl) some
        · intro first
          obtain ⟨rest, split⟩ := List.head?_eq_some_iff.mp first
          exact other rest rfl split
    · have fed : b.feed (.text run) = take { b with skipsLineFeed := false } (.text run) := rfl
      rw [if_pos rfl, Lexer.textOf, dropLineFeed_kept apart, fed]
      exact begun.more (Or.inr rfl) some

/-- A line feed at the start of the text is dropped if it is to be. -/
theorem feed_text (inside : Inside b id below space name attributes []) (tokens : List Token)
    (runs : ∀ token ∈ tokens, IsRun token) :
    Inside (tokens.foldl feed b) id below space name attributes
      (if b.skipsLineFeed then dropLineFeed (tokens.flatMap Lexer.textOf)
        else tokens.flatMap Lexer.textOf) := by
  cases tokens with
  | nil => simpa [dropLineFeed] using inside
  | cons token rest =>
    obtain ⟨first, others⟩ := List.forall_mem_cons.mp runs
    obtain ⟨begun, skips⟩ := inside.feed_one first
    have all := begun.feed_all skips rest others
    have joined : (if b.skipsLineFeed then dropLineFeed (Lexer.textOf token) else
        Lexer.textOf token) ++ rest.flatMap Lexer.textOf =
          if b.skipsLineFeed then dropLineFeed ((token :: rest).flatMap Lexer.textOf)
            else (token :: rest).flatMap Lexer.textOf := by
      obtain ⟨c, others, split⟩ := List.exists_cons_of_ne_nil first.text_ne
      rw [List.flatMap_cons, split]
      split
      · by_cases feed : c = '\n'
        · rw [feed]
          rfl
        · rw [dropLineFeed_kept (by simpa), dropLineFeed_kept (by simpa)]
      · rfl
    rwa [← joined]

end Inside

end Builder

end Pagefold.Html
