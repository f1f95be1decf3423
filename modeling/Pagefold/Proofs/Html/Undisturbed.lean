import Mathlib
import Pagefold.Proofs.Html.Apart

/-!
# Tokens that come later

Every insertion mode takes up a token by operations that leave a finished part of the document as it
is. So the part survives every token, and the rest of the text.
-/
namespace Pagefold.Html

/-- The result of a token goes on outside of the island. -/
def Step.Apart (island : Island) (fosters : Bool) : Step → Prop
  | .done b | .again b => b.Apart island fosters

/-- A change of the result that goes on outside of the island. -/
theorem Step.Apart.map {island : Island} {before after : Bool} {step : Step}
    (apart : step.Apart island before) {f : Builder → Builder}
    (change : ∀ b : Builder, b.Apart island before → (f b).Apart island after) :
    (step.map f).Apart island after := by
  cases step <;> exact change _ apart

namespace Builder

open Sketch Step

variable {island : Island} {fosters : Bool} {b : Builder}

namespace Apart

theorem forbid (apart : b.Apart island fosters) :
    Apart island fosters { b with allowsFrameset := false } := apart

theorem mergeRoot (apart : b.Apart island fosters) (tag : Tag) :
    (b.mergeRoot tag).Apart island fosters := by
  unfold Builder.mergeRoot
  split
  · exact apart
  · exact apart.addMissing apart.outermost _

theorem endTemplate (apart : b.Apart island fosters) : b.endTemplate.Apart island fosters := by
  unfold Builder.endTemplate
  split
  · exact (apart.keep fun _ member => (List.dropWhile_sublist _).subset member).popNamed "template"
  · exact apart

theorem openHead (apart : b.Apart island fosters) (tag : Tag) :
    (b.openHead tag).Apart island fosters := by
  have opened := apart.insert tag
  refine ⟨⟨opened.intact, opened.opened, ?_⟩, opened.2⟩
  rintro id ⟨rfl⟩
  exact opened.current

theorem endItem (apart : b.Apart island fosters) (names : List String) :
    (b.endItem names).Apart island fosters := by
  unfold Builder.endItem
  dsimp only
  split
  · split
    · exact (apart.closeImplied _).popNamed _
    · exact apart
  · exact apart

theorem insertEmbedded (apart : b.Apart island fosters) (tag : Tag) :
    (b.insertEmbedded tag).Apart island fosters := by
  have inserted := apart.reconstruct.insertVoid tag
  unfold Builder.insertEmbedded
  dsimp only
  split <;> exact inserted

theorem endLink (apart : b.Apart island fosters) : b.endLink.Apart island fosters := by
  unfold Builder.endLink
  split
  · next id _ _ => exact Apart.unstack (b := (b.adopt "a").unlist id) (apart.adopt "a") id
  · exact apart

theorem endForm (apart : b.Apart island fosters) : b.endForm.Apart island fosters := by
  unfold Builder.endForm
  split
  · split
    · exact (apart.closeImplied "").popNamed "form"
    · exact apart
  · split
    · exact apart
    · next form _ =>
      dsimp only
      split
      · exact Apart.unstack (apart.closeImplied "") form
      · exact apart

/-- Elements are closed if the search for one of them has had a result. -/
theorem closeIf (apart : b.Apart island fosters) (found : Bool) (except : String)
    (last : Nat → Bool) :
    Apart island fosters (if found then (b.closeImplied except).popThrough last else b) := by
  split
  · exact (apart.closeImplied except).popThrough last
  · exact apart

theorem popIf (apart : b.Apart island fosters) (found : Bool) :
    Apart island fosters (if found then b.pop else b) := by
  split
  · exact apart.pop
  · exact apart

/-- The body is open. -/
theorem body (apart : b.Apart island fosters) {body : Nat} (found : b.body? = some body) :
    b.sketch.Outside island.ids body := by
  apply apart.opened
  unfold Builder.body? at found
  split at found
  · next outer id rest reversed =>
    split at found
    · obtain rfl := Option.some.inj found
      exact List.mem_reverse.mp (by simp [reversed])
    · cases found
  · cases found

/-- A frameset takes the place of the body. -/
theorem replaceBody (apart : b.Apart island fosters) {body : Nat} (found : b.body? = some body)
    (tag : Tag) :
    Apart island fosters (Builder.insert { b with
      sketch := b.sketch.detach body
      opened := b.opened.getLast?.toList } tag) := by
  have detached := apart.change (apart.intact.detach (apart.body found).movable)
  refine (detached.keep fun id member => ?_).insert tag
  exact List.mem_of_getLast? (Option.mem_toList.mp member)

end Apart

theorem eofInTemplate_apart (apart : b.Apart island fosters) :
    (eofInTemplate b).Apart island fosters := by
  unfold eofInTemplate
  split
  · exact apart.popNamed "template"
  · exact apart

theorem inHead_apart (apart : b.Apart island fosters) (token : Token) :
    (inHead b token).Apart island fosters := by
  unfold inHead
  split
  · exact apart.insertText _
  · exact apart.insertComment _
  · next tag =>
    split
    · exact apart.mergeRoot tag
    iterate 5 exact apart.insertVoid tag
    · exact apart.insertRaw tag _
    iterate 3 exact apart.insertRaw tag _
    · exact apart.insertRaw tag _
    · exact apart.insert tag
    · exact apart
    · exact apart.pop
  · split
    · exact apart.pop
    iterate 3 exact apart.pop
    · exact apart.endTemplate
    · exact apart
  · exact apart.pop

theorem inInitial_apart (apart : b.Apart island fosters) (token : Token) :
    (inInitial b token).Apart island fosters := by
  unfold inInitial
  split
  · exact apart
  · exact apart.commentIn apart.intact.root _
  · exact apart

theorem inBeforeHtml_apart (apart : b.Apart island fosters) (token : Token) :
    (inBeforeHtml b token).Apart island fosters := by
  have otherwise := apart.insertRoot []
  unfold inBeforeHtml
  split
  · exact apart
  · exact apart.commentIn apart.intact.root _
  · next tag =>
    split
    · exact apart.insertRoot tag.attributes
    · exact otherwise
  · split
    · exact otherwise
    · exact apart
  · exact otherwise

theorem inBeforeHead_apart (apart : b.Apart island fosters) (token : Token) :
    (inBeforeHead b token).Apart island fosters := by
  have otherwise := apart.openHead { name := "head" }
  unfold inBeforeHead
  split
  · exact apart
  · exact apart.insertComment _
  · next tag =>
    split
    · exact apart.mergeRoot tag
    · exact apart.openHead tag
    · exact otherwise
  · split
    · exact otherwise
    · exact apart
  · exact otherwise

theorem inAfterHead_apart (apart : b.Apart island fosters) (token : Token) :
    (inAfterHead b token).Apart island fosters := by
  have otherwise := apart.insertImplied "body"
  unfold inAfterHead
  split
  · exact apart.insertText _
  · exact apart.insertComment _
  · next tag =>
    split
    · exact apart.mergeRoot tag
    · exact apart.insert tag
    · exact apart.insert tag
    · exact apart
    · split
      · split
        · next head found =>
          -- The head is opened once more for the one token.
          have reopened := apart.cover (apart.head head found)
          exact (inHead_apart reopened _).map fun _ closed => closed.unstack head
        · exact apart
      · exact otherwise
  · split
    · exact apart.endTemplate
    iterate 3 exact otherwise
    · exact apart
  · exact otherwise

/-- A start tag in the body. The cases are in the order of the definition, and families of tags that
are treated alike are taken together. -/
theorem startInBody_apart (apart : b.Apart island fosters) (tag : Tag) :
    (startInBody b tag).Apart island fosters := by
  have closed := apart.closeOpenParagraph
  have resumed := apart.reconstruct
  have item (names : List String) :
      (endItem { b with allowsFrameset := false } names).closeOpenParagraph.Apart island fosters :=
    (apart.forbid.endItem names).closeOpenParagraph
  unfold startInBody
  split
  · exact apart.mergeRoot tag
  iterate 10 exact inHead_apart apart _
  · split
    · next body found =>
      split
      · exact apart
      · exact apart.addMissing (apart.body found) _
    · exact apart
  · split
    · next body found =>
      split
      · exact apart.replaceBody found tag
      · exact apart
    · exact apart
  -- Blocks close an open paragraph.
  iterate 25 exact closed.insert tag
  iterate 6 exact (closed.popIf _).insert tag
  iterate 2 exact closed.insert tag
  · split
    · exact closed.insert tag
    · split
      · exact apart
      · exact closed.insert tag
  iterate 3 exact (item _).insert tag
  · exact closed.insert tag
  · exact (apart.closeIf _ _ _).reconstruct.insert tag
  -- Formatting elements, among which links and nobr close the one before.
  · exact apart.endLink.reconstruct.insertFormatting tag
  iterate 12 exact resumed.insertFormatting tag
  · dsimp only
    split
    · exact (resumed.adopt "nobr").reconstruct.insertFormatting tag
    · exact resumed.insertFormatting tag
  iterate 3 exact resumed.insert tag
  · dsimp only
    split
    · exact apart.insert tag
    · exact closed.insert tag
  iterate 7 exact apart.insertEmbedded tag
  iterate 3 exact apart.insertVoid tag
  · exact closed.insertVoid tag
  · exact apart.insertEmbedded _
  -- Raw text.
  · exact apart.insertRaw tag (.escapable "textarea")
  · exact closed.reconstruct.forbid.insertRaw tag (.raw "xmp")
  · exact apart.forbid.insertRaw tag (.raw "iframe")
  iterate 2 exact apart.insertRaw tag (.raw tag.name)
  · exact resumed.insert tag
  iterate 2 exact (apart.popIf _).reconstruct.insert tag
  iterate 4
    dsimp only
    split
    · exact (apart.closeImplied _).insert tag
    · exact apart.insert tag
  iterate 2 exact resumed.insertSpace _ tag
  iterate 11 exact apart
  · exact resumed.insert tag

theorem endInBody_apart (apart : b.Apart island fosters) (name : String) :
    (endInBody b name).Apart island fosters := by
  unfold endInBody
  split
  · exact apart.endTemplate
  · split <;> exact apart
  · split <;> exact apart
  iterate 27 exact apart.closeIf _ _ _
  · exact apart.endForm
  · dsimp only
    split
    · exact apart.closeParagraph
    · exact (apart.insertImplied "p").closeParagraph
  iterate 9 exact apart.closeIf _ _ _
  iterate 14 exact apart.adopt _
  iterate 3
    split
    · exact (apart.closeImplied "").popNamed _
    · exact apart
  · exact apart.insertEmbedded _
  · exact apart.closeAny _

theorem inBody_apart (apart : b.Apart island fosters) (token : Token) :
    (inBody b token).Apart island fosters := by
  cases token with
  | null | doctype | fault => exact apart
  | blanks run => exact apart.reconstruct.insertText run
  | text run => exact apart.reconstruct.forbid.insertText run
  | comment content => exact apart.insertComment content
  | startTag tag => exact startInBody_apart apart tag
  | endTag name => exact endInBody_apart apart name
  | eof =>
    unfold inBody
    dsimp only
    split
    · exact apart
    · exact eofInTemplate_apart apart

theorem inText_apart (apart : b.Apart island fosters) (token : Token) :
    (inText b token).Apart island fosters := by
  unfold inText
  split
  iterate 2 exact apart.insertText _
  iterate 2 exact apart.pop
  · exact apart

/-- Content is moved out of a table for one token only. -/
theorem foster_apart (apart : b.Apart island fosters) (token : Token) :
    (foster b token).Apart island false := by
  have moved : Apart island true { b with fosters := true } := ⟨apart.1, rfl⟩
  exact (inBody_apart moved token).map fun _ kept => ⟨kept.1, rfl⟩

theorem inTableMode_apart (apart : b.Apart island false) (token : Token) :
    (inTableMode b token).Apart island false := by
  have cleared : b.toTable.Apart island false := apart.popUntil _
  unfold inTableMode
  split
  iterate 3
    split
    · exact apart
    · exact foster_apart apart _
  · exact apart.insertComment _
  · next tag =>
    split
    · exact Apart.insert (b := b.toTable.mark) cleared tag
    · exact cleared.insert tag
    · exact cleared.insertImplied "colgroup"
    iterate 3 exact cleared.insert tag
    iterate 3 exact cleared.insertImplied "tbody"
    · split
      · exact apart.popNamed "table"
      · exact apart
    iterate 3 exact inHead_apart apart _
    · split
      · exact apart.insertVoid tag
      · exact foster_apart apart _
    · split
      · exact apart
      · exact (apart.insert tag).pop
    · exact foster_apart apart _
  · split
    · split
      · exact apart.popNamed "table"
      · exact apart
    iterate 11 exact apart
    · exact apart.endTemplate
    · exact foster_apart apart _
  · exact inBody_apart apart _
  iterate 2 exact apart

/-- Text that has been collected in a table goes into it or in front of it. -/
theorem Apart.flushTableText (apart : b.Apart island false) :
    b.flushTableText.Apart island false := by
  have each : ∀ (change : Builder → Token → Builder),
      (∀ (b : Builder) token, b.Apart island false → (change b token).Apart island false) →
      ∀ (pending : List Token) (b : Builder), b.Apart island false →
        (pending.foldl change b).Apart island false := by
    intro change kept pending
    induction pending with
    | nil => exact fun _ apart => apart
    | cons token rest inductionHypothesis =>
      exact fun b apart => inductionHypothesis _ (kept b token apart)
  unfold Builder.flushTableText
  dsimp only
  split
  · refine each _ (fun b token apart => ?_) _ _ apart
    split
    · exact apart.insertText _
    · exact apart
  · refine each _ (fun b token apart => ?_) _ _ apart
    have fostered := foster_apart apart token
    generalize foster b token = result at fostered
    cases result <;> exact fostered

theorem inTableText_apart (apart : b.Apart island false) (token : Token) :
    (inTableText b token).Apart island false := by
  unfold inTableText
  split
  iterate 3 exact apart
  · exact apart.flushTableText

theorem inCaption_apart (apart : b.Apart island false) (token : Token) :
    (inCaption b token).Apart island false := by
  have closed : Apart island false ((b.closeImplied "").popNamed "caption").clearFormatting :=
    (apart.closeImplied "").popNamed "caption"
  unfold inCaption
  dsimp only
  split
  · split
    · split
      · exact closed
      · exact apart
    · exact inBody_apart apart _
  · split
    · split
      · exact closed
      · exact apart
    · split
      · exact closed
      · exact apart
    iterate 10 exact apart
    · exact inBody_apart apart _
  · exact inBody_apart apart _

theorem inColumnGroup_apart (apart : b.Apart island false) (token : Token) :
    (inColumnGroup b token).Apart island false := by
  have otherwise : Step.Apart island false
      (if b.isNamed "colgroup" b.current then redirect b.pop .inTable else done b) := by
    split
    · exact apart.pop
    · exact apart
  unfold inColumnGroup
  dsimp only
  split
  · exact apart.insertText _
  · exact apart.insertComment _
  · next tag =>
    split
    · exact apart.mergeRoot tag
    · exact apart.insertVoid tag
    · exact inHead_apart apart _
    · exact otherwise
  · split
    · split
      · exact apart.pop
      · exact apart
    · exact apart
    · exact apart.endTemplate
    · exact otherwise
  · exact inBody_apart apart _
  · exact otherwise

theorem inTableBody_apart (apart : b.Apart island false) (token : Token) :
    (inTableBody b token).Apart island false := by
  have cleared : b.toSection.Apart island false := apart.popUntil _
  have leave : Step.Apart island false
      (if b.inScope b.endsTableScope (b.isOneOf ["table", "tbody", "tfoot"]) then
        redirect b.toSection.pop .inTable
      else done b) := by
    split
    · exact cleared.pop
    · exact apart
  unfold inTableBody
  dsimp only
  split
  · next tag =>
    split
    · exact cleared.insert tag
    iterate 2 exact cleared.insertImplied "tr"
    iterate 6 exact leave
    · exact inTableMode_apart apart _
  · split
    iterate 3
      split
      · exact cleared.pop
      · exact apart
    · exact leave
    iterate 8 exact apart
    · exact inTableMode_apart apart _
  · exact inTableMode_apart apart _

theorem inRow_apart (apart : b.Apart island false) (token : Token) :
    (inRow b token).Apart island false := by
  have cleared : b.toRow.Apart island false := apart.popUntil _
  have leave : Step.Apart island false
      (if b.hasInTableScope "tr" then redirect b.toRow.pop .inTableBody else done b) := by
    split
    · exact cleared.pop
    · exact apart
  unfold inRow
  dsimp only
  split
  · next tag =>
    split
    iterate 2 exact cleared.insert tag
    iterate 7 exact leave
    · exact inTableMode_apart apart _
  · split
    · split
      · exact cleared.pop
      · exact apart
    · exact leave
    iterate 3
      split
      · exact leave
      · exact apart
    iterate 7 exact apart
    · exact inTableMode_apart apart _
  · exact inTableMode_apart apart _

theorem inCell_apart (apart : b.Apart island false) (token : Token) :
    (inCell b token).Apart island false := by
  have closed (last : Nat → Bool) :
      Apart island false ((b.closeImplied "").popThrough last).clearFormatting :=
    (apart.closeImplied "").popThrough last
  unfold inCell
  dsimp only
  split
  · split
    iterate 9
      split
      · exact closed _
      · exact apart
    · exact inBody_apart apart _
  · split
    iterate 2
      split
      · exact closed _
      · exact apart
    iterate 5 exact apart
    iterate 5
      split
      · exact closed _
      · exact apart
    · exact inBody_apart apart _
  · exact inBody_apart apart _

theorem inSelect_apart (apart : b.Apart island false) (token : Token) :
    (inSelect b token).Apart island false := by
  unfold inSelect
  dsimp only
  split
  · exact apart
  iterate 2 exact apart.insertText _
  · exact apart.insertComment _
  · next tag =>
    split
    · exact apart.mergeRoot tag
    · exact (apart.popIf _).insert tag
    · exact ((apart.popIf _).popIf _).insert tag
    · exact ((apart.popIf _).popIf _).insertVoid tag
    · split
      · exact apart.popNamed "select"
      · exact apart
    iterate 3
      split
      · exact apart.popNamed "select"
      · exact apart
    iterate 2 exact inHead_apart apart _
    · exact apart
  · split
    · refine Apart.popIf ?_ _
      split
      · exact apart.popIf _
      · exact apart
    · exact apart.popIf _
    · split
      · exact apart.popNamed "select"
      · exact apart
    · exact apart.endTemplate
    · exact apart
  · exact inBody_apart apart _
  iterate 2 exact apart

theorem inSelectInTable_apart (apart : b.Apart island false) (token : Token) :
    (inSelectInTable b token).Apart island false := by
  unfold inSelectInTable
  split
  · split
    · exact apart.popNamed "select"
    · exact inSelect_apart apart _
  · split
    · split
      · exact apart.popNamed "select"
      · exact apart
    · exact inSelect_apart apart _
  · exact inSelect_apart apart _

theorem inTemplateMode_apart (apart : b.Apart island false) (token : Token) :
    (inTemplateMode b token).Apart island false := by
  unfold inTemplateMode
  split
  iterate 4 exact inBody_apart apart _
  · split
    iterate 9 exact apart
    · split
      · exact inHead_apart apart _
      · exact apart
  · split
    · exact apart.endTemplate
    · exact apart
  · exact eofInTemplate_apart apart
  iterate 2 exact apart

theorem inAfterBody_apart (apart : b.Apart island false) (token : Token) :
    (inAfterBody b token).Apart island false := by
  unfold inAfterBody
  split
  · exact inBody_apart apart _
  · exact apart.commentIn apart.outermost _
  · split
    · exact apart.mergeRoot _
    · exact apart
  · split <;> exact apart
  iterate 2 exact apart

theorem inFrameset_apart (apart : b.Apart island false) (token : Token) :
    (inFrameset b token).Apart island false := by
  unfold inFrameset
  split
  · exact apart.insertText _
  · exact apart.insertComment _
  · next tag =>
    split
    · exact apart.mergeRoot tag
    · exact apart.insert tag
    · exact apart.insertVoid tag
    · exact inHead_apart apart _
    · exact apart
  · split
    · dsimp only
      split <;> exact apart.pop
    · exact apart
  · exact apart

theorem inAfterFrameset_apart (apart : b.Apart island false) (token : Token) :
    (inAfterFrameset b token).Apart island false := by
  unfold inAfterFrameset
  split
  · exact apart.insertText _
  · exact apart.insertComment _
  · split
    · exact apart.mergeRoot _
    · exact inHead_apart apart _
    · exact apart
  · split <;> exact apart
  · exact apart

theorem inAfterAfterBody_apart (apart : b.Apart island false) (token : Token) :
    (inAfterAfterBody b token).Apart island false := by
  unfold inAfterAfterBody
  split
  · exact inBody_apart apart _
  · exact apart.commentIn apart.intact.root _
  · split
    · exact apart.mergeRoot _
    · exact apart
  iterate 2 exact apart

theorem inAfterAfterFrameset_apart (apart : b.Apart island false) (token : Token) :
    (inAfterAfterFrameset b token).Apart island false := by
  unfold inAfterAfterFrameset
  split
  · exact inBody_apart apart _
  · exact apart.commentIn apart.intact.root _
  · split
    · exact apart.mergeRoot _
    · exact inHead_apart apart _
    · exact apart
  · exact apart

/-- Every mode goes on outside of a finished part of the document. -/
theorem inMode_apart (apart : b.Apart island false) (token : Token) :
    (inMode b token).Apart island false := by
  unfold inMode
  cases b.mode with
  | initial => exact inInitial_apart apart token
  | beforeHtml => exact inBeforeHtml_apart apart token
  | beforeHead => exact inBeforeHead_apart apart token
  | inHead => exact inHead_apart apart token
  | afterHead => exact inAfterHead_apart apart token
  | inBody => exact inBody_apart apart token
  | text => exact inText_apart apart token
  | inTable => exact inTableMode_apart apart token
  | inTableText => exact inTableText_apart apart token
  | inCaption => exact inCaption_apart apart token
  | inColumnGroup => exact inColumnGroup_apart apart token
  | inTableBody => exact inTableBody_apart apart token
  | inRow => exact inRow_apart apart token
  | inCell => exact inCell_apart apart token
  | inSelect => exact inSelect_apart apart token
  | inSelectInTable => exact inSelectInTable_apart apart token
  | inTemplate => exact inTemplateMode_apart apart token
  | afterBody => exact inAfterBody_apart apart token
  | inFrameset => exact inFrameset_apart apart token
  | afterFrameset => exact inAfterFrameset_apart apart token
  | afterAfterBody => exact inAfterAfterBody_apart apart token
  | afterAfterFrameset => exact inAfterAfterFrameset_apart apart token

theorem inForeign_apart (apart : b.Apart island false) (token : Token) :
    (inForeign b token).Apart island false := by
  have left : (Foreign.leave b).Apart island false := apart.popUntil _
  unfold inForeign
  split
  · exact apart.insertText _
  · exact apart.insertText _
  · exact apart.forbid.insertText _
  · exact apart.insertComment _
  · split
    · exact left
    · exact apart.insertSpace _ _
  · split
    · exact inMode_apart left _
    · split
      · exact apart.popThrough _
      · exact inMode_apart apart _
      · exact apart
  · exact apart

/-! ## The rest of the text -/

theorem step_apart (apart : b.Apart island false) (token : Token) :
    (step b token).Apart island false := by
  unfold step
  split
  · exact inForeign_apart apart token
  · exact inMode_apart apart token

theorem settle_apart (apart : b.Apart island false) (fuel : Nat) (token : Token) :
    (settle fuel b token).Apart island false := by
  induction fuel generalizing b with
  | zero => exact apart
  | succ fuel inductionHypothesis =>
    have stepped := step_apart apart token
    unfold settle
    split
    · next same => rwa [same] at stepped
    · next same =>
      rw [same] at stepped
      exact inductionHypothesis stepped

theorem takeDoctype_apart (apart : b.Apart island false) (d : Doctype) :
    (takeDoctype b d).Apart island false := by
  unfold takeDoctype
  split
  · obtain ⟨added, fresh⟩ := apart.intact.add (.doctype (d.name.getD "")) nofun
    exact apart.change (added.trans (added.keeps.append added.keeps.root fresh.movable))
  · exact apart

/-- Every token leaves a finished part of the document as it is. -/
theorem feed_apart (apart : b.Apart island false) (token : Token) :
    (feed b token).Apart island false := by
  have begun : Apart island false { b with skipsLineFeed := false } := apart
  unfold feed
  dsimp only
  generalize ({ b with skipsLineFeed := false } : Builder) = b at begun
  split
  · exact takeDoctype_apart begun _
  · exact begun
  · split
    · exact begun
    iterate 2 exact settle_apart begun _ _
  · exact settle_apart begun _ _

theorem feeds_apart (apart : b.Apart island false) (tokens : List Token) :
    (tokens.foldl feed b).Apart island false := by
  induction tokens generalizing b with
  | nil => exact apart
  | cons token rest inductionHypothesis => exact inductionHypothesis (feed_apart apart token)

/-- All the text that is still to be read leaves a finished part of the document as it is. -/
theorem read_apart (apart : b.Apart island false) (fuel : Nat) (s : List Char) :
    (Builder.read fuel b s).Apart island false := by
  induction fuel generalizing b s with
  | zero => exact apart
  | succ fuel inductionHypothesis =>
    cases s with
    | nil => exact settle_apart apart _ .eof
    | cons c rest => exact inductionHypothesis (feeds_apart apart _) _

end Builder

end Pagefold.Html
