import Mathlib
import Pagefold.Proofs.Html.Tables

/-!
# Taking up tokens

Every token leaves the construction in a state in which the mode fits the open elements, whatever
the state was in which it was taken up. So this holds of all states that are reached from the empty
document.
-/
namespace Pagefold.Html.Builder

open Sketch Step

variable {v : View} {b : Builder} {tag : Tag}

/-- In a mode of the frame no structural element is open. -/
theorem fits_frame (fits : v.Fits) (outer : v.mode.seats = []) :
    v.kinds = [] ∧ v.mode ∈ v.stage.modes := by
  unfold View.Fits at fits
  split at fits
  · next none => exact ⟨none, fits⟩
  · rw [outer] at fits
    exact absurd fits.2 List.not_mem_nil

/-! ## Before the body -/

theorem inInitial_good (sound : Sound v b) (fits : v.Fits) (mode : v.mode = .initial)
    (token : Token) : (inInitial b token).Good := by
  obtain ⟨kinds, member⟩ := fits_frame fits (by rw [mode]; rfl)
  have begun : Good { b with legacy := true, mode := .beforeHtml } := by
    refine .fits _ ((sound.withMode .beforeHtml).unseen true b.fosters b.skipsLineFeed b.reading)
      (.of_frame kinds ?_)
    rw [mode] at member
    cases stage : v.stage <;> rw [stage] at member <;> simp [Stage.modes] at member ⊢
  cases token with
  | blanks _ => exact .fits v sound fits
  | comment text => exact .fits v (sound.commentIn _ text) fits
  | _ => exact begun

theorem inBeforeHtml_good (sound : Sound v b) (fits : v.Fits) (mode : v.mode = .beforeHtml)
    (token : Token) : (inBeforeHtml b token).Good := by
  obtain ⟨kinds, member⟩ := fits_frame fits (by rw [mode]; rfl)
  have start : v.stage = .start := by
    rw [mode] at member
    cases stage : v.stage <;> rw [stage] at member <;> simp [Stage.modes] at member ⊢
  have rooted : ∀ attributes, Good { b.insertRoot attributes with mode := .beforeHead } := by
    intro attributes
    obtain ⟨html, opened⟩ := sound.insertRoot start kinds attributes
    exact .fits _ (opened.withMode .beforeHead) (List.mem_singleton_self _)
  have same : (done b).Good := .fits v sound fits
  unfold inBeforeHtml
  dsimp only
  cases token with
  | blanks _ => exact same
  | comment text => exact .fits v (sound.commentIn _ text) fits
  | startTag tag =>
    dsimp only
    split
    · exact rooted _
    · exact rooted _
  | endTag name =>
    dsimp only
    split
    · exact rooted _
    · exact same
  | _ => exact rooted _

theorem inBeforeHead_good (sound : Sound v b) (fits : v.Fits) (mode : v.mode = .beforeHead)
    (token : Token) : (inBeforeHead b token).Good := by
  obtain ⟨kinds, member⟩ := fits_frame fits (by rw [mode]; rfl)
  obtain ⟨html, rooted⟩ : ∃ html, v.stage = .rooted html := by
    rw [mode] at member
    cases stage : v.stage <;> rw [stage] at member <;> simp [Stage.modes] at member ⊢
  have headed : ∀ tag : Tag, tag.name = "head" → Good (b.openHead tag) := by
    intro tag name
    obtain ⟨head, opened⟩ := sound.insertHead rooted kinds name
    exact .fits _ (opened.withMode .inHead) (List.mem_singleton_self _)
  have same : ∀ {b : Builder}, Sound v b → (done b).Good := fun sound => .fits v sound fits
  unfold inBeforeHead
  dsimp only
  cases token with
  | blanks _ => exact same sound
  | comment text => exact same (sound.insertComment text)
  | startTag tag =>
    dsimp only
    split
    · exact same (sound.mergeRoot tag)
    · next name => exact headed tag name
    · exact headed _ rfl
  | endTag name =>
    dsimp only
    split
    · exact headed _ rfl
    · exact same sound
  | _ => exact headed _ rfl

/-- The head is closed. -/
theorem Sound.leaveHead (sound : Sound v b) {html head : Nat} (stage : v.stage = .inHead html head)
    (kinds : v.kinds = []) : Sound { v with stage := .afterHead html head, kinds := [] } b.pop := by
  have shape := sound.shape
  rw [stage] at shape
  have bare := sound.opened_bare kinds (by rw [stage]; rfl)
  rw [stage] at bare
  have popped : b.pop = { b with opened := [html], head := b.head } := by
    rw [Builder.pop, bare]
    rfl
  rw [popped]
  refine sound.restage (shape.restage (.afterHead html head) rfl (by simp) (by simp [Stage.isFrames])) (Extends.refl _)
    (sound.templates_nil kinds) rfl ?_
  rw [sound.head, stage]
  rfl

theorem inHead_good (sound : Sound v b) (fits : v.Fits) (mode : v.mode = .inHead)
    (token : Token) : (inHead b token).Good := by
  obtain ⟨kinds, member⟩ := fits_frame fits (by rw [mode]; rfl)
  obtain ⟨html, head, stage⟩ : ∃ html head, v.stage = .inHead html head := by
    rw [mode] at member
    cases stage : v.stage <;> rw [stage] at member <;> simp [Stage.modes] at member ⊢
  have content : v.stage.holdsContent = true := by rw [stage]; rfl
  have left : Good { b.pop with mode := .afterHead } :=
    .fits _ ((sound.leaveHead stage kinds).withMode .afterHead) (List.mem_singleton_self _)
  have same : ∀ {b : Builder}, Sound v b → (done b).Good := fun sound => .fits v sound fits
  cases token with
  | blanks run => exact same (sound.insertText run)
  | comment text => exact same (sound.insertComment text)
  | startTag tag =>
    unfold inHead
    dsimp only
    split
    · exact same (sound.mergeRoot tag)
    iterate 5
      next name => exact same (sound.insertVoid tag (by rw [name]; exact fun _ => rfl))
    iterate 5
      next name => exact Good.insertRaw sound fits (by rw [name]; decide) _
    · next name =>
      exact .fits _ (sound.openTemplate name) ⟨content, List.mem_singleton_self _⟩
    · exact same sound
    · exact left
  | endTag name =>
    unfold inHead
    dsimp only
    split
    · exact left
    iterate 3
      exact left
    · exact Good.endTemplate sound fits
    · exact same sound
  | _ => exact left

/-- After the head, content of the head is put into it again.

Proof: the head is opened for one token only. What the token opens is new, so it is not the head, and
the head is taken out of the stack from below it. -/
theorem Good.headAgain (sound : Sound v b) {html head : Nat}
    (stage : v.stage = .afterHead html head) (fits : v.Fits)
    (content : isHeadContent tag.name = true) :
    ((inHead { b with opened := head :: b.opened } (.startTag tag)).map (·.unstack head)).Good := by
  have inside : head < b.sketch.nodes.size :=
    sound.shape.member_inside (show (head, "head") ∈ v.stage.members by simp [stage, Stage.members])
  have erased : ∀ id, b.sketch.nodes.size ≤ id →
      (id :: head :: b.opened).erase head = id :: b.opened := by
    intro id fresh
    have other : id ≠ head := by omega
    simp [other]
  have kind := headContent { b with opened := head :: b.opened } content
  generalize inHead _ (.startTag tag) = step at kind
  cases kind with
  | void ordinary =>
    obtain ⟨s, contents, same, kept, _⟩ := Sound.placed_kept
      (b := { b with opened := head :: b.opened }) sound.shape .html tag ordinary
      fun b => b.current
    have inserted : Builder.insertVoid { b with opened := head :: b.opened } tag =
        { b with opened := head :: b.opened, sketch := s } := same
    rw [inserted]
    refine .fits v ?_ fits
    have closed : (head :: b.opened).erase head = b.opened := List.erase_cons_head ..
    show Sound v { b with sketch := s, opened := (head :: b.opened).erase head }
    rw [closed]
    exact sound.withSketch kept
  | raw plain reading =>
    obtain ⟨s, id, contents, same, kept, fresh, outline⟩ := Sound.insertForeign_kept
      (b := { b with opened := head :: b.opened }) sound.shape .html tag (ordinary_of_plain plain)
    have inserted : Builder.insert { b with opened := head :: b.opened } tag =
        { b with sketch := s, opened := id :: head :: b.opened } := same
    obtain ⟨light, _⟩ := light_of_outline outline plain
    have below := ((sound.withSketch kept).withResumed b.mode).unseen b.legacy b.fosters
      b.skipsLineFeed reading
    rw [Builder.insertRaw, inserted]
    exact .rawText { v with resumed := b.mode } id b.opened rfl (erased id fresh)
      (by
        show (s.nameOf id).1 = .html
        rw [nameOf_of_outline outline])
      light.1 below fits
  | template name =>
    obtain ⟨s, id, contents, same, kept, fresh, outline⟩ := Sound.insertForeign_kept
      (b := { b with opened := head :: b.opened }) sound.shape .html tag
      (by rw [name]; exact fun _ => rfl)
    rw [name] at outline
    have inserted : Builder.insert { b with opened := head :: b.opened } tag =
        { b with sketch := s, opened := id :: head :: b.opened } := same
    have opened := sound.pushTemplate kept fresh outline
    rw [← erased id fresh] at opened
    have content : v.stage.holdsContent = true := by rw [stage]; rfl
    rw [Builder.openTemplate, inserted]
    exact .fits _ opened ⟨content, List.mem_singleton_self _⟩

theorem inAfterHead_good (sound : Sound v b) (fits : v.Fits) (mode : v.mode = .afterHead)
    (token : Token) : (inAfterHead b token).Good := by
  obtain ⟨kinds, member⟩ := fits_frame fits (by rw [mode]; rfl)
  obtain ⟨html, head, stage⟩ : ∃ html head, v.stage = .afterHead html head := by
    rw [mode] at member
    cases stage : v.stage <;> rw [stage] at member <;> simp [Stage.modes] at member ⊢
  have remembered : b.head = some head := by rw [sound.head, stage]; rfl
  have bodied : ∀ tag : Tag, tag.name = "body" → Good { b.insert tag with mode := .inBody } := by
    intro tag name
    obtain ⟨body, opened⟩ := sound.insertBody stage kinds name
    exact .fits _ (opened.withMode .inBody) (by simp [View.Fits, Stage.modes])
  have same : ∀ {b : Builder}, Sound v b → (done b).Good := fun sound => .fits v sound fits
  unfold inAfterHead
  dsimp only
  cases token with
  | blanks run => exact same (sound.insertText run)
  | comment text => exact same (sound.insertComment text)
  | startTag tag =>
    dsimp only
    split
    · exact same (sound.mergeRoot tag)
    · next name => exact (bodied tag name).forbid
    · next name =>
      have opened := sound.startFrames stage kinds name
      exact .fits _ (opened.withMode .inFrameset) (by simp [View.Fits, Stage.modes])
    · exact same sound
    · split
      · next content =>
        split
        · next other found =>
          rw [remembered] at found
          obtain rfl := Option.some.inj found
          exact Good.headAgain sound stage fits content
        · exact same sound
      · exact bodied _ rfl
  | endTag name =>
    dsimp only
    split
    · exact Good.endTemplate sound fits
    iterate 3
      exact bodied _ rfl
    · exact same sound
  | _ => exact bodied _ rfl

/-! ## Raw text, and what comes after the body -/

/-- The end of raw text leads back to the mode before it. -/
theorem inText_good (good : b.Good) (mode : b.mode = .text) (token : Token) :
    (inText b token).Good := by
  cases good with
  | fits v sound fits =>
    exfalso
    have text := sound.mode.symm.trans mode
    obtain ⟨_, member⟩ := fits_frame fits (by rw [text]; rfl)
    rw [text] at member
    cases stage : v.stage <;> rw [stage] at member <;> simp [Stage.modes] at member
  | tableText v sound table _ _ =>
    rw [sound.mode, table] at mode
    cases mode
  | rawText v raw rest _ opened html ordinary sound fits =>
    have added : ∀ run, Good (b.insertText run) := by
      intro run
      obtain ⟨s, same, kept⟩ := Sound.insertText_kept (b := b) sound.shape run
      have inside := inside_of_ordinary ordinary
      rw [same]
      refine .rawText v raw rest mode opened ?_ (kept.later.ordinary ordinary)
        (sound.withSketch kept) fits
      show (s.nameOf raw).1 = .html
      rw [kept.later.nameOf inside]
      exact html
    have left : Good { b.pop with mode := b.resumed, reading := .data } := by
      have popped : b.pop = { b with opened := rest } := by rw [Builder.pop, opened]; rfl
      rw [popped]
      exact .fits v (sound.unseen b.legacy b.fosters b.skipsLineFeed .data) fits
    have same : Good b := .rawText v raw rest mode opened html ordinary sound fits
    cases token with
    | blanks run | text run => exact added run
    | endTag _ => exact left
    | eof => exact left
    | _ => exact same

/-- In the modes after a body the document has one. -/
theorem body_of_after (fits : v.Fits) (mode : v.mode ∈ [.afterBody, .afterAfterBody]) :
    v.kinds = [] ∧ ∃ html head body, v.stage = .inBody html head body := by
  obtain ⟨kinds, member⟩ := fits_frame fits
    ((by decide : ∀ mode ∈ [Mode.afterBody, .afterAfterBody], mode.seats = []) v.mode mode)
  refine ⟨kinds, ?_⟩
  generalize v.mode = other at mode member
  cases stage : v.stage <;> rw [stage] at member <;> fin_cases mode <;>
    simp [Stage.modes] at member ⊢

/-- A token after the body. -/
theorem afterBody_good (sound : Sound v b) (fits : v.Fits)
    (mode : v.mode ∈ [.afterBody, .afterAfterBody]) (token : Token) :
    (inAfterBody b token).Good ∧ (inAfterAfterBody b token).Good := by
  obtain ⟨kinds, html, head, body, stage⟩ := body_of_after fits mode
  have same : ∀ {b : Builder}, Sound v b → (done b).Good := fun sound => .fits v sound fits
  have turned : ∀ mode ∈ [Mode.inBody, .afterAfterBody], Good { b with mode } := by
    intro mode member
    refine .fits _ (sound.withMode mode) (.of_frame kinds ?_)
    rw [stage]
    fin_cases member <;> simp [Stage.modes]
  have blank : ∀ run, (inBody b (.blanks run)).Good := by
    intro run
    have text : Foreign.isText (.blanks run) = true := rfl
    obtain ⟨b', step, sound'⟩ := inBody_text sound (Or.inl (by rw [stage]; rfl)) text
    rw [step]
    exact same sound'
  have back := turned .inBody (by decide)
  constructor
  · cases token with
    | blanks run => exact blank run
    | comment text => exact same (sound.commentIn _ text)
    | startTag tag =>
      rw [inAfterBody]
      split
      · exact same (sound.mergeRoot tag)
      · exact back
    | endTag name =>
      rw [inAfterBody]
      split
      · exact turned .afterAfterBody (by decide)
      · exact back
    | eof => exact same sound
    | _ => exact back
  · cases token with
    | blanks run => exact blank run
    | comment text => exact same (sound.commentIn _ text)
    | startTag tag =>
      rw [inAfterAfterBody]
      split
      · exact same (sound.mergeRoot tag)
      · exact back
    | eof => exact same sound
    | _ => exact back

/-! ## Framesets -/

/-- In the modes of framesets the document has no body. -/
theorem frames_of_mode (fits : v.Fits)
    (mode : v.mode ∈ [.inFrameset, .afterFrameset, .afterAfterFrameset]) :
    v.kinds = [] ∧ ∃ html head, v.stage = .inFrames html head := by
  obtain ⟨kinds, member⟩ := fits_frame fits
    ((by decide : ∀ mode ∈ [Mode.inFrameset, .afterFrameset, .afterAfterFrameset],
      mode.seats = []) v.mode mode)
  refine ⟨kinds, ?_⟩
  generalize v.mode = other at mode member
  cases stage : v.stage <;> rw [stage] at member <;> fin_cases mode <;>
    simp [Stage.modes] at member ⊢

/-- A token in a frameset. -/
theorem inFrameset_good (sound : Sound v b) (fits : v.Fits) (mode : v.mode = .inFrameset)
    (token : Token) : (inFrameset b token).Good := by
  obtain ⟨kinds, html, head, stage⟩ := frames_of_mode fits (by rw [mode]; decide)
  have same : ∀ {b : Builder}, Sound v b → (done b).Good := fun sound => .fits v sound fits
  unfold inFrameset
  cases token with
  | blanks run => exact same (sound.insertText run)
  | comment text => exact same (sound.insertComment text)
  | startTag tag =>
    dsimp only
    split
    · exact same (sound.mergeRoot tag)
    · next name => exact same (sound.insertFrameset (by rw [stage]; rfl) name)
    · next name => exact same (sound.insertVoid tag (by rw [name]; exact fun _ => rfl))
    · next name =>
      exact headContent_good sound fits (by rw [name]; decide) (by rw [name]; nofun)
    · exact same sound
  | endTag name =>
    dsimp only
    split
    · next inner =>
      have popped : Sound v b.pop := by
        apply sound.pop
        intro id innermost
        obtain ⟨above, whole, each, _⟩ := sound.stack.inner
        rw [stage] at whole
        cases above with
        | nil =>
          rw [whole] at inner
          exact absurd rfl inner.2
        | cons first others =>
          rw [whole] at innermost
          obtain rfl := Option.some.inj innermost
          refine ⟨(each first List.mem_cons_self).1, ?_⟩
          apply List.filterMap_eq_nil_iff.mp (sound.stack.kinds.trans kinds)
          rw [whole]
          exact List.mem_cons_self
      split
      · exact same popped
      · refine .fits _ (popped.withMode .afterFrameset) (.of_frame kinds ?_)
        rw [stage]
        simp [Stage.modes]
    · exact same sound
  | _ => exact same sound

/-- A token after a frameset. -/
theorem afterFrameset_good (sound : Sound v b) (fits : v.Fits)
    (mode : v.mode ∈ [.afterFrameset, .afterAfterFrameset]) (token : Token) :
    (inAfterFrameset b token).Good ∧ (inAfterAfterFrameset b token).Good := by
  obtain ⟨kinds, html, head, stage⟩ := frames_of_mode fits
    ((by decide : ∀ mode ∈ [Mode.afterFrameset, .afterAfterFrameset],
      mode ∈ [Mode.inFrameset, .afterFrameset, .afterAfterFrameset]) v.mode mode)
  have same : ∀ {b : Builder}, Sound v b → (done b).Good := fun sound => .fits v sound fits
  have tagged : ∀ tag : Tag, tag.name = "noframes" → (inHead b (.startTag tag)).Good := by
    intro tag name
    exact headContent_good sound fits (by rw [name]; decide) (by rw [name]; nofun)
  constructor
  · cases token with
    | blanks run => exact same (sound.insertText run)
    | comment text => exact same (sound.insertComment text)
    | startTag tag =>
      rw [inAfterFrameset]
      split
      · exact same (sound.mergeRoot tag)
      · next name => exact tagged tag name
      · exact same sound
    | endTag name =>
      rw [inAfterFrameset]
      split
      · refine .fits _ (sound.withMode .afterAfterFrameset) (.of_frame kinds ?_)
        rw [stage]
        simp [Stage.modes]
      · exact same sound
    | _ => exact same sound
  · cases token with
    | blanks run =>
      have text : Foreign.isText (.blanks run) = true := rfl
      obtain ⟨b', step, sound'⟩ := inBody_text sound (Or.inl (by rw [stage]; rfl)) text
      rw [inAfterAfterFrameset, step]
      exact same sound'
    | comment text => exact same (sound.commentIn _ text)
    | startTag tag =>
      rw [inAfterAfterFrameset]
      split
      · exact same (sound.mergeRoot tag)
      · next name => exact tagged tag name
      · exact same sound
    | _ => exact same sound

/-! ## All modes -/

/-- A token in the mode of the body. -/
theorem inBodyMode_good (sound : Sound v b) (fits : v.Fits) (mode : v.mode = .inBody)
    (token : Token) : (inBody b token).Good := by
  have roomy := fits.roomy (by rw [mode]; decide)
  have free := fits.free (by rw [mode]; decide)
  have head : v.kinds.head? = none ∨ v.kinds.head? = some "template" := by
    unfold View.Fits at fits
    split at fits
    · next none =>
      rw [none]
      exact Or.inl rfl
    · next n others some =>
      rw [mode] at fits
      rw [some, List.mem_singleton.mp fits.2]
      exact Or.inr rfl
  have content : v.stage.holdsContent = true := by
    by_cases kinds : v.kinds = []
    · unfold View.Fits at fits
      rw [kinds] at fits
      cases stage : v.stage <;> rw [stage, mode] at fits <;> simp [Stage.modes] at fits
      rfl
    · exact fits.content kinds
  apply inBody_good sound fits roomy content free token
  · intro name _
    by_cases template : name = "template"
    · exact Or.inl template
    · right
      intro same
      rcases head with none | other
      · rw [none] at same
        cases same
      · rw [other] at same
        exact template (Option.some.inj same).symm
  · exact fun _ _ _ => mode

/-- Every token in its mode leads to a state between tokens. -/
theorem inMode_good (good : b.Good) (token : Token) : (inMode b token).Good := by
  have whole := good
  cases good with
  | fits v sound fits =>
    unfold inMode
    rw [sound.mode]
    cases mode : v.mode with
    | initial => exact inInitial_good sound fits mode token
    | beforeHtml => exact inBeforeHtml_good sound fits mode token
    | beforeHead => exact inBeforeHead_good sound fits mode token
    | inHead => exact inHead_good sound fits mode token
    | afterHead => exact inAfterHead_good sound fits mode token
    | inBody => exact inBodyMode_good sound fits mode token
    | text => exact inText_good whole (sound.mode.trans mode) token
    | inTable => exact inTableMode_good sound fits (by rw [mode]; decide) token fun _ _ _ => mode
    | inTableText =>
      obtain ⟨_, member⟩ := fits_frame fits (by rw [mode]; rfl)
      rw [mode] at member
      cases stage : v.stage <;> rw [stage] at member <;> simp [Stage.modes] at member
    | inCaption => exact inCaption_good sound fits mode token
    | inColumnGroup => exact inColumnGroup_good sound fits mode token
    | inTableBody => exact inTableBody_good sound fits mode token
    | inRow => exact inRow_good sound fits mode token
    | inCell => exact inCell_good sound fits mode token
    | inSelect => exact inSelect_good sound fits (by rw [mode]; decide) token
    | inSelectInTable => exact inSelectInTable_good sound fits mode token
    | inTemplate => exact inTemplateMode_good sound fits mode token
    | afterBody => exact (afterBody_good sound fits (by rw [mode]; decide) token).1
    | inFrameset => exact inFrameset_good sound fits mode token
    | afterFrameset => exact (afterFrameset_good sound fits (by rw [mode]; decide) token).1
    | afterAfterBody => exact (afterBody_good sound fits (by rw [mode]; decide) token).2
    | afterAfterFrameset =>
      exact (afterFrameset_good sound fits (by rw [mode]; decide) token).2
  | tableText v sound mode table fits =>
    unfold inMode
    rw [sound.mode, mode]
    exact inTableText_good sound mode table fits token
  | rawText v raw rest mode =>
    unfold inMode
    rw [mode]
    exact inText_good whole mode token

/-! ## Foreign content -/

/-- A foreign element is not structural. -/
theorem Sound.light_space (sound : Sound v b) {id : Nat} (member : id ∈ b.opened)
    (foreign : (b.nameOf id).1 ≠ .html) : b.sketch.Light id := by
  obtain ⟨inner, whole, each, _⟩ := sound.stack.inner
  rw [whole] at member
  rcases List.mem_append.mp member with inside | framed
  · exact light_foreign (each id inside).1 foreign
  · obtain ⟨name, listed⟩ := Stage.mem_base framed
    have named : b.nameOf id = (.html, name) := nameOf_of_outline (sound.shape.members id name listed)
    rw [named] at foreign
    exact absurd rfl foreign

/-- Foreign elements are closed up to one that can hold HTML. -/
theorem Sound.leaveForeign (sound : Sound v b) : Sound v (Foreign.leave b) := by
  let kept (id : Nat) : Bool := (b.nameOf id).1 == .html || b.isMathText id || b.isHtmlHolder id
  refine sound.closeLight (List.takeWhile_append_dropWhile (p := (!kept ·))).symm ?_
  intro id member
  have closed : (!kept id) = true := List.mem_takeWhile_imp (p := (!kept ·)) member
  apply sound.light_space ((List.takeWhile_prefix _).subset member)
  intro html
  have accepted : kept id = true := by simp [kept, html]
  rw [accepted] at closed
  cases closed

/-- What an end tag closes is foreign, and so is all that is open in it. -/
theorem endTarget_closes {name : String} {first : Bool} {l : List Nat} {id : Nat}
    (found : Foreign.endTarget b name first l = .closes id)
    (start : first = true → ∀ other, l.head? = some other → (b.nameOf other).1 ≠ .html) :
    ∃ above below, l = above ++ id :: below ∧
      ∀ other ∈ above ++ [id], (b.nameOf other).1 ≠ .html := by
  induction l generalizing first with
  | nil => cases found
  | cons other rest inductionHypothesis =>
    cases rest with
    | nil => cases found
    | cons next rest =>
      have step : Foreign.endTarget b name first (other :: next :: rest) =
          if !first && (b.nameOf other).1 == .html then .html
          else if Text.sameLetters (b.nameOf other).2 name then .closes other
          else Foreign.endTarget b name false (next :: rest) := rfl
      rw [step] at found
      have foreign : (b.nameOf other).1 ≠ .html := by
        cases first with
        | true => exact start rfl other rfl
        | false =>
          intro html
          simp [html] at found
      have inner : (!first && (b.nameOf other).1 == .html) = false := by simp [foreign]
      rw [inner] at found
      simp only [Bool.false_eq_true, if_false] at found
      split at found
      · cases found
        exact ⟨[], next :: rest, rfl, by simpa using foreign⟩
      · obtain ⟨above, below, split, each⟩ := inductionHypothesis found nofun
        refine ⟨other :: above, below, by rw [split, List.cons_append], ?_⟩
        intro element member
        rcases List.mem_cons.mp member with rfl | inside
        · exact foreign
        · exact each element inside

/-- A state that is not in raw text stays a state between tokens if what the view shows of it stays
as it is. -/
theorem Good.view (good : b.Good) (apart : b.mode ≠ .text) :
    ∃ v, Sound v b ∧ ∀ {b' : Builder}, Sound v b' → b'.Good := by
  cases good with
  | fits v sound fits => exact ⟨v, sound, fun sound => .fits v sound fits⟩
  | tableText v sound mode table fits =>
    exact ⟨v, sound, fun sound => .tableText v sound mode table fits⟩
  | rawText v raw rest mode => exact absurd mode apart

/-- In raw text the innermost element is an element of HTML. -/
theorem Good.html_of_text (good : b.Good) (mode : b.mode = .text) :
    (b.nameOf b.current).1 = .html := by
  cases good with
  | fits v sound fits =>
    exfalso
    have text := sound.mode.symm.trans mode
    obtain ⟨_, member⟩ := fits_frame fits (by rw [text]; rfl)
    rw [text] at member
    cases stage : v.stage <;> rw [stage] at member <;> simp [Stage.modes] at member
  | tableText v sound table _ _ =>
    rw [sound.mode, table] at mode
    cases mode
  | rawText v raw rest _ opened html =>
    rw [Builder.current, opened]
    exact html

/-- Where the innermost element is foreign, there is room for content. -/
theorem Sound.roomy_foreign (sound : Sound v b) (some : b.opened ≠ [])
    (foreign : (b.nameOf b.current).1 ≠ .html) : v.Roomy := by
  by_contra narrow
  obtain ⟨closed, kinds⟩ := not_or.mp narrow
  have bare := sound.opened_bare (by simpa using kinds) (by simpa using closed)
  cases opened : b.opened with
  | nil => exact some opened
  | cons id rest =>
    have current : b.current = id := by rw [Builder.current, opened]; rfl
    obtain ⟨name, listed⟩ := Stage.mem_base (by
      rw [← bare, opened]
      exact List.mem_cons_self)
    have named : b.nameOf id = (.html, name) :=
      nameOf_of_outline (sound.shape.members id name listed)
    rw [current, named] at foreign
    exact foreign rfl

/-- An element that does not end foreign content may stand in it. -/
theorem plain_foreign {space : Space} (foreign : space ≠ .html)
    (stays : Foreign.breaksOut tag = false) :
    isPlain space (if space = .svg then Foreign.respell Foreign.svgElements tag.name
      else tag.name) = true := by
  have own : tag.name ∉ ["head", "body"] := by
    intro member
    have broken : Foreign.breaksOut tag = true := by
      rw [Foreign.breaksOut, Bool.or_eq_true]
      left
      rw [List.contains_iff_mem]
      generalize tag.name = name at member
      fin_cases member <;> decide
    rw [stays] at broken
    cases broken
  have respelled : Foreign.respell Foreign.svgElements tag.name ∉ ["head", "body"] := by
    unfold Foreign.respell
    cases found : Foreign.svgElements.find? (Text.lower · = tag.name) with
    | none => exact own
    | some spelling =>
      exact (by decide : ∀ spelling ∈ Foreign.svgElements, spelling ∉ ["head", "body"]) spelling
        (List.mem_of_find?_eq_some found)
  cases space with
  | html => exact absurd rfl foreign
  | svg => simpa [isPlain] using respelled
  | math => simpa [isPlain] using own

/-- A token in foreign content. -/
theorem inForeign_good (good : b.Good) (token : Token) (taken : Foreign.takes b token = true) :
    (inForeign b token).Good := by
  have outside : b.opened ≠ [] ∧ (b.nameOf b.current).1 ≠ .html := by
    unfold Foreign.takes at taken
    dsimp only at taken
    split at taken
    · cases taken
    · next apart =>
      simp only [not_or] at apart
      exact ⟨by simpa using apart.2.1, apart.2.2⟩
  obtain ⟨some, foreign⟩ := outside
  obtain ⟨v, sound, stays⟩ := good.view fun mode => foreign (good.html_of_text mode)
  have roomy := sound.roomy_foreign some foreign
  have left : (Foreign.leave b).Good := stays sound.leaveForeign
  unfold inForeign
  cases token with
  | null => exact stays (sound.insertText _)
  | blanks run => exact stays (sound.insertText run)
  | text run => exact stays (sound.forbid.insertText run)
  | comment text => exact stays (sound.insertComment text)
  | startTag tag =>
    dsimp only
    split
    · exact left
    · next stay =>
      have plain := plain_foreign foreign (by simpa using stay)
      refine stays (sound.insertSpace roomy ?_)
      show isPlain (b.nameOf b.current).1 (Tag.name (if (b.nameOf b.current).1 = .svg then
        { tag with name := Foreign.respell Foreign.svgElements tag.name } else tag)) = true
      rw [apply_ite Tag.name]
      exact plain
  | endTag name =>
    dsimp only
    split
    · exact inMode_good left _
    · split
      · next id found =>
        obtain ⟨above, below, split, each⟩ := endTarget_closes found (by
          intro _ other first
          have current : b.current = other := by
            rw [Builder.current, List.headD_eq_head?_getD, first]
            rfl
          rwa [current] at foreign)
        have nodup := sound.stack.nodup
        rw [split] at nodup
        have light : ∀ other ∈ above ++ [id], b.sketch.Light other := by
          intro other member
          apply sound.light_space _ (each other member)
          rw [split]
          simp at member ⊢
          tauto
        refine stays (sound.popThrough split (fun other member => light other (by simp [member]))
          (light id (by simp)) (by simp) ?_)
        intro other member
        rw [beq_eq_false_iff_ne]
        rintro rfl
        exact (List.nodup_append.mp nodup).2.2 other member other List.mem_cons_self rfl
      · exact inMode_good good _
      · exact good
  | _ => exact good

/-! ## Whole texts -/

/-- Every step leads to a state between tokens. -/
theorem step_good (good : b.Good) (token : Token) : (step b token).Good := by
  unfold step
  split
  · next taken => exact inForeign_good good token taken
  · exact inMode_good good token

theorem settle_good (good : b.Good) (fuel : Nat) (token : Token) : (settle fuel b token).Good := by
  induction fuel generalizing b with
  | zero => exact good
  | succ fuel inductionHypothesis =>
    have stepped := step_good good token
    rw [settle]
    cases step : b.step token with
    | done b' =>
      rw [step] at stepped
      exact stepped
    | again b' =>
      rw [step] at stepped
      exact inductionHypothesis stepped

theorem take_good (good : b.Good) (token : Token) : (take b token).Good :=
  settle_good good _ token

/-- A document type is put into the document only at the start. -/
theorem takeDoctype_good (good : b.Good) (d : Doctype) : (takeDoctype b d).Good := by
  unfold takeDoctype
  split
  · next initial =>
    cases good with
    | fits v sound fits =>
      have mode : v.mode = .initial := sound.mode.symm.trans initial
      obtain ⟨kinds, member⟩ := fits_frame fits (by rw [mode]; rfl)
      have typed := sound.withSketch
        (sound.shape.appendNew (.doctype (d.name.getD "")) Sketch.root rfl nofun)
      refine .fits _ ((typed.withMode .beforeHtml).unseen d.asksForLegacy b.fosters
        b.skipsLineFeed b.reading) (.of_frame kinds ?_)
      rw [mode] at member
      cases stage : v.stage <;> rw [stage] at member <;> simp [Stage.modes] at member ⊢
    | tableText v sound table _ _ =>
      rw [sound.mode, table] at initial
      cases initial
    | rawText _ _ _ mode =>
      rw [mode] at initial
      cases initial
  · exact good

/-- Every token of the text leads to a state between tokens. -/
theorem feed_good (good : b.Good) (token : Token) : (feed b token).Good := by
  have fed := good.unseen b.legacy b.fosters false b.reading
  unfold feed
  dsimp only
  cases token with
  | doctype d => exact takeDoctype_good fed d
  | fault => exact fed
  | blanks run =>
    dsimp only
    split
    · exact fed
    · exact take_good fed _
    · exact take_good fed _
  | _ => exact take_good fed _

/-- The construction begins with an empty document. -/
theorem empty_good : Good {} := by
  have nodes : ∀ id, Sketch.node {} id =
      ⟨if id = Sketch.root then .document else .fragment, none, #[]⟩ := by
    intro id
    by_cases root : id = Sketch.root
    · rw [root]
      rfl
    · rw [if_neg root]
      exact node_outside (Nat.one_le_iff_ne_zero.mpr root)
  have shape : Shape .start {} := by
    constructor
    · rw [Sketch.outline, nodes, if_pos rfl]
      rfl
    · simp [Stage.members]
    · intro id
      rw [Sketch.framed, nodes]
      simp [Stage.children, Stage.ids, Stage.members]
    · simp
    · simp [Stage.isFrames]
    · intro id space name contents found
      rw [Sketch.outline, nodes] at found
      split at found <;> cases found
  refine .fits ⟨.start, [], .initial, .initial⟩ ?_ (by simp [View.Fits, Stage.modes])
  exact
    { shape := shape
      stack := shape.base_stack
      mode := rfl
      resumed := rfl
      head := rfl
      form := by simp
      formatting := by simp
      templateModes := by simp
      templates := rfl
      frameset := fun _ => rfl
      pending := by simp }

end Pagefold.Html.Builder
