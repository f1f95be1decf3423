import Mathlib
import Pagefold.Html.Parse
import Pagefold.Proofs.Html.Taking
import Pagefold.Proofs.Html.Lexemes

/-!
# The end of the text

At the end of the text the parts of the frame that are still missing are opened, after raw text and
templates are closed. Taking the end up again brings the construction nearer to that, so the document
that is read has a head, and a body or framesets.
-/
namespace Pagefold.Html

/-- How many modes can follow on the end of the text, if no template is closed. -/
def Mode.rank : Mode → Nat
  | .text => 7
  | .initial => 6
  | .beforeHtml => 5
  | .beforeHead => 4
  | .inHead => 3
  | .afterHead | .inTableText => 2
  | _ => 1

namespace Builder

open Sketch Step

variable {v : View} {b : Builder}

/-- How often the end of the text can be taken up again. -/
def remaining (b : Builder) : Nat := 3 * b.templateModes.length + b.mode.rank

/-- The document has its frame, with a body or with framesets. -/
def Complete (b : Builder) : Prop := ∃ stage : Stage, stage.isOpen = true ∧ b.sketch.Shape stage

/-- Modes that fit outside of templates come soon after each other. -/
theorem rank_le (fits : v.Fits) (content : v.stage.holdsContent = true) : v.mode.rank ≤ 3 := by
  unfold View.Fits at fits
  split at fits
  · apply (by decide : ∀ mode ∈ [Mode.inHead, .afterHead, .inBody, .afterBody, .afterAfterBody],
      mode.rank ≤ 3) v.mode
    cases stage : v.stage <;> rw [stage] at fits content <;> try cases content
    all_goals
      simp only [Stage.modes, List.mem_cons, List.not_mem_nil, or_false] at fits ⊢
      tauto
  · obtain ⟨_, member⟩ := fits
    cases mode : v.mode <;> rw [mode] at member <;> simp [Mode.seats, Mode.rank] at member ⊢

/-- Without a template, content is in a body or in framesets. -/
theorem Sound.complete (sound : Sound v b) (fits : v.Fits)
    (late : v.mode ∉ [.initial, .beforeHtml, .beforeHead, .inHead, .afterHead])
    (none : b.templateModes = []) : b.Complete := by
  refine ⟨v.stage, ?_, sound.shape⟩
  by_contra closed
  have roomy := fits.roomy late
  have kinds := roomy.resolve_left closed
  obtain ⟨n, others, some⟩ := List.exists_cons_of_ne_nil kinds
  obtain ⟨inner, whole, each, last⟩ := sound.stack.inner
  have stack := sound.stack
  rw [some] at stack
  obtain ⟨above, id, below, split, _, _, ordinary, _⟩ := stack.top
  have member : id ∈ inner := by
    have inside : id ∈ b.opened := by simp [split]
    rw [whole] at inside
    rcases List.mem_append.mp inside with inside | framed
    · exact inside
    · rw [sound.stack.base id framed] at ordinary
      cases ordinary
  cases final : inner.getLast? with
  | none =>
    rw [List.getLast?_eq_none_iff.mp final] at member
    cases member
  | some outer =>
    have template := last (by simpa using closed) outer final
    have counted : "template" ∈ v.kinds := by
      rw [← sound.stack.kinds]
      refine List.mem_filterMap.mpr ⟨outer, ?_, template⟩
      rw [whole]
      exact List.mem_append_left _ (List.mem_of_getLast? final)
    have count := sound.templates
    rw [none] at count
    exact absurd counted (List.count_eq_zero.mp count.symm)

/-- What the end of the text leads to: a document with its frame, or a state in which the end is
taken up again less often. -/
inductive Ends (b : Builder) : Step → Prop where
  | complete {b' : Builder} (complete : b'.Complete) : Ends b (done b')
  | nearer {b' : Builder} (good : b'.Good) (less : b'.remaining < b.remaining) : Ends b (again b')

/-- A state with the same templates in an earlier mode is nearer to the end. -/
theorem Ends.next (sound : Sound v b) {v' : View} {b' : Builder} (sound' : Sound v' b')
    (fits : v'.Fits) (templates : v'.kinds.count "template" = v.kinds.count "template")
    (earlier : v'.mode.rank < v.mode.rank) : Ends b (again b') := by
  apply Ends.nearer (.fits v' sound' fits)
  rw [remaining, remaining, sound.mode, sound'.mode, sound.templates, sound'.templates, templates]
  omega

/-- The end of the text where content stands. -/
theorem inBody_ends (sound : Sound v b) (fits : v.Fits)
    (late : v.mode ∉ [.initial, .beforeHtml, .beforeHead, .inHead, .afterHead]) :
    Ends b (inBody b .eof) ∧ (v.mode = .inTemplate → Ends b (eofInTemplate b)) := by
  have closed : b.inTemplate = true → Ends b (eofInTemplate b) := by
    intro inside
    obtain ⟨v', b', step, sound', fits', content, templates⟩ := eofInTemplate_again sound fits inside
    rw [step]
    apply Ends.nearer (.fits v' sound' fits')
    have rank := rank_le fits' content
    have own : 0 < b.mode.rank := by cases b.mode <;> decide
    have some : 0 < b.templateModes.length := by
      rw [sound.templates, List.count_pos_iff, ← sound.stack.kinds]
      obtain ⟨_, above, id, below, split, template, _⟩ := sound.first_template inside
      refine List.mem_filterMap.mpr ⟨id, by simp [split], ?_⟩
      exact kind_eq_some.mpr ⟨isNamed_iff.mp template, by decide⟩
    rw [remaining, remaining, sound'.mode, templates, List.length_drop]
    omega
  have opened : b.templateModes ≠ [] → b.inTemplate = true := by
    intro some
    have counted : "template" ∈ v.kinds := by
      rw [← List.count_pos_iff, ← sound.templates]
      exact List.length_pos_iff.mpr some
    rw [← sound.stack.kinds] at counted
    obtain ⟨id, member, template⟩ := List.mem_filterMap.mp counted
    exact List.any_eq_true.mpr ⟨id, member, isNamed_kind template⟩
  constructor
  · rw [inBody]
    split
    · next none => exact .complete (sound.complete fits late (by simpa using none))
    · next some => exact closed (opened (by simpa using some))
  · intro mode
    obtain ⟨n, others, kinds, seat, _⟩ := fits_kinds fits (by rw [mode]; decide)
    apply closed
    apply opened
    intro none
    have count := sound.templates
    rw [mode] at seat
    rw [none, kinds, List.mem_singleton.mp seat, List.count_cons_self] at count
    cases count

/-- Before the body the end of the text opens what is missing of the frame. -/
theorem frame_ends (sound : Sound v b) (fits : v.Fits)
    (early : v.mode ∈ [.initial, .beforeHtml, .beforeHead, .inHead, .afterHead]) :
    Ends b (inMode b .eof) := by
  obtain ⟨kinds, member⟩ := fits_frame fits
    ((by decide : ∀ mode ∈ [Mode.initial, .beforeHtml, .beforeHead, .inHead, .afterHead],
      mode.seats = []) v.mode early)
  have count : List.count "template" [] = v.kinds.count "template" := by rw [kinds]
  have mode := sound.mode
  unfold inMode
  cases stage : v.stage with
  | start =>
    rw [stage] at member
    rcases List.mem_cons.mp member with initial | before
    · rw [mode, initial]
      have begun := (sound.withMode .beforeHtml).unseen true b.fosters b.skipsLineFeed b.reading
      refine Ends.next sound begun (.of_frame kinds (by simp [stage, Stage.modes])) rfl ?_
      rw [initial]
      dsimp only
      decide
    · rw [mode, List.mem_singleton.mp before]
      obtain ⟨html, opened⟩ := sound.insertRoot stage kinds []
      refine Ends.next sound (opened.withMode .beforeHead) (List.mem_singleton_self _) count ?_
      rw [List.mem_singleton.mp before]
      dsimp only
      decide
  | rooted html =>
    rw [stage] at member
    rw [mode, List.mem_singleton.mp member]
    have named : ({ name := "head" } : Tag).name = "head" := rfl
    obtain ⟨head, opened⟩ := sound.insertHead stage kinds named
    refine Ends.next sound (opened.withMode .inHead) (List.mem_singleton_self _) count ?_
    rw [List.mem_singleton.mp member]
    dsimp only
    decide
  | inHead html head =>
    rw [stage] at member
    rw [mode, List.mem_singleton.mp member]
    refine Ends.next sound ((sound.leaveHead stage kinds).withMode .afterHead)
      (List.mem_singleton_self _) count ?_
    rw [List.mem_singleton.mp member]
    dsimp only
    decide
  | afterHead html head =>
    rw [stage] at member
    rw [mode, List.mem_singleton.mp member]
    have named : ({ name := "body" } : Tag).name = "body" := rfl
    obtain ⟨body, opened⟩ := sound.insertBody stage kinds named
    refine Ends.next sound (opened.withMode .inBody) (by simp [View.Fits, Stage.modes]) count ?_
    rw [List.mem_singleton.mp member]
    dsimp only
    decide
  | inBody html head body =>
    rw [stage] at member
    generalize v.mode = mode at early member
    fin_cases early <;> simp [Stage.modes] at member
  | inFrames html head =>
    rw [stage] at member
    generalize v.mode = mode at early member
    fin_cases early <;> simp [Stage.modes] at member

/-- The end of the text in each mode. -/
theorem inMode_ends (good : b.Good) : Ends b (inMode b .eof) := by
  cases good with
  | fits v sound fits =>
    by_cases early : v.mode ∈ [.initial, .beforeHtml, .beforeHead, .inHead, .afterHead]
    · exact frame_ends sound fits early
    · have body := inBody_ends sound fits early
      have framed : v.mode ∈ v.stage.modes → Ends b (done b) := by
        intro member
        refine .complete ⟨v.stage, ?_, sound.shape⟩
        cases stage : v.stage <;> rw [stage] at member
        case inBody | inFrames => rfl
        all_goals
          simp only [Stage.modes, List.mem_cons, List.not_mem_nil, or_false] at member early
          tauto
      unfold inMode
      rw [sound.mode]
      cases mode : v.mode with
      | initial | beforeHtml | beforeHead | inHead | afterHead =>
        rw [mode] at early
        exact absurd (by decide) early
      | text | inTableText =>
        obtain ⟨_, member⟩ := fits_frame fits (by rw [mode]; rfl)
        rw [mode] at member
        cases stage : v.stage <;> rw [stage] at member <;> simp [Stage.modes] at member
      | inTemplate => exact body.2 mode
      | afterBody | afterAfterBody | inFrameset | afterFrameset | afterAfterFrameset =>
        exact framed (fits_frame fits (by rw [mode]; rfl)).2
      | _ => exact body.1
  | tableText v sound mode table fits =>
    have roomy : v.Roomy := by
      have late : View.Roomy { v with mode := v.resumed } := by
        apply fits.roomy
        exact (by decide : ∀ mode ∈ [Mode.inTable, .inTableBody, .inRow],
          mode ∉ [Mode.initial, .beforeHtml, .beforeHead, .inHead, .afterHead]) v.resumed table
      exact late
    have flushed := sound.flushTableText roomy
    have resumed := flushed.withMode b.flushTableText.resumed
    unfold inMode
    rw [sound.mode, mode]
    refine Ends.next sound resumed ?_ rfl ?_
    · rw [flushed.resumed]
      exact fits
    · rw [mode, flushed.resumed]
      exact (by decide : ∀ mode ∈ [Mode.inTable, .inTableBody, .inRow],
        mode.rank < Mode.inTableText.rank) v.resumed table
  | rawText v raw rest mode opened html ordinary sound fits =>
    unfold inMode
    rw [mode]
    have popped : b.pop = { b with opened := rest } := by rw [Builder.pop, opened]; rfl
    have left : Good { b.pop with mode := b.resumed, reading := .data } := by
      rw [popped]
      exact .fits v (sound.unseen b.legacy b.fosters b.skipsLineFeed .data) fits
    refine Ends.nearer left ?_
    have rank : b.resumed.rank < Mode.text.rank := by
      have same : b.resumed = v.mode := sound.mode
      rw [same]
      cases other : v.mode with
      | text =>
        obtain ⟨_, member⟩ := fits_frame fits (by rw [other]; rfl)
        rw [other] at member
        cases stage : v.stage <;> rw [stage] at member <;> simp [Stage.modes] at member
      | _ => decide
    have same : Builder.remaining { b.pop with mode := b.resumed, reading := .data } =
        3 * b.templateModes.length + b.resumed.rank := rfl
    rw [same, remaining, mode]
    omega

/-- The end of the text leads to a document with its frame, if it can be taken up often enough. -/
theorem settle_ends (good : b.Good) (fuel : Nat) (enough : b.remaining < fuel) :
    (settle fuel b .eof).Complete := by
  induction fuel generalizing b with
  | zero => omega
  | succ fuel inductionHypothesis =>
    have step : b.step .eof = inMode b .eof := by
      have taken : Foreign.takes b .eof = false := by
        unfold Foreign.takes
        dsimp only
        exact if_pos (Or.inl rfl)
      rw [Builder.step, taken]
      rfl
    have ends := inMode_ends good
    rw [settle, step]
    generalize inMode b .eof = result at ends
    cases ends with
    | complete complete => exact complete
    | nearer good less => exact inductionHypothesis good (by omega)

/-- No more templates are open than elements. -/
theorem Good.templates_le (good : b.Good) : b.templateModes.length ≤ b.opened.length := by
  have counted : ∀ {v : View} {b : Builder}, Sound v b →
      b.templateModes.length ≤ b.opened.length := by
    intro v b sound
    rw [sound.templates, ← sound.stack.kinds]
    exact List.count_le_length.trans (List.length_filterMap_le _ _)
  cases good with
  | fits v sound => exact counted sound
  | tableText v sound => exact counted sound
  | rawText v raw rest _ opened _ _ sound =>
    rw [opened]
    exact (counted sound).trans (Nat.le_succ _)

/-- The end of the text leads to a document with its frame. -/
theorem take_eof (good : b.Good) : (take b .eof).Complete := by
  apply settle_ends good
  have templates := good.templates_le
  have rank : b.mode.rank ≤ 7 := by cases b.mode <;> decide
  rw [remaining]
  omega

/-- All tokens of one step of the reader lead to a state between tokens. -/
theorem feeds_good (good : b.Good) (tokens : List Token) : (tokens.foldl feed b).Good := by
  induction tokens generalizing b with
  | nil => exact good
  | cons token rest inductionHypothesis => exact inductionHypothesis (feed_good good token)

/-- Reading takes up the end of the text after all of the text.

Proof: every step of the reader takes some of the text, so the fuel lasts. -/
theorem read_complete (good : b.Good) (fuel : Nat) (s : List Char) (enough : s.length < fuel) :
    (Builder.read fuel b s).Complete := by
  induction fuel generalizing b s with
  | zero => omega
  | succ fuel inductionHypothesis =>
    cases s with
    | nil => exact take_eof good
    | cons c rest =>
      have shorter := (Lexer.next_takes b.reading
        (!b.opened.isEmpty && (b.nameOf b.current).1 != .html) (List.cons_ne_nil c rest)).some
      have read : ∀ (result : List Token × List Char), result.2.length < (c :: rest).length →
          (Builder.read fuel (result.1.foldl feed b)
            (if b.reading = .script ∧ (result.1.foldl feed b).reading ≠ .script then
              dropMark result.2 else result.2)).Complete := by
        intro result shorter
        apply inductionHypothesis (feeds_good good result.1)
        have kept : (dropMark result.2).length ≤ result.2.length := by
          unfold dropMark
          split
          · simp
          · exact Nat.le_refl _
        split <;> omega
      exact read _ shorter

/-- Every text is read as a document that has its frame, with a body or with framesets. -/
theorem parse_complete (source : String) :
    ∃ s : Sketch, ∃ stage : Stage, parse source = s.toDocument ∧ stage.isOpen = true ∧
      s.Shape stage := by
  obtain ⟨stage, wide, shape⟩ := read_complete empty_good _
    (normalizeLines (dropMark source.toList)) (Nat.lt_succ_self _)
  exact ⟨_, stage, rfl, wide, shape⟩

end Builder

end Pagefold.Html
