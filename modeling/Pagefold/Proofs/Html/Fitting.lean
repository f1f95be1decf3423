import Mathlib
import Pagefold.Proofs.Html.Formatting

/-!
# Modes and open elements

The insertion mode follows the innermost structural element: in the mode of a row a row is the
innermost one, and so on. Where none is open, the mode follows the frame. This is what the
construction has to keep to know which elements it closes, and the mode that is chosen anew after
an element is closed always fits.
-/
namespace Pagefold.Html

/-- The structural elements that can be the innermost one in a mode. -/
def Mode.seats : Mode → List String
  | .inBody | .inTemplate => ["template"]
  | .inTable => ["table", "template"]
  | .inTableBody => ["tbody", "tfoot", "thead", "template"]
  | .inRow => ["tr", "template"]
  | .inCell => ["td", "th"]
  | .inCaption => ["caption"]
  | .inColumnGroup => ["colgroup", "template"]
  | .inSelect | .inSelectInTable => ["select"]
  | _ => []

/-- The modes in which no structural element is open, by the stage of the frame. -/
def Stage.modes : Stage → List Mode
  | start => [.initial, .beforeHtml]
  | rooted _ => [.beforeHead]
  | inHead _ _ => [.inHead]
  | afterHead _ _ => [.afterHead]
  | inBody _ _ _ => [.inBody, .afterBody, .afterAfterBody]
  | inFrames _ _ => [.inFrameset, .afterFrameset, .afterAfterFrameset]

/-- Whether structural elements can be open. -/
def Stage.holdsContent : Stage → Bool
  | inHead _ _ | afterHead _ _ | inBody _ _ _ => true
  | _ => false

/-- Content is not held by framesets. -/
theorem Stage.bodied {stage : Stage} (content : stage.holdsContent = true) :
    stage.isFrames = false := by
  cases stage with
  | inFrames => cases content
  | _ => rfl

/-- The mode follows the innermost structural element or, where there is none, the frame. -/
def View.Fits (v : View) : Prop :=
  match v.kinds with
  | [] => v.mode ∈ v.stage.modes
  | n :: _ => v.stage.holdsContent = true ∧ n ∈ v.mode.seats

namespace View.Fits

variable {v : View}

/-- Where no structural element is open, the modes of the frame fit. -/
theorem of_frame (kinds : v.kinds = []) {mode : Mode} (member : mode ∈ v.stage.modes) :
    Fits { v with mode } := by
  unfold Fits
  dsimp only
  rw [kinds]
  exact member

/-- Outside the head there is room for content. -/
theorem roomy (fits : v.Fits)
    (late : v.mode ∉ [.initial, .beforeHtml, .beforeHead, .inHead, .afterHead]) : v.Roomy := by
  unfold Fits at fits
  split at fits
  · left
    cases stage : v.stage <;> simp only [stage, Stage.modes] at fits
    case inBody | inFrames => rfl
    all_goals
      simp only [List.mem_cons, List.not_mem_nil, or_false] at fits late
      tauto
  · next some =>
    right
    rw [some]
    nofun

/-- Where structural elements are open, the frame holds content. -/
theorem content (fits : v.Fits) (some : v.kinds ≠ []) : v.stage.holdsContent = true := by
  unfold Fits at fits
  split at fits
  · next none => exact absurd none some
  · exact fits.1

/-- The mode tells whether a selection is the innermost structural element. -/
theorem free (fits : v.Fits) (other : v.mode ≠ .inSelect ∧ v.mode ≠ .inSelectInTable) :
    v.kinds.head? ≠ some "select" := by
  unfold Fits at fits
  split at fits
  · next none =>
    rw [none]
    nofun
  · next n _ some =>
    rw [some]
    rintro ⟨⟩
    obtain ⟨_, seat⟩ := fits
    cases mode : v.mode <;> simp_all [Mode.seats]

end View.Fits

namespace Builder

open Sketch

variable {v : View} {b : Builder}

namespace Sound

/-- The number of templates among the structural elements that are open. -/
theorem templates_of (sound : Sound v b) {pre rest : List Nat} (split : b.opened = pre ++ rest)
    (none : ∀ id ∈ pre, b.sketch.kind id ≠ some "template") :
    (rest.filterMap b.sketch.kind).count "template" = v.kinds.count "template" := by
  have absent : (pre.filterMap b.sketch.kind).count "template" = 0 := by
    rw [List.count_eq_zero]
    intro member
    obtain ⟨id, inside, found⟩ := List.mem_filterMap.mp member
    exact none id inside found
  rw [← sound.stack.kinds, split, List.filterMap_append, List.count_append, absent, Nat.zero_add]

/-- Elements are closed of which none is a template. -/
theorem closeKinds (sound : Sound v b) {pre rest : List Nat} (split : b.opened = pre ++ rest)
    (ordinary : ∀ id ∈ pre, b.sketch.isOrdinary id = true)
    (none : ∀ id ∈ pre, b.sketch.kind id ≠ some "template") :
    Sound { v with kinds := rest.filterMap b.sketch.kind } { b with opened := rest } := by
  have stack := sound.stack
  rw [split] at stack
  exact sound.withStack (stack.drop ordinary) (sound.templates_of split none)

/-- A template is closed, with all that is open in it. -/
theorem closeTemplate (sound : Sound v b) {pre rest : List Nat} {id : Nat}
    (split : b.opened = pre ++ id :: rest)
    (ordinary : ∀ id ∈ pre, b.sketch.isOrdinary id = true)
    (none : ∀ id ∈ pre, b.sketch.kind id ≠ some "template")
    (template : b.sketch.kind id = some "template") :
    Sound { v with kinds := rest.filterMap b.sketch.kind }
      { b with opened := rest, templateModes := b.templateModes.drop 1 } := by
  have count := sound.templates_of split none
  rw [List.filterMap_cons_some template, List.count_cons_self, ← sound.templates] at count
  have own : b.sketch.isOrdinary id = true := by
    by_contra framed
    rw [kind_framed (by simpa using framed)] at template
    cases template
  have stack := sound.stack
  rw [split, ← List.singleton_append, ← List.append_assoc] at stack
  exact { sound with
    stack := stack.drop (by
      intro other member
      rcases List.mem_append.mp member with above | here
      · exact ordinary other above
      · rwa [List.mem_singleton.mp here])
    templateModes := fun mode member => sound.templateModes mode (List.mem_of_mem_drop member)
    templates := by
      rw [List.length_drop]
      dsimp only
      omega
    frameset := by
      intro allowed
      rw [sound.frameset allowed, List.drop_nil] }

/-! ## The innermost structural element -/

/-- Elements are closed until the innermost structural one is the innermost one. -/
theorem toTop (sound : Sound v b) {n : String} {others : List String}
    (kinds : v.kinds = n :: others) {kept : Nat → Bool}
    (accepts : ∀ id, b.sketch.kind id = some n → kept id = true)
    (rejects : ∀ id, b.sketch.Light id → kept id = false) :
    ∃ id below, b.popUntil kept = { b with opened := id :: below } ∧
      b.sketch.kind id = some n ∧ b.sketch.isOrdinary id = true ∧
      Sound v { b with opened := id :: below } := by
  have stack := sound.stack
  rw [kinds] at stack
  obtain ⟨above, id, below, split, light, found, ordinary, _⟩ := stack.top
  refine ⟨id, below, ?_, found, ordinary, sound.closeLight split light⟩
  rw [popUntil, split, dropWhile_first (accepts id found) fun other member =>
    rejects other (light other member)]

/-- The innermost structural element is closed, if it is no template. -/
theorem popTop (sound : Sound v b) {n : String} {others : List String}
    (kinds : v.kinds = n :: others) (other : n ≠ "template") {last : Nat → Bool}
    (accepts : ∀ id, b.sketch.kind id = some n → last id = true)
    (rejects : ∀ id, b.sketch.Light id → last id = false) :
    Sound { v with kinds := others } (b.popThrough last) := by
  obtain ⟨id, below, popped, found, ordinary, sound'⟩ := sound.toTop kinds accepts rejects
  have closed := sound'.closeKinds rfl
    (by
      intro other member
      rwa [List.mem_singleton.mp member])
    (by
      intro other' member
      rw [List.mem_singleton.mp member, found]
      exact fun same => other (Option.some.inj same))
  have rest : below.filterMap b.sketch.kind = others := by
    have whole := sound'.stack.kinds
    rw [List.filterMap_cons_some found, kinds] at whole
    exact (List.cons.inj whole).2
  have same : b.popThrough last = (b.popUntil last).pop := rfl
  rw [same, popped]
  rw [rest] at closed
  exact closed

/-- What a structural element has to stand on is the next structural one. -/
theorem below_top (sound : Sound v b) {n : String} {others allowed : List String}
    (kinds : v.kinds = n :: others) (seat : seats n = some allowed) :
    ∃ m ∈ allowed, others.head? = some m := by
  have stack := sound.stack
  rw [kinds] at stack
  exact stack.seat seat

/-! ## The mode by the open elements -/

/-- An element that is not structural does not tell the mode. -/
theorem modeFor_light (sound : Sound v b) (content : v.stage.holdsContent = true) {id : Nat}
    (member : id ∈ b.opened) (light : b.sketch.Light id) (rest : List Nat) :
    b.modeFor (id :: rest) = b.modeFor rest := by
  obtain ⟨space, name, contents, outline⟩ := outline_of_element (sound.stack.elements id member)
  have named : b.nameOf id = (space, name) := nameOf_of_outline outline
  have ordinary := light.1
  have structure_none := light.2
  have unframed : b.sketch.nameOf id ≠ (.html, "frameset") := by
    intro frameset
    obtain ⟨inner, whole, each, _⟩ := sound.stack.inner
    rw [whole] at member
    rcases List.mem_append.mp member with inside | framed
    · have frames := (each id inside).2 frameset
      cases stage : v.stage <;> simp [stage, Stage.isFrames, Stage.holdsContent] at frames content
    · rw [sound.stack.base id framed] at ordinary
      cases ordinary
  have other : b.sketch.nameOf id = (space, name) := named
  rw [modeFor, named]
  cases space with
  | svg => rfl
  | math => rfl
  | html =>
    rw [isOrdinary, outline] at ordinary
    rw [Sketch.kind, other] at structure_none
    rw [other] at unframed
    dsimp only
    split <;> first | rfl | simp_all [structural, SketchKind.isOrdinary]

theorem modeFor_above (sound : Sound v b) (content : v.stage.holdsContent = true)
    {above : List Nat} (inside : ∀ id ∈ above, id ∈ b.opened)
    (light : ∀ id ∈ above, b.sketch.Light id) (rest : List Nat) :
    b.modeFor (above ++ rest) = b.modeFor rest := by
  induction above with
  | nil => rfl
  | cons id others inductionHypothesis =>
    rw [List.cons_append, sound.modeFor_light content (inside id List.mem_cons_self)
      (light id List.mem_cons_self)]
    exact inductionHypothesis (fun other member => inside other (List.mem_cons_of_mem _ member))
      fun other member => light other (List.mem_cons_of_mem _ member)

/-- The mode that a structural element calls for. -/
theorem modeFor_kind (sound : Sound v b) {id : Nat} {below : List Nat} {n : String}
    (found : b.sketch.kind id = some n) (above : below ≠ []) :
    n ∈ (b.modeFor (id :: below)).seats := by
  obtain ⟨named, known⟩ := kind_eq_some.mp found
  have name : b.nameOf id = (.html, n) := named
  have more : below.isEmpty = false := by simpa using above
  rw [modeFor, name]
  fin_cases known <;> simp only [more, Bool.false_eq_true, if_false]
  case «9» =>
    split
    · split <;> decide
    · decide
  case «10» =>
    cases modes : b.templateModes with
    | nil => decide
    | cons mode rest =>
      have target := sound.templateModes mode (by simp [modes])
      rw [List.headD_cons]
      fin_cases target <;> decide
  all_goals decide

/-- The mode that is chosen by the open elements fits them. -/
theorem fits_modeFor (sound : Sound v b) (content : v.stage.holdsContent = true) :
    View.Fits { v with mode := b.modeFor b.opened } := by
  cases kinds : v.kinds with
  | nil =>
    obtain ⟨inner, whole, each, _⟩ := sound.stack.inner
    have none := List.filterMap_eq_nil_iff.mp (sound.stack.kinds.trans kinds)
    have light : ∀ id ∈ inner, b.sketch.Light id := by
      intro id member
      exact ⟨(each id member).1, none id (by rw [whole]; exact List.mem_append_left _ member)⟩
    have mode : b.modeFor b.opened = b.modeFor v.stage.base := by
      conv_lhs => rw [whole]
      apply sound.modeFor_above content _ light
      intro id member
      rw [whole]
      exact List.mem_append_left _ member
    have remembered := sound.head
    have names : ∀ id name, (id, name) ∈ v.stage.members → b.nameOf id = (.html, name) :=
      fun id name member => nameOf_of_outline (sound.shape.members id name member)
    rw [View.Fits]
    dsimp only
    rw [mode]
    cases stage : v.stage <;> rw [stage] at content remembered names
    case inHead html head =>
      have name := names head "head" (by simp [Stage.members])
      simp [Stage.base, modeFor, name, Stage.modes]
    case afterHead html head =>
      have name := names html "html" (by simp [Stage.members])
      simp [Stage.base, modeFor, name, Stage.modes, remembered, Stage.head?]
    case inBody html head body =>
      have name := names body "body" (by simp [Stage.members])
      simp [Stage.base, modeFor, name, Stage.modes]
    all_goals cases content
  | cons n others =>
    have stack := sound.stack
    rw [kinds] at stack
    obtain ⟨above, id, below, split, light, found, ordinary, _⟩ := stack.top
    have mode : b.modeFor b.opened = b.modeFor (id :: below) := by
      conv_lhs => rw [split]
      apply sound.modeFor_above content _ light
      intro other member
      rw [split]
      exact List.mem_append_left _ member
    have some : below ≠ [] := by
      obtain ⟨left, _, rest, _⟩ := stack.above_ordinary split ordinary
      rintro rfl
      have empty := (List.append_eq_nil_iff.mp rest.symm).2
      cases stage : v.stage <;> rw [stage] at content empty <;> cases content <;> cases empty
    rw [View.Fits]
    refine ⟨content, ?_⟩
    rw [mode]
    exact sound.modeFor_kind found some

theorem withResumed (sound : Sound v b) (resumed : Mode) :
    Sound { v with resumed } { b with resumed } :=
  { sound with resumed := rfl }

end Sound

/-! ## States between tokens -/

/-- A state in which the construction can be: the mode fits the open elements. Text of a table is
collected before it is known where it goes, and the element of raw text is open above everything
else; the mode that comes after fits then. -/
inductive Good (b : Builder) : Prop where
  | fits (v : View) (sound : Sound v b) (fits : v.Fits)
  | tableText (v : View) (sound : Sound v b) (mode : v.mode = .inTableText)
      (table : v.resumed ∈ [.inTable, .inTableBody, .inRow])
      (fits : View.Fits { v with mode := v.resumed })
  | rawText (v : View) (raw : Nat) (rest : List Nat) (mode : b.mode = .text)
      (opened : b.opened = raw :: rest) (html : (b.sketch.nameOf raw).1 = .html)
      (ordinary : b.sketch.isOrdinary raw = true)
      (sound : Sound v { b with opened := rest, mode := b.resumed }) (fits : v.Fits)

namespace Good

/-- What the view does not show is changed. -/
theorem unseen (good : b.Good) (legacy fosters skips : Bool) (reading : Reading) :
    Good { b with legacy, fosters, skipsLineFeed := skips, reading } := by
  cases good with
  | fits v sound fits => exact .fits v (sound.unseen legacy fosters skips reading) fits
  | tableText v sound mode table fits =>
    exact .tableText v (sound.unseen legacy fosters skips reading) mode table fits
  | rawText v raw rest mode opened html ordinary sound fits =>
    exact .rawText v raw rest mode opened html ordinary
      (sound.unseen legacy fosters skips reading) fits

/-- A frameset is no longer allowed. -/
theorem forbid (good : b.Good) : Good { b with allowsFrameset := false } := by
  cases good with
  | fits v sound fits => exact .fits v sound.forbid fits
  | tableText v sound mode table fits => exact .tableText v sound.forbid mode table fits
  | rawText v raw rest mode opened html ordinary sound fits =>
    exact .rawText v raw rest mode opened html ordinary sound.forbid fits

theorem mark (good : b.Good) : b.mark.Good := by
  cases good with
  | fits v sound fits => exact .fits v sound.mark fits
  | tableText v sound mode table fits => exact .tableText v sound.mark mode table fits
  | rawText v raw rest mode opened html ordinary sound fits =>
    exact .rawText v raw rest mode opened html ordinary sound.mark fits

/-- The mode may be chosen anew after an element is closed. -/
theorem reset (sound : Sound v b) (content : v.stage.holdsContent = true) : Good b.resetMode :=
  .fits { v with mode := b.modeFor b.opened } (sound.withMode _) (sound.fits_modeFor content)

end Good

end Builder

end Pagefold.Html
