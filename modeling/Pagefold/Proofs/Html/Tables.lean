import Mathlib
import Pagefold.Proofs.Html.Contents

/-!
# Tables, selections and templates

In these modes a token opens and closes structural elements. The mode tells which of them is the
innermost one, so it is known what is closed, and what it stands on tells the mode that comes next.
-/
namespace Pagefold.Html.Builder

open Sketch Step

variable {v : View} {b : Builder} {tag : Tag}

/-! ## Searching and closing -/

/-- An element that is not structural has no structural name, and it is not the root. -/
theorem isOneOf_light {id : Nat} (light : b.sketch.Light id) {names : List String}
    (known : ∀ name ∈ names, name ∈ "html" :: structural) : b.isOneOf names id = false := by
  rw [← Bool.not_eq_true, isOneOf_iff]
  rintro ⟨name, member, named⟩
  rcases List.mem_cons.mp (known name member) with rfl | structure_name
  · have element : (b.sketch.elementName? id).isSome = true := by
      rw [Sketch.nameOf] at named
      cases found : b.sketch.elementName? id with
      | none =>
        rw [found] at named
        exact absurd (Prod.mk.inj named).2 (by decide)
      | some _ => rfl
    obtain ⟨space, name, contents, outline⟩ := outline_of_element element
    rw [nameOf_of_outline outline] at named
    obtain ⟨rfl, rfl⟩ := Prod.mk.inj named
    have ordinary := light.1
    rw [isOrdinary, outline] at ordinary
    cases ordinary
  · have found := kind_eq_some.mpr ⟨named, structure_name⟩
    rw [light.2] at found
    cases found

theorem isNamed_eq (name : String) : b.isNamed name = b.isOneOf [name] := by
  funext id
  rw [Bool.eq_iff_iff, isNamed_iff, isOneOf_iff]
  simp

theorem isNamed_light {id : Nat} (light : b.sketch.Light id) {name : String}
    (known : name ∈ structural) : b.isNamed name id = false := by
  rw [← Bool.not_eq_true, isNamed_iff]
  intro named
  have found := kind_eq_some.mpr ⟨named, known⟩
  rw [light.2] at found
  cases found

theorem isNamed_kind {id : Nat} {n : String} (found : b.sketch.kind id = some n) :
    b.isNamed n id = true :=
  isNamed_iff.mpr (kind_eq_some.mp found).1

theorem isOneOf_kind {id : Nat} {n : String} (found : b.sketch.kind id = some n)
    {names : List String} : b.isOneOf names id = decide (n ∈ names) := by
  rw [Bool.eq_iff_iff, isOneOf_iff, (kind_eq_some.mp found).1, decide_eq_true_iff]
  constructor
  · rintro ⟨name, member, same⟩
    rwa [(Prod.mk.inj same).2]
  · intro member
    exact ⟨n, member, rfl⟩

namespace Sound

/-- A search in table scope does not come past a template that is the innermost structural
element. -/
theorem inScope_template (sound : Sound v b) {others : List String}
    (kinds : v.kinds = "template" :: others) {wanted : Nat → Bool}
    (light : ∀ id, b.sketch.Light id → wanted id = false)
    (template : ∀ id, b.sketch.kind id = some "template" → wanted id = false) :
    b.inScope b.endsTableScope wanted = false := by
  have stack := sound.stack
  rw [kinds] at stack
  obtain ⟨above, id, below, split, each, found, _⟩ := stack.top
  have ends : ∀ other ∈ above, (wanted other || b.endsTableScope other) = false := by
    intro other member
    have own := each other member
    rw [light other own, endsTableScope, isOneOf_light own (by decide)]
    rfl
  have first : b.opened.find? (fun id => wanted id || b.endsTableScope id) = some id := by
    rw [split, List.find?_append, List.find?_eq_none.mpr fun other member => by
      rw [ends other member]
      decide, Option.none_or, List.find?_cons_of_pos]
    rw [endsTableScope, isOneOf_kind found]
    simp
  rw [inScope, first]
  exact template id found

/-- Where something but a template is found in table scope, the innermost structural element is no
template. -/
theorem not_template (sound : Sound v b) {n : String} {others : List String}
    (kinds : v.kinds = n :: others) {names : List String}
    (known : ∀ name ∈ names, name ∈ structural ∧ name ≠ "template")
    (found : b.inScope b.endsTableScope (b.isOneOf names) = true) : n ≠ "template" := by
  rintro rfl
  rw [sound.inScope_template kinds] at found
  · cases found
  · intro id light
    exact isOneOf_light light fun name member => List.mem_cons_of_mem _ (known name member).1
  · intro id template
    rw [isOneOf_kind template, decide_eq_false_iff_not]
    exact fun member => (known _ member).2 rfl

/-- What is found in table scope is closed, and what it stands on is the innermost structural
element then. -/
theorem closeInTable (sound : Sound v b) {above below : List Nat} {id : Nat} {name : String}
    (split : b.opened = above ++ id :: below) (found : b.sketch.kind id = some name)
    (other : name ≠ "template") (outside : ∀ other ∈ above, b.endsTableScope other = false) :
    ∃ kinds, Sound { v with kinds } { b with opened := below } ∧
      ∀ allowed, seats name = some allowed → ∃ m ∈ allowed, kinds.head? = some m := by
  have own : b.sketch.isOrdinary id = true := by
    by_contra framed
    rw [kind_framed (by simpa using framed)] at found
    cases found
  obtain ⟨left, each, _⟩ := sound.stack.above_ordinary split own
  have joined : b.opened = (above ++ [id]) ++ below := by rw [split]; simp
  have closed := sound.closeKinds joined
    (by
      intro other member
      apply (each other _).1
      simp at member ⊢
      tauto)
    (by
      intro other' member template
      rcases List.mem_append.mp member with inside | here
      · have ended : b.endsTableScope other' = true := by
          rw [endsTableScope, isOneOf_kind template]
          rfl
        rw [outside other' inside] at ended
        cases ended
      · rw [List.mem_singleton.mp here, found] at template
        exact other (Option.some.inj template))
  refine ⟨_, closed, ?_⟩
  intro allowed seat
  have seated := sound.stack.seated
  rw [split] at seated
  obtain ⟨m, member, stands⟩ := seated.drop.1 name allowed found seat
  refine ⟨m, member, ?_⟩
  cases below with
  | nil => cases stands
  | cons next rest =>
    have first : b.sketch.kind next = some m := stands
    rw [List.filterMap_cons_some first, List.head?_cons]

/-- A table that is found in table scope is closed. -/
theorem closeTable (sound : Sound v b) (found : b.hasInTableScope "table" = true) :
    ∃ kinds, Sound { v with kinds } (b.popNamed "table") := by
  obtain ⟨above, id, below, split, named, others⟩ := scope_split found
  obtain ⟨kinds, closed, _⟩ := sound.closeInTable split
    (kind_eq_some.mpr ⟨isNamed_iff.mp named, by decide⟩) (by decide)
    fun other member => (others other member).2
  refine ⟨kinds, ?_⟩
  rw [Builder.popNamed, Builder.popThrough, split, dropWhile_first named fun other member =>
    (others other member).1]
  exact closed

/-- A structural element is closed where it is the innermost one. -/
theorem popKind (sound : Sound v b) {n : String}
    (here : b.opened.head?.bind b.sketch.kind = some n) (other : n ≠ "template") :
    ∃ others, v.kinds = n :: others ∧ Sound { v with kinds := others } b.pop := by
  cases opened : b.opened with
  | nil =>
    rw [opened] at here
    cases here
  | cons id below =>
    rw [opened] at here
    have found : b.sketch.kind id = some n := here
    have whole := sound.stack.kinds
    rw [opened, List.filterMap_cons_some found] at whole
    refine ⟨_, whole.symm, ?_⟩
    have own : b.sketch.isOrdinary id = true := by
      by_contra framed
      rw [kind_framed (by simpa using framed)] at found
      cases found
    have closed := sound.closeKinds opened
      (by
        intro other' member
        rwa [List.mem_singleton.mp member])
      (by
        intro other' member
        rw [List.mem_singleton.mp member, found]
        exact fun same => other (Option.some.inj same))
    rw [Builder.pop, opened]
    exact closed

/-- Elements are closed until the innermost structural element is the innermost one. -/
theorem popUntil (sound : Sound v b) {n : String} {others : List String}
    (kinds : v.kinds = n :: others) (names : List String)
    (known : ∀ name ∈ names, name ∈ "html" :: structural) (accepted : n ∈ names) :
    Sound v (b.popUntil (b.isOneOf names)) ∧
      (b.popUntil (b.isOneOf names)).opened.head?.bind
        (b.popUntil (b.isOneOf names)).sketch.kind = some n := by
  obtain ⟨id, below, popped, found, _, sound'⟩ := sound.toTop kinds
    (fun id found => by rw [isOneOf_kind found]; simpa using accepted)
    (fun id light => isOneOf_light light known)
  rw [popped]
  exact ⟨sound', found⟩

end Sound

/-! ## Fitting modes -/

/-- The modes that only a structural element calls for. -/
def innerModes : List Mode :=
  [.inTable, .inTableBody, .inRow, .inCell, .inCaption, .inColumnGroup, .inSelect,
   .inSelectInTable, .inTemplate]

/-- In an inner mode the innermost structural element is one of those of the mode. -/
theorem fits_kinds (fits : v.Fits) (inner : v.mode ∈ innerModes) :
    ∃ n others, v.kinds = n :: others ∧ n ∈ v.mode.seats ∧ v.stage.holdsContent = true := by
  unfold View.Fits at fits
  split at fits
  · exfalso
    generalize v.mode = mode at fits inner
    generalize v.stage = stage at fits
    cases stage <;> fin_cases inner <;> simp [Stage.modes] at fits
  · next n others kinds => exact ⟨n, others, kinds, fits.2, fits.1⟩

/-- A part of a table is closed, and the mode is that of what it stands on. -/
theorem Good.leave (sound : Sound v b) (content : v.stage.holdsContent = true) {m : String}
    {allowed : List String} (member : m ∈ allowed) (kinds : v.kinds.head? = some m) (mode : Mode)
    (seats : ∀ m ∈ allowed, m ∈ mode.seats) : Good { b with mode } := by
  refine .fits _ (sound.withMode mode) ?_
  unfold View.Fits
  split
  · next none =>
    have none' : v.kinds = [] := none
    rw [none'] at kinds
    cases kinds
  · next n others some =>
    have some' : v.kinds = n :: others := some
    rw [some'] at kinds
    obtain rfl := Option.some.inj kinds
    exact ⟨content, seats n member⟩

/-- A part of a table is opened on what it has to stand on, and the mode is its own. -/
theorem Good.insertPart (sound : Sound v b) (content : v.stage.holdsContent = true) {n : String}
    (here : b.opened.head?.bind b.sketch.kind = some n) (known : tag.name ∈ structural)
    (other : tag.name ≠ "template")
    (seat : ∀ allowed, seats tag.name = some allowed → n ∈ allowed) (mode : Mode)
    (own : tag.name ∈ mode.seats) : Good { b.insert tag with mode } := by
  have some : v.kinds ≠ [] := by
    intro none
    have unstructured := List.filterMap_eq_nil_iff.mp (sound.stack.kinds.trans none)
    cases opened : b.opened with
    | nil =>
      rw [opened] at here
      cases here
    | cons id below =>
      rw [opened] at here unstructured
      have found : b.sketch.kind id = Option.some n := here
      rw [unstructured id List.mem_cons_self] at found
      cases found
  have opened := sound.insertKind tag known other (fun allowed seated => ⟨n, seat allowed seated, here⟩)
    (Or.inr some)
  exact .fits _ (opened.withMode mode) ⟨content, own⟩

/-! ## Tables -/

/-- Content that does not belong into a table is taken up in front of it. -/
theorem foster_good (sound : Sound v b) (fits : v.Fits) (roomy : v.Roomy)
    (content : v.stage.holdsContent = true) (free : v.kinds.head? ≠ some "select") (token : Token)
    (apart : ∀ name, token = .endTag name → name = "template" ∨ v.kinds.head? ≠ some name)
    (leaves : ∀ name, token = .endTag name → name ≠ "body" ∧ name ≠ "html") :
    (foster b token).Good := by
  have fostered := sound.unseen b.legacy true b.skipsLineFeed b.reading
  have good := inBody_good fostered fits roomy content free token apart (by
    rintro name same (rfl | rfl)
    · exact absurd rfl (leaves _ same).1
    · exact absurd rfl (leaves _ same).2)
  unfold foster
  generalize inBody _ token = step at good
  cases step with
  | done b' | again b' => exact Good.unseen good b'.legacy false b'.skipsLineFeed b'.reading

/-- A token in a table. The cases are in the order of the definition. -/
theorem inTableMode_good (sound : Sound v b) (fits : v.Fits)
    (mode : v.mode ∈ [.inTable, .inTableBody, .inRow]) (token : Token)
    (own : ∀ tag, token = .startTag tag → tag.name ∈ ["caption", "colgroup", "col", "tbody",
      "tfoot", "thead", "td", "th", "tr"] → v.mode = .inTable) : (inTableMode b token).Good := by
  obtain ⟨n, others, kinds, seat, content⟩ := fits_kinds fits
    ((by decide : ∀ mode ∈ [Mode.inTable, .inTableBody, .inRow], mode ∈ innerModes) v.mode mode)
  have part := (by decide : ∀ mode ∈ [Mode.inTable, .inTableBody, .inRow], ∀ n ∈ mode.seats,
    n ∈ ["table", "tbody", "tfoot", "thead", "tr", "template"]) v.mode mode n seat
  have roomy : v.Roomy := Or.inr (by simp [kinds])
  have free : v.kinds.head? ≠ some "select" := by
    rw [kinds]
    rintro ⟨⟩
    revert part
    decide
  have same : ∀ {b : Builder}, Sound v b → (done b).Good := fun sound => .fits v sound fits
  -- A part of a table is opened on the table or on the template.
  have opened : ∀ tag : Tag, v.mode = .inTable → tag.name ∈ ["caption", "colgroup", "tbody",
      "tfoot", "thead"] → ∀ mode : Mode, tag.name ∈ mode.seats →
        Good { b.toTable.insert tag with mode } ∧ Good { b.toTable.mark.insert tag with mode } := by
    intro tag table member mode fit
    rw [table] at seat
    obtain ⟨sound', here⟩ := sound.popUntil kinds ["html", "table", "template"]
      (by decide) (List.mem_cons_of_mem _ seat)
    have known : tag.name ∈ structural ∧ tag.name ≠ "template" ∧
        seats tag.name = some ["table", "template"] := by
      generalize tag.name = name at member
      fin_cases member <;> decide
    have seated : ∀ allowed, seats tag.name = some allowed → n ∈ allowed := by
      intro allowed same
      rw [known.2.2] at same
      obtain rfl := Option.some.inj same
      exact seat
    exact ⟨Good.insertPart sound' content here known.1 known.2.1 seated mode fit,
      Good.insertPart sound'.mark content here known.1 known.2.1 seated mode fit⟩
  have ended : b.hasInTableScope "table" = true → Good (b.popNamed "table").resetMode := by
    intro found
    obtain ⟨kinds', closed⟩ := sound.closeTable found
    exact Good.reset closed content
  have fostered : ∀ token, (∀ name, token = .endTag name → name ∉ ["table", "tbody", "tfoot",
      "thead", "tr", "body", "html"]) → (foster b token).Good := by
    intro token other
    apply foster_good sound fits roomy content free token
    · intro name same
      by_cases template : name = "template"
      · exact Or.inl template
      · right
        rw [kinds]
        rintro ⟨⟩
        have absent := other n same
        simp only [List.mem_cons, List.not_mem_nil, or_false] at part absent
        tauto
    · intro name same
      have absent := other name same
      simp only [List.mem_cons, List.not_mem_nil, or_false] at absent
      tauto
  unfold inTableMode
  cases token with
  | null | blanks _ | text _ =>
    dsimp only
    split
    · exact .tableText { v with resumed := b.mode, mode := .inTableText }
        ((sound.withResumed b.mode).withMode .inTableText) rfl (by rw [sound.mode]; exact mode) (by
          rw [sound.mode]
          exact fits)
    · exact fostered _ nofun
  | comment text => exact same (sound.insertComment text)
  | startTag tag =>
    have table : ∀ {name}, tag.name = name → name ∈ ["caption", "colgroup", "col", "tbody",
        "tfoot", "thead", "td", "th", "tr"] → v.mode = .inTable := by
      intro name named member
      exact own tag rfl (by rw [named]; exact member)
    dsimp only
    split
    · next name =>
      exact (opened tag (table name (by decide)) (by rw [name]; decide) .inCaption
        (by rw [name]; decide)).2
    · next name =>
      exact (opened tag (table name (by decide)) (by rw [name]; decide) .inColumnGroup
        (by rw [name]; decide)).1
    · next name =>
      exact (opened { name := "colgroup" } (table name (by decide)) (by decide) .inColumnGroup
        (by decide)).1
    iterate 3
      next name =>
        exact (opened tag (table name (by decide)) (by rw [name]; decide) .inTableBody
          (by rw [name]; decide)).1
    iterate 3
      next name =>
        exact (opened { name := "tbody" } (table name (by decide)) (by decide) .inTableBody
          (by decide)).1
    · split
      · next found => exact ended found
      · exact same sound
    iterate 3
      next name => exact headContent_good sound fits (by rw [name]; decide) fun _ => content
    · next name =>
      split
      · exact same (sound.insertVoid tag (by rw [name]; exact fun _ => rfl))
      · exact fostered _ nofun
    · next name =>
      split
      · exact same sound
      · exact same (sound.insertForm roomy name).2
    · exact fostered _ nofun
  | endTag name =>
    dsimp only
    split
    · split
      · next found => exact ended found
      · exact same sound
    iterate 11
      exact same sound
    · exact Good.endTemplate sound fits
    · apply fostered
      rintro name ⟨⟩ member
      fin_cases member <;> contradiction
  | eof => exact inBody_good sound fits roomy content free .eof (by simp) (by simp)
  | doctype _ | fault => exact same sound

/-- The text that was collected in a table is put into the table or in front of it. -/
theorem Sound.flushTableText (sound : Sound v b) (roomy : v.Roomy) :
    Sound v b.flushTableText := by
  have flushed : Sound v { b with tableText := [] } := { sound with pending := by simp }
  unfold Builder.flushTableText
  dsimp only
  split
  · refine List.foldlRecOn _ _ flushed ?_
    intro b sound token _
    cases token with
    | blanks run => exact sound.insertText run
    | _ => exact sound
  · refine List.foldlRecOn _ _ flushed ?_
    intro b sound' token member
    obtain ⟨b', step, sound''⟩ := inBody_text
      (sound'.unseen b.legacy true b.skipsLineFeed b.reading) roomy (sound.pending token member)
    have fostered : foster b token = done { b' with fosters := false } := by
      rw [Builder.foster, step]
      rfl
    rw [fostered]
    exact sound''.unseen b'.legacy false b'.skipsLineFeed b'.reading

/-- A token after text in a table. -/
theorem inTableText_good (sound : Sound v b) (mode : v.mode = .inTableText)
    (table : v.resumed ∈ [.inTable, .inTableBody, .inRow])
    (fits : View.Fits { v with mode := v.resumed }) (token : Token) :
    (inTableText b token).Good := by
  have kept : ∀ token, Foreign.isText token = true →
      Good { b with tableText := b.tableText ++ [token] } := by
    intro token text
    refine .tableText v { sound with pending := ?_ } mode table fits
    intro other member
    rcases List.mem_append.mp member with before | new
    · exact sound.pending other before
    · rwa [List.mem_singleton.mp new]
  have roomy : v.Roomy := by
    have late : View.Roomy { v with mode := v.resumed } := by
      apply fits.roomy
      exact (by decide : ∀ mode ∈ [Mode.inTable, .inTableBody, .inRow],
        mode ∉ [Mode.initial, .beforeHtml, .beforeHead, .inHead, .afterHead]) v.resumed table
    exact late
  have flushed := sound.flushTableText roomy
  have left : (redirect b.flushTableText b.flushTableText.resumed).Good := by
    have resumed := flushed.withMode b.flushTableText.resumed
    refine .fits _ resumed ?_
    rw [flushed.resumed]
    exact fits
  cases token with
  | null => exact .tableText v sound mode table fits
  | blanks run => exact kept (.blanks run) rfl
  | text run => exact kept (.text run) rfl
  | _ => exact left

/-- A token in a caption. -/
theorem inCaption_good (sound : Sound v b) (fits : v.Fits) (mode : v.mode = .inCaption)
    (token : Token) : (inCaption b token).Good := by
  obtain ⟨n, others, kinds, seat, content⟩ := fits_kinds fits (by rw [mode]; decide)
  obtain rfl : n = "caption" := by rw [mode] at seat; exact List.mem_singleton.mp seat
  have roomy : v.Roomy := Or.inr (by simp [kinds])
  have free := fits.free (by rw [mode]; decide)
  have closed : Good { ((b.closeImplied "").popNamed "caption").clearFormatting with
      mode := .inTable } := by
    have popped := ((sound.closeImplied "").popTop kinds (by decide)
      (fun id found => isNamed_kind found)
      fun id light => isNamed_light light (by decide)).clearFormatting
    obtain ⟨m, member, first⟩ := sound.below_top kinds rfl
    exact Good.leave popped content member first .inTable (by decide)
  have inner : ∀ token, (∀ name, token = .endTag name → name ≠ "caption" ∧ name ≠ "body" ∧
      name ≠ "html") → (inBody b token).Good := by
    intro token other
    apply inBody_good sound fits roomy content free token
    · intro name same
      right
      rw [kinds]
      rintro ⟨⟩
      exact (other _ same).1 rfl
    · rintro name same (rfl | rfl)
      · exact absurd rfl (other _ same).2.1
      · exact absurd rfl (other _ same).2.2
  have same : (done b).Good := .fits v sound fits
  unfold inCaption
  dsimp only
  cases token with
  | startTag tag =>
    dsimp only
    split
    · split
      · exact closed
      · exact same
    · exact inner _ (by simp)
  | endTag name =>
    dsimp only
    split
    · split
      · exact closed
      · exact same
    · split
      · exact closed
      · exact same
    iterate 10
      exact same
    · apply inner
      rintro name ⟨⟩
      refine ⟨?_, ?_, ?_⟩
      all_goals
        rintro rfl
        contradiction
  | _ => exact inner _ (by simp)

/-- A token in a group of columns. -/
theorem inColumnGroup_good (sound : Sound v b) (fits : v.Fits) (mode : v.mode = .inColumnGroup)
    (token : Token) : (inColumnGroup b token).Good := by
  obtain ⟨n, others, kinds, seat, content⟩ := fits_kinds fits (by rw [mode]; decide)
  have roomy : v.Roomy := Or.inr (by simp [kinds])
  have free := fits.free (by rw [mode]; decide)
  have same : ∀ {b : Builder}, Sound v b → (done b).Good := fun sound => .fits v sound fits
  have left : b.isNamed "colgroup" b.current = true → Good { b.pop with mode := .inTable } := by
    intro here
    have first : b.opened.head?.bind b.sketch.kind = some "colgroup" := by
      cases opened : b.opened with
      | nil =>
        rw [Builder.current, opened, isNamed_iff] at here
        have root : b.sketch.nameOf Sketch.root = (.html, "") := by
          rw [Sketch.nameOf, elementName_outline, sound.shape.root]
          rfl
        rw [List.headD_nil, root] at here
        exact absurd (Prod.mk.inj here).2 (by decide)
      | cons id below =>
        rw [Builder.current, opened, isNamed_iff] at here
        exact kind_eq_some.mpr ⟨here, by decide⟩
    obtain ⟨others', kinds', popped⟩ := sound.popKind first (by decide)
    obtain ⟨m, member, next⟩ := sound.below_top kinds' rfl
    exact Good.leave popped content member next .inTable (by decide)
  have otherwise : (if b.isNamed "colgroup" b.current then redirect b.pop .inTable
      else done b).Good := by
    split
    · next here => exact left here
    · exact same sound
  unfold inColumnGroup
  dsimp only
  cases token with
  | blanks run => exact same (sound.insertText run)
  | comment text => exact same (sound.insertComment text)
  | startTag tag =>
    dsimp only
    split
    · exact same (sound.mergeRoot tag)
    · next name => exact same (sound.insertVoid tag (by rw [name]; exact fun _ => rfl))
    · next name => exact headContent_good sound fits (by rw [name]; decide) fun _ => content
    · exact otherwise
  | endTag name =>
    dsimp only
    split
    · split
      · next here => exact left here
      · exact same sound
    · exact same sound
    · exact Good.endTemplate sound fits
    · exact otherwise
  | eof => exact inBody_good sound fits roomy content free .eof (by simp) (by simp)
  | _ => exact otherwise

/-- A token between the rows of a table. -/
theorem inTableBody_good (sound : Sound v b) (fits : v.Fits) (mode : v.mode = .inTableBody)
    (token : Token) : (inTableBody b token).Good := by
  obtain ⟨n, others, kinds, seat, content⟩ := fits_kinds fits (by rw [mode]; decide)
  rw [mode] at seat
  have same : (done b).Good := .fits v sound fits
  obtain ⟨toSection, here⟩ := sound.popUntil kinds
    ["tbody", "tfoot", "thead", "template", "html"] (by decide)
    ((by decide : ∀ n ∈ Mode.inTableBody.seats,
      n ∈ ["tbody", "tfoot", "thead", "template", "html"]) n seat)
  have left : n ≠ "template" → Good { b.toSection.pop with mode := .inTable } := by
    intro other
    obtain ⟨others', kinds', popped⟩ := toSection.popKind here other
    have stands : seats n = some ["table", "template"] := by
      revert other
      generalize n = name at seat
      fin_cases seat <;> decide
    obtain ⟨m, member, next⟩ := toSection.below_top kinds' stands
    exact Good.leave popped content member next .inTable (by decide)
  have leave : (if b.inScope b.endsTableScope (b.isOneOf ["table", "tbody", "tfoot"]) then
      redirect b.toSection.pop .inTable else done b).Good := by
    split
    · next found => exact left (sound.not_template kinds (by decide) found)
    · exact same
  have opened : ∀ tag : Tag, tag.name = "tr" → Good { b.toSection.insert tag with mode := .inRow } := by
    intro tag name
    apply Good.insertPart toSection content here (by rw [name]; decide) (by rw [name]; decide)
    · intro allowed stands
      rw [name] at stands
      obtain rfl := Option.some.inj stands
      exact seat
    · rw [name]
      decide
  have inner := inTableMode_good sound fits (by rw [mode]; decide)
  unfold inTableBody
  dsimp only
  cases token with
  | startTag tag =>
    dsimp only
    split
    · next name => exact opened tag name
    iterate 2
      exact opened { name := "tr" } rfl
    iterate 6
      exact leave
    · apply inner
      rintro tag ⟨⟩ member
      have other : ∀ name ∈ ["caption", "colgroup", "col", "tbody", "tfoot", "thead", "td", "th",
          "tr"], tag.name ≠ name := by
        intro name member same
        fin_cases member <;> contradiction
      exact absurd rfl (other _ member)
  | endTag name =>
    dsimp only
    split
    iterate 3
      split
      · next found =>
        rw [hasInTableScope, isNamed_eq] at found
        exact left (sound.not_template kinds (by decide) found)
      · exact same
    · exact leave
    iterate 8
      exact same
    · exact inner _ (by simp)
  | _ => exact inner _ (by simp)

/-- A token in a row. -/
theorem inRow_good (sound : Sound v b) (fits : v.Fits) (mode : v.mode = .inRow) (token : Token) :
    (inRow b token).Good := by
  obtain ⟨n, others, kinds, seat, content⟩ := fits_kinds fits (by rw [mode]; decide)
  rw [mode] at seat
  have same : (done b).Good := .fits v sound fits
  obtain ⟨toRow, here⟩ := sound.popUntil kinds ["tr", "template", "html"] (by decide)
    ((by decide : ∀ n ∈ Mode.inRow.seats, n ∈ ["tr", "template", "html"]) n seat)
  have left : b.hasInTableScope "tr" = true → Good { b.toRow.pop with mode := .inTableBody } := by
    intro found
    rw [hasInTableScope, isNamed_eq] at found
    have other := sound.not_template kinds (by decide) found
    obtain ⟨others', kinds', popped⟩ := toRow.popKind here other
    have stands : seats n = some ["tbody", "tfoot", "thead", "template"] := by
      revert other
      generalize n = name at seat
      fin_cases seat <;> decide
    obtain ⟨m, member, next⟩ := toRow.below_top kinds' stands
    exact Good.leave popped content member next .inTableBody (by decide)
  have leave : (if b.hasInTableScope "tr" then redirect b.toRow.pop .inTableBody
      else done b).Good := by
    split
    · next found => exact left found
    · exact same
  have opened : ∀ tag : Tag, tag.name ∈ ["th", "td"] →
      Good { (b.toRow.insert tag).mark with mode := .inCell } := by
    intro tag member
    have known : tag.name ∈ structural ∧ tag.name ≠ "template" ∧
        seats tag.name = some ["tr", "template"] ∧ tag.name ∈ Mode.inCell.seats := by
      generalize tag.name = name at member
      fin_cases member <;> decide
    apply Good.mark (b := { b.toRow.insert tag with mode := .inCell })
    apply Good.insertPart toRow content here known.1 known.2.1 _ .inCell known.2.2.2
    intro allowed stands
    rw [known.2.2.1] at stands
    obtain rfl := Option.some.inj stands
    exact seat
  have inner := inTableMode_good sound fits (by rw [mode]; decide)
  unfold inRow
  dsimp only
  cases token with
  | startTag tag =>
    dsimp only
    split
    iterate 2
      next name => exact opened tag (by rw [name]; decide)
    iterate 7
      exact leave
    · apply inner
      rintro tag ⟨⟩ member
      have other : ∀ name ∈ ["caption", "colgroup", "col", "tbody", "tfoot", "thead", "td", "th",
          "tr"], tag.name ≠ name := by
        intro name member same
        fin_cases member <;> contradiction
      exact absurd rfl (other _ member)
  | endTag name =>
    dsimp only
    split
    · split
      · next found => exact left found
      · exact same
    · exact leave
    iterate 3
      split
      · exact leave
      · exact same
    iterate 7
      exact same
    · exact inner _ (by simp)
  | _ => exact inner _ (by simp)

/-- A token in a cell. -/
theorem inCell_good (sound : Sound v b) (fits : v.Fits) (mode : v.mode = .inCell)
    (token : Token) : (inCell b token).Good := by
  obtain ⟨n, others, kinds, seat, content⟩ := fits_kinds fits (by rw [mode]; decide)
  rw [mode] at seat
  have roomy : v.Roomy := Or.inr (by simp [kinds])
  have free := fits.free (by rw [mode]; decide)
  have same : (done b).Good := .fits v sound fits
  have closed : Good { ((b.closeImplied "").popThrough (b.isOneOf ["td", "th"])).clearFormatting with
      mode := .inRow } := by
    have cell : ∀ id, b.sketch.kind id = some n → b.isOneOf ["td", "th"] id = true := by
      intro id found
      rw [isOneOf_kind found]
      simpa [Mode.seats] using seat
    have popped := ((sound.closeImplied "").popTop kinds
      ((by decide : ∀ n ∈ Mode.inCell.seats, n ≠ "template") n seat)
     
      cell fun id light => isOneOf_light light (by decide)).clearFormatting
    obtain ⟨m, member, first⟩ := sound.below_top kinds
      ((by decide : ∀ n ∈ Mode.inCell.seats, seats n = some ["tr", "template"]) n seat)
    exact Good.leave popped content member first .inRow (by decide)
  have closedNamed : ∀ name ∈ ["td", "th"], b.hasInTableScope name = true →
      Good { ((b.closeImplied "").popNamed name).clearFormatting with mode := .inRow } := by
    intro name member found
    have known : name ∈ structural ∧ name ≠ "template" ∧ name ∉ impliedEnds ∧
        seats name = some ["tr", "template"] := by
      fin_cases member <;> decide
    obtain ⟨above, id, below, split, named, others⟩ := scope_split found
    obtain ⟨left, suffix, rest⟩ := dropWhile_split
      (p := fun id => b.isOneOf impliedEnds id && !b.isNamed "" id)
      (by
        have explicit : b.isOneOf impliedEnds id = false := by
          have kind := kind_eq_some.mpr ⟨isNamed_iff.mp named, known.1⟩
          rw [isOneOf_kind kind]
          exact decide_eq_false known.2.2.1
        rw [explicit]
        rfl)
    rw [← split] at rest
    obtain ⟨kinds', popped, stands⟩ := (sound.closeImplied "").closeInTable rest
      (kind_eq_some.mpr ⟨isNamed_iff.mp named, known.1⟩) known.2.1
      fun other member => (others other (suffix.subset member)).2
    obtain ⟨m, allowed, first⟩ := stands _ known.2.2.2
    have closed : (b.closeImplied "").popNamed name = { b with opened := below } := by
      have same : (b.closeImplied "").popNamed name = { b with
        opened := (((b.closeImplied "").opened).dropWhile (!b.isNamed name ·)).drop 1 } := rfl
      have dropped : (b.closeImplied "").opened = left ++ id :: below := rest
      rw [same, dropped, dropWhile_first named fun other member =>
        (others other (suffix.subset member)).1]
      rfl
    rw [closed]
    exact Good.leave popped.clearFormatting content allowed first .inRow (by decide)
  have inner : ∀ token, (∀ name, token = .endTag name → name ∉ ["td", "th", "body", "html"]) →
      (inBody b token).Good := by
    intro token other
    apply inBody_good sound fits roomy content free token
    · intro name same
      right
      rw [kinds]
      rintro ⟨⟩
      have absent := other _ same
      simp only [Mode.seats, List.mem_cons, List.not_mem_nil, or_false] at absent seat
      tauto
    · rintro name same (rfl | rfl)
      · exact absurd (by decide) (other _ same)
      · exact absurd (by decide) (other _ same)
  unfold inCell
  dsimp only
  cases token with
  | startTag tag =>
    dsimp only
    split
    iterate 9
      split
      · exact closed
      · exact same
    · exact inner _ (by simp)
  | endTag name =>
    dsimp only
    split
    iterate 2
      split
      · next found => exact closedNamed _ (by decide) found
      · exact same
    iterate 5
      exact same
    iterate 5
      split
      · exact closed
      · exact same
    · apply inner
      rintro name ⟨⟩ member
      fin_cases member <;> contradiction
  | _ => exact inner _ (by simp)

/-! ## Selections -/

/-- A selection that is the innermost structural element is closed. -/
theorem Good.closeSelect (sound : Sound v b) (content : v.stage.holdsContent = true)
    {others : List String} (kinds : v.kinds = "select" :: others) :
    Good (b.popNamed "select").resetMode := by
  have popped := sound.popTop kinds (by decide)
    (fun id found => isNamed_kind found) fun id light => isNamed_light light (by decide)
  exact Good.reset popped content

/-- A token in a selection. -/
theorem inSelect_good (sound : Sound v b) (fits : v.Fits)
    (mode : v.mode ∈ [.inSelect, .inSelectInTable]) (token : Token) :
    (inSelect b token).Good := by
  obtain ⟨n, others, kinds, seat, content⟩ := fits_kinds fits
    ((by decide : ∀ mode ∈ [Mode.inSelect, .inSelectInTable], mode ∈ innerModes) v.mode mode)
  obtain rfl := (by decide : ∀ mode ∈ [Mode.inSelect, .inSelectInTable], ∀ n ∈ mode.seats,
    n = "select") v.mode mode n seat
  have roomy : v.Roomy := Or.inr (by simp [kinds])
  have same : ∀ {b : Builder}, Sound v b → (done b).Good := fun sound => .fits v sound fits
  have ended := Good.closeSelect sound content kinds
  have optionClosed := sound.popIfNamed "option" (by decide)
  have groupClosed := fun {b : Builder} (sound : Sound v b) =>
    sound.popIfNamed "optgroup" (by decide)
  unfold inSelect
  dsimp only
  cases token with
  | null => exact same sound
  | blanks run | text run => exact same (sound.insertText run)
  | comment text => exact same (sound.insertComment text)
  | startTag tag =>
    dsimp only
    split
    · exact same (sound.mergeRoot tag)
    · next name => exact same (optionClosed.insert tag (by rw [name]; decide) roomy)
    · next name => exact same ((groupClosed optionClosed).insert tag (by rw [name]; decide) roomy)
    · next name =>
      exact same ((groupClosed optionClosed).insertVoid tag (by rw [name]; exact fun _ => rfl))
    · split
      · exact ended
      · exact same sound
    iterate 3
      split
      · exact ended
      · exact same sound
    iterate 2
      next name => exact headContent_good sound fits (by rw [name]; decide) fun _ => content
    · exact same sound
  | endTag name =>
    dsimp only
    split
    · apply same
      apply groupClosed
      split
      · exact optionClosed
      · exact sound
    · exact same optionClosed
    · split
      · exact ended
      · exact same sound
    · exact Good.endTemplate sound fits
    · exact same sound
  | eof => exact inBody_eof sound fits
  | doctype _ | fault => exact same sound

/-- A token in a selection inside a table. -/
theorem inSelectInTable_good (sound : Sound v b) (fits : v.Fits)
    (mode : v.mode = .inSelectInTable) (token : Token) : (inSelectInTable b token).Good := by
  obtain ⟨n, others, kinds, seat, content⟩ := fits_kinds fits (by rw [mode]; decide)
  obtain rfl : n = "select" := by rw [mode] at seat; exact List.mem_singleton.mp seat
  have ended := Good.closeSelect sound content kinds
  have inner := inSelect_good sound fits (by rw [mode]; decide)
  unfold inSelectInTable
  cases token with
  | startTag tag =>
    dsimp only
    split
    · exact ended
    · exact inner _
  | endTag name =>
    dsimp only
    split
    · split
      · exact ended
      · exact .fits v sound fits
    · exact inner _
  | _ => exact inner _

/-! ## Templates -/

/-- The contents of a template are taken up in another mode. -/
theorem retarget_good (sound : Sound v b) (content : v.stage.holdsContent = true)
    {others : List String} (kinds : v.kinds = "template" :: others) {mode : Mode}
    (target : mode ∈ templateTargets) : (retarget b mode).Good := by
  have count := sound.templates
  rw [kinds, List.count_cons_self] at count
  have retargeted : Sound { v with mode }
      { b with templateModes := mode :: b.templateModes.drop 1, mode } :=
    { sound with
      mode := rfl
      templateModes := by
        intro other member
        rcases List.mem_cons.mp member with rfl | outer
        · exact target
        · exact sound.templateModes other (List.mem_of_mem_drop outer)
      templates := by
        rw [kinds, List.count_cons_self, List.length_cons, List.length_drop]
        omega
      frameset := by
        intro allowed
        rw [sound.frameset allowed] at count
        cases count }
  refine .fits _ retargeted ?_
  unfold View.Fits
  have seat := (by decide : ∀ mode ∈ templateTargets, "template" ∈ mode.seats) mode target
  dsimp only
  rw [kinds]
  exact ⟨content, seat⟩

/-- A token in a template. -/
theorem inTemplateMode_good (sound : Sound v b) (fits : v.Fits) (mode : v.mode = .inTemplate)
    (token : Token) : (inTemplateMode b token).Good := by
  obtain ⟨n, others, kinds, seat, content⟩ := fits_kinds fits (by rw [mode]; decide)
  obtain rfl : n = "template" := by rw [mode] at seat; exact List.mem_singleton.mp seat
  have roomy : v.Roomy := Or.inr (by simp [kinds])
  have free := fits.free (by rw [mode]; decide)
  have retargeted : ∀ mode ∈ templateTargets, (retarget b mode).Good :=
    fun mode target => retarget_good sound content kinds target
  have same : (done b).Good := .fits v sound fits
  unfold inTemplateMode
  cases token with
  | null | blanks _ | text _ | comment _ =>
    exact inBody_good sound fits roomy content free _ nofun nofun
  | startTag tag =>
    dsimp only
    split
    iterate 5
      exact retargeted .inTable (by decide)
    · exact retargeted .inColumnGroup (by decide)
    · exact retargeted .inTableBody (by decide)
    iterate 2
      exact retargeted .inRow (by decide)
    · split
      · next head => exact headContent_good sound fits head fun _ => content
      · exact retargeted .inBody (by decide)
  | endTag name =>
    dsimp only
    split
    · exact Good.endTemplate sound fits
    · exact same
  | eof => exact eofInTemplate_good sound fits
  | doctype _ | fault => exact same

end Pagefold.Html.Builder
