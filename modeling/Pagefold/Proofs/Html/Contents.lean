import Mathlib
import Pagefold.Proofs.Html.Growth

/-!
# Content of the head and of the body

What a token does where content of a body stands: elements are opened, paragraphs and items are
closed, formatting goes on, and raw text, templates, tables and selections change the mode. After
each of these steps the mode fits the open elements again.
-/
namespace Pagefold.Html

/-- After the step the construction is in a state between tokens. -/
def Step.Good : Step → Prop
  | done b | again b => b.Good

namespace Builder

open Sketch Step

variable {v : View} {b : Builder} {tag : Tag}

/-! ## Content of the head -/

/-- A plain name is that of an ordinary element. -/
theorem ordinary_of_plain {name : String} (plain : isPlain .html name = true)
    (contents : Option Nat) : (SketchKind.element .html name [] contents).isOrdinary = true := by
  simp [isPlain, SketchKind.isOrdinary] at plain ⊢
  tauto

/-- The element of raw text is opened, and the mode that comes after it fits. -/
theorem Good.insertRaw (sound : Sound v b) (fits : v.Fits)
    (plain : isPlain .html tag.name = true) (reading : Reading) :
    Good (b.insertRaw tag reading) := by
  obtain ⟨s, id, contents, same, kept, _, outline⟩ :=
    Sound.insertForeign_kept sound.shape .html tag (ordinary_of_plain plain)
  have inserted : b.insert tag = { b with sketch := s, opened := id :: b.opened } := same
  obtain ⟨light, _⟩ := light_of_outline outline plain
  have below := ((sound.withSketch kept).withResumed b.mode).unseen b.legacy b.fosters
    b.skipsLineFeed reading
  rw [Builder.insertRaw, inserted]
  exact .rawText { v with resumed := b.mode } id b.opened rfl rfl
    (by rw [nameOf_of_outline outline]) light.1 below fits

/-- A template is opened. -/
def openTemplate (b : Builder) (tag : Tag) : Builder :=
  { (b.insert tag).mark with
    allowsFrameset := false
    mode := .inTemplate
    templateModes := .inTemplate :: (b.insert tag).mark.templateModes }

/-- A new template is opened above the other elements. -/
theorem Sound.pushTemplate (sound : Sound v b) {s : Sketch} {id : Nat} {contents : Option Nat}
    (kept : Kept v.stage b.sketch s) (fresh : b.sketch.nodes.size ≤ id)
    (outline : s.outline id = .element .html "template" [] contents) :
    Sound { v with kinds := "template" :: v.kinds, mode := .inTemplate }
      { b with
        sketch := s
        opened := id :: b.opened
        formatting := .marker :: b.formatting
        allowsFrameset := false
        mode := .inTemplate
        templateModes := .inTemplate :: b.templateModes } := by
  have found : s.kind id = some "template" :=
    kind_eq_some.mpr ⟨nameOf_of_outline outline, by decide⟩
  have pushed := (sound.stack.later kept.later).push (by rw [isOrdinary, outline]; rfl)
    (by rw [elementName_of_outline outline]; rfl) (sound.fresh_unopened fresh)
    (by simp [nameOf_of_outline outline])
    (by
      intro n allowed template seat
      rw [found] at template
      obtain rfl := Option.some.inj template
      cases seat)
    (Or.inr (Or.inr found))
  rw [found] at pushed
  have marked := (sound.withSketch kept).mark
  exact { marked with
    stack := pushed
    mode := rfl
    templateModes := by
      intro mode member
      rcases List.mem_cons.mp member with rfl | outer
      · decide
      · exact sound.templateModes mode outer
    templates := by
      have count := sound.templates
      simp [count]
    frameset := by simp }

theorem Sound.openTemplate (sound : Sound v b) (name : tag.name = "template") :
    Sound { v with kinds := "template" :: v.kinds, mode := .inTemplate } (b.openTemplate tag) := by
  obtain ⟨s, id, contents, same, kept, fresh, outline⟩ :=
    Sound.insertForeign_kept sound.shape .html tag (by rw [name]; exact fun _ => rfl)
  rw [name] at outline
  have inserted : b.insert tag = { b with sketch := s, opened := id :: b.opened } := same
  rw [Builder.openTemplate, inserted]
  exact sound.pushTemplate kept fresh outline

/-- What is done with content of the head, wherever it stands. -/
inductive HeadContent (b : Builder) (tag : Tag) : Step → Prop where
  | void (ordinary : ∀ contents,
      (SketchKind.element .html tag.name [] contents).isOrdinary = true) :
      HeadContent b tag (done (b.insertVoid tag))
  | raw (plain : isPlain .html tag.name = true) (reading : Reading) :
      HeadContent b tag (done (b.insertRaw tag reading))
  | template (name : tag.name = "template") : HeadContent b tag (done (b.openTemplate tag))

theorem headContent (b : Builder) {tag : Tag} (content : isHeadContent tag.name = true) :
    HeadContent b tag (inHead b (.startTag tag)) := by
  have void : tag.name ∈ ["base", "basefont", "bgsound", "link", "meta"] →
      HeadContent b tag (done (b.insertVoid tag)) := by
    intro known
    apply HeadContent.void
    generalize tag.name = name at known
    intro contents
    fin_cases known <;> rfl
  have raw : tag.name ∈ ["noframes", "script", "style", "title"] → ∀ reading,
      HeadContent b tag (done (b.insertRaw tag reading)) := by
    intro known
    apply HeadContent.raw
    generalize tag.name = name at known
    fin_cases known <;> rfl
  have known : tag.name ∈ ["base", "basefont", "bgsound", "link", "meta", "noframes", "script",
      "style", "template", "title"] := List.contains_iff_mem.mp content
  rw [inHead]
  dsimp only
  split
  case h_12 name => exact HeadContent.template name
  case h_1 | h_10 | h_13 | h_14 => simp_all
  all_goals
    next name =>
      first
      | exact void (by rw [name]; decide)
      | exact raw (by rw [name]; decide) _

/-- Content of the head may stand wherever its element may. -/
theorem headContent_good (sound : Sound v b) (fits : v.Fits)
    (content : isHeadContent tag.name = true)
    (holds : tag.name = "template" → v.stage.holdsContent = true) :
    (inHead b (.startTag tag)).Good := by
  have kind := headContent b content
  generalize inHead b (.startTag tag) = step at kind ⊢
  cases kind with
  | void ordinary => exact .fits v (sound.insertVoid tag ordinary) fits
  | raw plain reading => exact Good.insertRaw sound fits plain reading
  | template name => exact .fits _ (sound.openTemplate name) ⟨holds name, List.mem_singleton_self _⟩

/-! ## Operations of the body -/

namespace Sound

theorem mergeRoot (sound : Sound v b) (tag : Tag) : Sound v (b.mergeRoot tag) := by
  unfold Builder.mergeRoot
  split
  · exact sound
  · exact sound.addMissing _ _

/-- A new item closes the item before it. -/
theorem endItem (sound : Sound v b) (names : List String)
    (plain : ∀ name ∈ names, isPlain .html name = true) : Sound v (b.endItem names) := by
  unfold Builder.endItem
  dsimp only
  split
  · next id first =>
    split
    · next accepted =>
      obtain ⟨_, above, below, split, others⟩ := List.find?_eq_some_iff_append.mp first
      obtain ⟨name, known, named⟩ := isOneOf_iff.mp accepted
      have own := sound.light_named (by simp [split]) named (plain name known)
      have passed : ∀ other ∈ above, b.isNamed name other = false ∧
          b.isOneOf structural other = false := by
        intro other member
        have unaccepted := others other member
        simp only [Bool.not_eq_true', Bool.or_eq_false_iff, Bool.and_eq_false_iff,
          Bool.not_eq_false'] at unaccepted
        obtain ⟨unnamed, unspecial | exempt⟩ := unaccepted
        all_goals
          constructor
          · rw [← Bool.not_eq_true]
            intro same
            have one : b.isOneOf names other = true :=
              isOneOf_iff.mpr ⟨name, known, isNamed_iff.mp same⟩
            rw [unnamed] at one
            cases one
        · rw [← Bool.not_eq_true]
          intro structure_found
          obtain ⟨n, member, named⟩ := isOneOf_iff.mp structure_found
          have ended : b.isOneOf special other = true := by
            refine isOneOf_iff.mpr ⟨n, ?_, named⟩
            fin_cases member <;> decide
          rw [unspecial] at ended
          cases ended
        · rw [← Bool.not_eq_true]
          intro structure_found
          obtain ⟨n, member, named⟩ := isOneOf_iff.mp structure_found
          obtain ⟨n', member', named'⟩ := isOneOf_iff.mp exempt
          rw [named] at named'
          obtain rfl := (Prod.mk.inj named').2
          fin_cases member' <;> revert member <;> decide
      have light := sound.light_of_not_special split own.1 fun other member =>
        (passed other member).2
      have name_same : (b.nameOf id).2 = name := congrArg Prod.snd named
      rw [name_same]
      exact sound.closeThrough split light own name (fun _ => isNamed_iff.mpr named)
        (isNamed_iff.mpr named) fun other member => (passed other member).1
    · exact sound
  · exact sound

/-- An element without content among the text. -/
theorem insertEmbedded (sound : Sound v b) (roomy : v.Roomy)
    (ordinary : ∀ contents, (SketchKind.element .html tag.name [] contents).isOrdinary = true) :
    Sound v (b.insertEmbedded tag) := by
  have inserted := (sound.reconstruct roomy).insertVoid tag ordinary
  unfold Builder.insertEmbedded
  dsimp only
  split
  · exact inserted
  · exact inserted.forbid

/-- A second link closes the first. -/
theorem endLink (sound : Sound v b) (bodied : v.stage.isFrames = false)
    (free : v.kinds.head? ≠ some "select") : Sound v b.endLink := by
  unfold Builder.endLink
  split
  · next id tag found =>
    have light := sound.light_listed (mem_recent (List.mem_of_find?_eq_some found))
    obtain ⟨adopted, later⟩ := sound.adopt bodied (by decide : "a" ∈ formattingNames) free
    exact (adopted.unlist id).unstack fun _ => later.light light
  · exact sound

/-- The end tag of a form closes the form alone. -/
theorem endForm (sound : Sound v b) (free : v.kinds.head? ≠ some "select") :
    Sound v b.endForm := by
  unfold Builder.endForm
  split
  · split
    · next found => exact sound.closeNamed free found (fun _ ends => ends) "" (by decide) (by decide)
    · exact sound
  · split
    · exact sound
    · next form remembered =>
      have forgotten : Sound v { b with form := none } := { sound with form := nofun }
      dsimp only
      split
      · refine (forgotten.closeImplied "").unstack fun member => ?_
        have element := sound.form form remembered
        have named : b.sketch.nameOf form = (.html, "form") := by
          rw [Sketch.nameOf, element]
          rfl
        exact (forgotten.closeImplied "").light_named member named (by decide)
      · exact forgotten

/-- An element is closed if it is found in the default scope. -/
theorem closeFound (sound : Sound v b) (free : v.kinds.head? ≠ some "select")
    (name except : String) (plain : isPlain .html name = true)
    (kept : name ∈ impliedEnds → name = except) :
    Sound v (if b.hasInScope name then (b.closeImplied except).popNamed name else b) := by
  split
  · next found => exact sound.closeNamed free found (fun _ ends => ends) except plain kept
  · exact sound

/-- The innermost element is closed if it has one of the names. -/
theorem popIf (sound : Sound v b) {names : List String}
    (plain : ∀ name ∈ names, isPlain .html name = true) :
    Sound v (if b.isOneOf names b.current then b.pop else b) := by
  split
  · next here => exact sound.popNamedHere here plain
  · exact sound

theorem popIfNamed (sound : Sound v b) (name : String) (plain : isPlain .html name = true) :
    Sound v (if b.isNamed name b.current then b.pop else b) := by
  split
  · next here =>
    apply sound.popNamedHere
    · exact isOneOf_iff.mpr ⟨name, List.mem_singleton_self _, isNamed_iff.mp here⟩
    · intro other member
      rwa [List.mem_singleton.mp member]
  · exact sound

/-- A paragraph is opened and closed at once. -/
theorem emptyParagraph (sound : Sound v b) (roomy : v.Roomy)
    (free : v.kinds.head? ≠ some "select") : Sound v (b.insertImplied "p").closeParagraph := by
  have opened := sound.insert { name := "p" } (by decide) roomy
  obtain ⟨s, id, contents, same, _, _, outline⟩ :=
    insertForeign_kept sound.shape .html { name := "p" } fun _ => rfl
  have inserted : b.insert { name := "p" } = { b with sketch := s, opened := id :: b.opened } := same
  have named : (b.insert { name := "p" }).isNamed "p" id = true := by
    rw [inserted]
    exact isNamed_iff.mpr (nameOf_of_outline outline)
  have found : (b.insert { name := "p" }).inScope (b.insert { name := "p" }).endsScope
      ((b.insert { name := "p" }).isNamed "p") = true := by
    have first : (b.insert { name := "p" }).opened = id :: b.opened := by rw [inserted]
    rw [inScope, first, List.find?_cons_of_pos (by rw [named]; rfl)]
    exact named
  exact opened.closeNamed free found (fun _ ends => ends) "p" (by decide) fun _ => rfl

/-- Within a ruby text, elements whose end tags may be left out are closed. -/
theorem closeRuby (sound : Sound v b) (except : String) :
    Sound v (if b.hasInScope "ruby" then b.closeImplied except else b) := by
  split
  · exact sound.closeImplied except
  · exact sound

/-- A foreign element may stand wherever content may. -/
theorem insertSpace (sound : Sound v b) (roomy : v.Roomy) {space : Space}
    (plain : isPlain space tag.name = true) : Sound v (Foreign.insert b space tag) := by
  unfold Foreign.insert
  dsimp only
  split
  · apply sound.insertClosed
    intro contents
    cases space <;> simp [isPlain, SketchKind.isOrdinary, Foreign.respellAttributes] at plain ⊢ <;>
      tauto
  · exact sound.insertForeign space _ plain roomy

/-- A form is opened and remembered, and it may be closed at once. -/
theorem insertForm (sound : Sound v b) (roomy : v.Roomy) (name : tag.name = "form") :
    Sound v { b.insert tag with form := some (b.insert tag).current } ∧
      Sound v (Builder.pop { b.insert tag with form := some (b.insert tag).current }) := by
  have plain : isPlain .html tag.name = true := by rw [name]; decide
  obtain ⟨s, id, contents, same, kept, _, outline⟩ :=
    insertForeign_kept sound.shape .html tag (by rw [name]; exact fun _ => rfl)
  have opened := sound.insert tag plain roomy
  have inserted : b.insert tag = { b with sketch := s, opened := id :: b.opened } := same
  rw [inserted] at opened ⊢
  have remembered : Sound v { b with sketch := s, opened := id :: b.opened, form := some id } := by
    refine { opened with form := ?_ }
    intro form same
    obtain rfl := Option.some.inj same
    rw [elementName_of_outline outline, name]
  refine ⟨remembered, remembered.pop ?_⟩
  intro other innermost
  obtain rfl := Option.some.inj innermost
  exact (light_of_outline outline plain).1

end Sound

/-! ## Tokens in the body -/

/-- A frameset in a document with a body takes the place of the body, where it is allowed. -/
theorem Good.replaceBody (sound : Sound v b) (content : v.stage.holdsContent = true) {body : Nat}
    (found : b.body? = some body) (allowed : b.allowsFrameset = true)
    (name : tag.name = "frameset") :
    Good { Builder.insert { b with
        sketch := b.sketch.detach body
        opened := b.opened.getLast?.toList } tag with mode := .inFrameset } := by
  obtain ⟨html, head, stage⟩ := sound.body_stage content found
  have opened := (sound.dropBody stage allowed).startFrames rfl rfl name
  exact .fits _ (opened.withMode .inFrameset) (by simp [View.Fits, Stage.modes])

/-- A structural element is opened, and the mode is one in which it can be the innermost one. -/
theorem Good.insertKind (sound : Sound v b) (roomy : v.Roomy)
    (content : v.stage.holdsContent = true) (known : tag.name ∈ ["table", "select"]) (mode : Mode)
    (seat : tag.name ∈ mode.seats) :
    Good { b.insert tag with allowsFrameset := false, mode } := by
  have opened := sound.insertKind tag
    (by generalize tag.name = name at known; fin_cases known <;> decide)
    (by generalize tag.name = name at known; fin_cases known <;> decide)
    (by
      intro allowed seat
      generalize tag.name = name at known seat
      fin_cases known <;> cases seat)
    roomy
  exact .fits _ (opened.forbid.withMode mode) ⟨content, seat⟩

/-- A start tag in the body. The cases are in the order of the definition, and families of tags that
are treated alike are taken together. -/
theorem startInBody_good (sound : Sound v b) (fits : v.Fits) (roomy : v.Roomy)
    (content : v.stage.holdsContent = true) (free : v.kinds.head? ≠ some "select") :
    (startInBody b tag).Good := by
  have same : ∀ {b : Builder}, Sound v b → (done b).Good := fun sound => .fits v sound fits
  have closed := sound.closeOpenParagraph free
  have resumed := sound.reconstruct roomy
  unfold startInBody
  split
  · exact same (sound.mergeRoot tag)
  iterate 10
    next name => exact headContent_good sound fits (by rw [name]; decide) fun _ => content
  · split
    · split
      · exact same sound
      · exact same (sound.addMissing _ _).forbid
    · exact same sound
  · next name =>
    split
    · next body found =>
      split
      · next allowed => exact Good.replaceBody sound content found allowed name
      · exact same sound
    · exact same sound
  -- Blocks close an open paragraph.
  iterate 25
    next name => exact same (closed.insert tag (by rw [name]; decide) roomy)
  iterate 6
    next name =>
      exact same ((closed.popIf (by decide)).insert tag (by rw [name]; decide) roomy)
  iterate 2
    next name =>
      have opened := closed.insert tag (by rw [name]; decide) roomy
      exact same (opened.forbid.unseen _ _ true _)
  · next name =>
    split
    · exact same (closed.insert tag (by rw [name]; decide) roomy)
    · split
      · exact same sound
      · exact same (closed.insertForm roomy name).1
  · next name =>
    have ended := (sound.forbid.endItem ["li"] (by decide)).closeOpenParagraph free
    exact same (ended.insert tag (by rw [name]; decide) roomy)
  iterate 2
    next name =>
      have ended := (sound.forbid.endItem ["dd", "dt"] (by decide)).closeOpenParagraph
        free
      exact same (ended.insert tag (by rw [name]; decide) roomy)
  · next name =>
    have opened := closed.insert tag (by rw [name]; decide) roomy
    exact same (opened.unseen _ _ _ .plain)
  · next name =>
    have ended := sound.closeFound free "button" "" (by decide) (by decide)
    exact same ((ended.reconstruct roomy).insert tag (by rw [name]; decide) roomy).forbid
  -- Formatting elements, among which links and `nobr` close the one before.
  · next name =>
    have ended := (sound.endLink (Stage.bodied content) free).reconstruct roomy
    exact same (ended.insertFormatting tag (by rw [name]; decide) roomy)
  iterate 12
    next name => exact same (resumed.insertFormatting tag (by rw [name]; decide) roomy)
  · next name =>
    apply same
    apply Sound.insertFormatting _ tag (by rw [name]; decide) roomy
    split
    · exact (resumed.adopt (Stage.bodied content) (by decide) free).1.reconstruct roomy
    · exact resumed
  iterate 3
    next name => exact same (resumed.insert tag (by rw [name]; decide) roomy).mark.forbid
  · next name =>
    have ended : Sound v (if b.legacy then b else b.closeOpenParagraph) := by
      split
      · exact sound
      · exact closed
    exact Good.insertKind ended roomy content (by rw [name]; decide) .inTable
      (by rw [name]; decide)
  iterate 7
    next name => exact same (sound.insertEmbedded roomy (by rw [name]; exact fun _ => rfl))
  iterate 3
    next name => exact same (sound.insertVoid tag (by rw [name]; exact fun _ => rfl))
  · next name => exact same (closed.insertVoid tag (by rw [name]; exact fun _ => rfl)).forbid
  · next name => exact same (sound.insertEmbedded roomy fun _ => rfl)
  -- Raw text.
  · next name =>
    have opened := Good.insertRaw sound fits (by rw [name]; decide) (.escapable "textarea")
    exact opened.forbid.unseen _ _ true _
  · next name =>
    have ended := (closed.reconstruct roomy).forbid
    exact Good.insertRaw ended fits (by rw [name]; decide) (.raw "xmp")
  · next name => exact Good.insertRaw sound.forbid fits (by rw [name]; decide) (.raw "iframe")
  iterate 2
    next name => exact Good.insertRaw sound fits (by rw [name]; decide) (.raw tag.name)
  · next name =>
    apply Good.insertKind resumed roomy content (by rw [name]; decide)
    rw [name]
    split <;> decide
  iterate 2
    next name =>
      have ended := (sound.popIfNamed "option" (by decide)).reconstruct roomy
      exact same (ended.insert tag (by rw [name]; decide) roomy)
  iterate 2
    next name =>
      exact same ((sound.closeRuby "").insert tag (by rw [name]; decide) roomy)
  iterate 2
    next name =>
      exact same ((sound.closeRuby "rtc").insert tag (by rw [name]; decide) roomy)
  · next name => exact same (resumed.insertSpace roomy (by rw [name]; decide))
  · next name => exact same (resumed.insertSpace roomy (by rw [name]; decide))
  iterate 11
    next name => exact same sound
  · apply same
    apply resumed.insert tag _ roomy
    apply isPlain_of_ne
    intro name member other
    fin_cases member <;> contradiction

/-! ## End tags and the end of the text -/

/-- The end of a template closes everything in it, and the mode is chosen anew. -/
theorem Sound.closeTemplateMode (sound : Sound v b) (content : v.stage.holdsContent = true)
    {above below : List Nat} {id : Nat} (split : b.opened = above ++ id :: below)
    (template : b.isNamed "template" id = true)
    (first : ∀ other ∈ above, b.isNamed "template" other = false) {opened : List Nat}
    (rest : opened.dropWhile (!b.isNamed "template" ·) = id :: below) :
    ∃ v', Sound v' ({ (Builder.popNamed { b with opened } "template").clearFormatting with
      templateModes := b.templateModes.drop 1 }.resetMode) ∧ v'.Fits ∧
        v'.stage.holdsContent = true := by
  have found : b.sketch.kind id = some "template" :=
    kind_eq_some.mpr ⟨isNamed_iff.mp template, by decide⟩
  have own : b.sketch.isOrdinary id = true := by
    by_contra framed
    rw [kind_framed (by simpa using framed)] at found
    cases found
  obtain ⟨left, each, _⟩ := sound.stack.above_ordinary split own
  have closed := sound.closeTemplate split (fun other member => (each other (by simp [member])).1)
    (by
      intro other member same
      have named := isNamed_iff.mpr (kind_eq_some.mp same).1
      rw [first other member] at named
      cases named)
    found
  have popped : Builder.popNamed { b with opened } "template" = { b with opened := below } := by
    have same : Builder.popNamed { b with opened } "template" =
      { b with opened := (opened.dropWhile (!b.isNamed "template" ·)).drop 1 } := rfl
    rw [same, rest]
    rfl
  rw [popped]
  have settled := closed.clearFormatting
  exact ⟨_, settled.withMode _, settled.fits_modeFor content, content⟩

/-- If a template is open, one is the innermost, and structural elements are open. -/
theorem Sound.first_template (sound : Sound v b) (inside : b.inTemplate = true) :
    v.kinds ≠ [] ∧ ∃ above id below, b.opened = above ++ id :: below ∧
      b.isNamed "template" id = true ∧ ∀ other ∈ above, b.isNamed "template" other = false := by
  obtain ⟨id, member, named⟩ := List.any_eq_true.mp inside
  constructor
  · intro none
    have found : b.sketch.kind id = some "template" :=
      kind_eq_some.mpr ⟨isNamed_iff.mp named, by decide⟩
    have unstructured := List.filterMap_eq_nil_iff.mp (sound.stack.kinds.trans none) id member
    rw [found] at unstructured
    cases unstructured
  · obtain ⟨first, found⟩ : ∃ first, b.opened.find? (b.isNamed "template") = some first := by
      apply Option.isSome_iff_exists.mp
      rw [List.find?_isSome]
      exact ⟨id, member, named⟩
    obtain ⟨accepted, above, below, split, others⟩ := List.find?_eq_some_iff_append.mp found
    refine ⟨above, first, below, split, accepted, ?_⟩
    intro other member
    simpa using others other member

theorem Good.endTemplate (sound : Sound v b) (fits : v.Fits) : Good b.endTemplate := by
  unfold Builder.endTemplate
  split
  · next inside =>
    obtain ⟨some, above, id, below, split, template, first⟩ := sound.first_template inside
    obtain ⟨left, suffix, rest⟩ := dropWhile_split (p := b.isOneOf thoroughEnds)
      (by
        rw [← Bool.not_eq_true, isOneOf_iff]
        rintro ⟨name, member, named⟩
        rw [isNamed_iff.mp template] at named
        obtain rfl := (Prod.mk.inj named).2
        revert member
        decide)
    rw [← split] at rest
    have reached : (b.opened.dropWhile (b.isOneOf thoroughEnds)).dropWhile
        (!b.isNamed "template" ·) = id :: below := by
      rw [rest]
      exact dropWhile_first template fun other member => first other (suffix.subset member)
    obtain ⟨v', settled, fits', _⟩ := sound.closeTemplateMode (fits.content some) split template
      first reached
    exact .fits v' settled fits'
  · exact .fits v sound fits

/-- The end of the text closes an open template, and the token is taken up again. -/
theorem eofInTemplate_again (sound : Sound v b) (fits : v.Fits) (inside : b.inTemplate = true) :
    ∃ v' b', eofInTemplate b = again b' ∧ Sound v' b' ∧ v'.Fits ∧ v'.stage.holdsContent = true ∧
      b'.templateModes = b.templateModes.drop 1 := by
  obtain ⟨some, above, id, below, split, template, first⟩ := sound.first_template inside
  have reached : b.opened.dropWhile (!b.isNamed "template" ·) = id :: below := by
    rw [split]
    exact dropWhile_first template first
  obtain ⟨v', settled, fits', content⟩ := sound.closeTemplateMode (fits.content some) split
    template first reached
  refine ⟨v', _, ?_, settled, fits', content, rfl⟩
  rw [eofInTemplate, if_pos inside]
  rfl

theorem eofInTemplate_good (sound : Sound v b) (fits : v.Fits) : (eofInTemplate b).Good := by
  by_cases inside : b.inTemplate = true
  · obtain ⟨v', b', step, sound', fits', _⟩ := eofInTemplate_again sound fits inside
    rw [step]
    exact .fits v' sound' fits'
  · rw [eofInTemplate, if_neg inside]
    exact .fits v sound fits

/-- Only where the content is that of the body itself, a body is in scope. -/
theorem Sound.body_in_scope (sound : Sound v b) (fits : v.Fits) (mode : v.mode = .inBody)
    (found : b.hasInScope "body" = true) :
    v.kinds = [] ∧ ∃ html head body, v.stage = .inBody html head body := by
  obtain ⟨above, id, below, split, named, others⟩ := scope_split found
  have framed : b.sketch.isOrdinary id = false := by
    obtain ⟨space, name, contents, outline⟩ :=
      outline_of_element (sound.stack.elements id (by simp [split]))
    have name_body := isNamed_iff.mp named
    rw [nameOf_of_outline outline] at name_body
    obtain ⟨rfl, rfl⟩ := Prod.mk.inj name_body
    rw [isOrdinary, outline]
    rfl
  unfold View.Fits at fits
  split at fits
  · next none =>
    refine ⟨none, ?_⟩
    cases stage : v.stage <;> rw [stage, mode] at fits
    case inBody html head body => exact ⟨html, head, body, rfl⟩
    all_goals simp [Stage.modes] at fits
  · next n rest some =>
    exfalso
    obtain rfl : n = "template" := by
      rw [mode] at fits
      exact List.mem_singleton.mp fits.2
    have stack := sound.stack
    rw [some] at stack
    obtain ⟨above', e, below', split', _, kind, ordinary, _⟩ := stack.top
    have before := sound.stack.above_framed split framed (by simp [split']) ordinary
    exact kind_of_scope (others e before).2 "template" (by decide) kind

/-- The head is closed by no end tag in the body. -/
theorem Sound.closeAny_head (sound : Sound v b) (roomy : v.Roomy) : b.closeAny "head" = b := by
  unfold Builder.closeAny
  split
  · next id first =>
    split
    · next named =>
      exfalso
      obtain ⟨_, above, below, split, others⟩ := List.find?_eq_some_iff_append.mp first
      have framed : b.sketch.isOrdinary id = false := by
        obtain ⟨space, name, contents, outline⟩ :=
          outline_of_element (sound.stack.elements id (by simp [split]))
        have name_head := isNamed_iff.mp named
        rw [nameOf_of_outline outline] at name_head
        obtain ⟨rfl, rfl⟩ := Prod.mk.inj name_head
        rw [isOrdinary, outline]
        rfl
      rcases roomy with wide | inner
      · obtain ⟨inner, whole, each, _⟩ := sound.stack.inner
        have member : id ∈ b.opened := by simp [split]
        rw [whole] at member
        rcases List.mem_append.mp member with inside | outside
        · rw [(each id inside).1] at framed
          cases framed
        · obtain ⟨name, member, other⟩ := Stage.mem_base_open wide outside
          have own := nameOf_of_outline (sound.shape.members id name member)
          rw [isNamed_iff.mp named] at own
          exact other (Prod.mk.inj own).2.symm
      · obtain ⟨n, rest, kinds⟩ := List.exists_cons_of_ne_nil inner
        have stack := sound.stack
        rw [kinds] at stack
        obtain ⟨above', e, below', split', _, kind, ordinary, _⟩ := stack.top
        have before := sound.stack.above_framed split framed (by simp [split'])
          ordinary
        have passed := others e before
        obtain ⟨own, known⟩ := kind_eq_some.mp kind
        have ended : b.isOneOf special e = true := by
          refine isOneOf_iff.mpr ⟨n, ?_, own⟩
          fin_cases known <;> decide
        rw [ended, Bool.or_true] at passed
        cases passed
    · rfl
  · rfl

/-- An end tag in the body. The cases are in the order of the definition. -/
theorem endInBody_good (sound : Sound v b) (fits : v.Fits) (roomy : v.Roomy)
    (content : v.stage.holdsContent = true) (free : v.kinds.head? ≠ some "select") {name : String}
    (apart : name = "template" ∨ v.kinds.head? ≠ some name)
    (leaves : name = "body" ∨ name = "html" → v.mode = .inBody) : (endInBody b name).Good := by
  have same : ∀ {b : Builder}, Sound v b → (done b).Good := fun sound => .fits v sound fits
  have resumed := sound.reconstruct roomy
  have left : b.hasInScope "body" = true → v.mode = .inBody → Good { b with mode := .afterBody } := by
    intro found mode
    obtain ⟨none, html, head, body, stage⟩ := sound.body_in_scope fits mode found
    exact .fits _ (sound.withMode .afterBody) (by simp [View.Fits, none, stage, Stage.modes])
  unfold endInBody
  split
  · exact Good.endTemplate sound fits
  · have mode := leaves (Or.inl rfl)
    split
    · next found => exact left found mode
    · exact same sound
  · have mode := leaves (Or.inr rfl)
    split
    · next found => exact left found mode
    · exact same sound
  iterate 27
    exact same (sound.closeFound free _ "" (by decide) (by decide))
  · exact same (sound.endForm free)
  · -- An end tag without a paragraph opens one first.
    apply same
    split
    · next found =>
      refine sound.closeNamed free found ?_ "p" (by decide) fun _ => rfl
      intro id ends
      rw [endsButtonScope, ends]
      rfl
    · exact sound.emptyParagraph roomy free
  · apply same
    split
    · next found =>
      refine sound.closeNamed free found ?_ "li" (by decide) fun _ => rfl
      intro id ends
      rw [endsListScope, ends]
      rfl
    · exact sound
  iterate 2
    exact same (sound.closeFound free _ _ (by decide) fun _ => rfl)
  iterate 6
    apply same
    split
    · next found =>
      refine sound.closeScoped free found (fun _ ends => ends) "" ?_
      intro id accepted
      obtain ⟨name, member, named⟩ := isOneOf_iff.mp accepted
      refine ⟨name, named, ?_⟩
      fin_cases member <;> decide
    · exact sound
  iterate 14
    exact same (sound.adopt (Stage.bodied content) (by decide) free).1
  iterate 3
    apply same
    split
    · next found =>
      exact (sound.closeNamed free found (fun _ ends => ends) "" (by decide)
        (by decide)).clearFormatting
    · exact sound
  · exact same (sound.insertEmbedded roomy fun _ => rfl)
  · by_cases head : name = "head"
    · rw [head, sound.closeAny_head roomy]
      exact same sound
    · apply same
      apply sound.closeAny
      · rcases apart with template | other
        · contradiction
        · exact other
      · intro framed
        fin_cases framed <;> contradiction

/-- Text where content stands goes on with the formatting. -/
theorem inBody_text (sound : Sound v b) (roomy : v.Roomy) {token : Token}
    (text : Foreign.isText token = true) : ∃ b', inBody b token = done b' ∧ Sound v b' := by
  have resumed := sound.reconstruct roomy
  cases token with
  | null => exact ⟨b, rfl, sound⟩
  | blanks run => exact ⟨_, rfl, resumed.insertText run⟩
  | text run => exact ⟨_, rfl, resumed.forbid.insertText run⟩
  | _ => cases text

/-- The end of the text closes an open template. -/
theorem inBody_eof (sound : Sound v b) (fits : v.Fits) : (inBody b .eof).Good := by
  rw [inBody]
  split
  · exact .fits v sound fits
  · exact eofInTemplate_good sound fits

/-- A token where content stands. -/
theorem inBody_good (sound : Sound v b) (fits : v.Fits) (roomy : v.Roomy)
    (content : v.stage.holdsContent = true) (free : v.kinds.head? ≠ some "select") (token : Token)
    (apart : ∀ name, token = .endTag name → name = "template" ∨ v.kinds.head? ≠ some name)
    (leaves : ∀ name, token = .endTag name → name = "body" ∨ name = "html" → v.mode = .inBody) :
    (inBody b token).Good := by
  have same : ∀ {b : Builder}, Sound v b → (done b).Good := fun sound => .fits v sound fits
  have resumed := sound.reconstruct roomy
  cases token with
  | null | doctype _ | fault => exact same sound
  | blanks run => exact same (resumed.insertText run)
  | text run => exact same (resumed.forbid.insertText run)
  | comment text => exact same (sound.insertComment text)
  | startTag tag => exact startInBody_good sound fits roomy content free
  | endTag name =>
    exact endInBody_good sound fits roomy content free (apart name rfl) (leaves name rfl)
  | eof => exact inBody_eof sound fits

end Builder

end Pagefold.Html
