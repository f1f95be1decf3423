import Mathlib
import Pagefold.Html.Foreign
import Pagefold.Proofs.Html.Stack

/-!
# Sound states of the construction

What holds of the construction of a document after every token: the document has its frame, the open
elements form a stack, and what is remembered of elements is true of them. Each operation of the
construction keeps this, if it is used in the way the insertion modes use it.
-/
namespace Pagefold.Html

/-- The formatting elements. -/
def formattingNames : List String :=
  ["a", "b", "big", "code", "em", "font", "i", "nobr", "s", "small", "strike", "strong", "tt", "u"]

/-- The modes in which the contents of templates are taken up. -/
def templateTargets : List Mode :=
  [.inTemplate, .inTable, .inColumnGroup, .inTableBody, .inRow, .inBody]

/-- An element that changes neither the frame nor the mode. -/
def isPlain (space : Space) (name : String) : Bool :=
  match space with
  | .html => !(structural.contains name || ["html", "head", "body", "frameset"].contains name)
  | _ => !(["head", "body"].contains name)

/-- A name that is none of those that change the frame or the mode. -/
theorem isPlain_of_ne {name : String}
    (other : ∀ n ∈ structural ++ ["html", "head", "body", "frameset"], name ≠ n) :
    isPlain .html name = true := by
  have absent : name ∉ structural ++ ["html", "head", "body", "frameset"] :=
    fun member => other name member rfl
  simpa [isPlain] using absent

/-- A formatting element changes neither the frame nor the mode. -/
theorem isPlain_formatting {name : String} (member : name ∈ formattingNames) :
    isPlain .html name = true := by
  fin_cases member <;> decide

/-- What of the construction decides how content is taken up: the stage of the frame, the structural
elements that are open, and the modes. -/
structure View where
  stage : Stage
  kinds : List String
  mode : Mode
  resumed : Mode

/-- Whether content may stand where it is taken up. -/
def View.Roomy (v : View) : Prop := v.stage.isOpen = true ∨ v.kinds ≠ []

/-- The head element of a stage. -/
def Stage.head? : Stage → Option Nat
  | start | rooted _ => none
  | inHead _ head | afterHead _ head | inBody _ head _ | inFrames _ head => some head

namespace Sketch

variable {s s' : Sketch} {id : Nat} {space : Space} {name : String} {contents : Option Nat}

/-- An element has the language and name of its outline. -/
theorem elementName_of_outline (outline : s.outline id = .element space name [] contents) :
    s.elementName? id = some (space, name) := by
  rw [elementName_outline, outline]

theorem nameOf_of_outline (outline : s.outline id = .element space name [] contents) :
    s.nameOf id = (space, name) := by
  rw [nameOf, elementName_of_outline outline]
  rfl

/-- A plain element may be opened anywhere. -/
theorem light_of_outline (outline : s.outline id = .element space name [] contents)
    (plain : isPlain space name = true) :
    s.Light id ∧ (s.elementName? id).isSome = true ∧ s.nameOf id ≠ (.html, "frameset") := by
  have named := nameOf_of_outline outline
  refine ⟨⟨?_, ?_⟩, ?_, ?_⟩
  · rw [isOrdinary, outline]
    cases space <;> simp [isPlain, SketchKind.isOrdinary] at plain ⊢ <;> tauto
  · rw [kind, named]
    cases space <;> simp [isPlain] at plain ⊢
    tauto
  · rw [elementName_of_outline outline]
    rfl
  · rw [named]
    rintro ⟨rfl, rfl⟩
    cases plain

end Sketch

namespace Builder

open Sketch

variable {v : View} {b : Builder}

/-- The construction is sound: it is as the view says, and what it remembers is true. -/
structure Sound (v : View) (b : Builder) : Prop where
  shape : b.sketch.Shape v.stage
  stack : Stack b.sketch v.stage v.kinds b.opened
  mode : b.mode = v.mode
  resumed : b.resumed = v.resumed
  head : b.head = v.stage.head?
  form : ∀ id, b.form = some id → b.sketch.elementName? id = some (.html, "form")
  formatting : ∀ id tag, .element id tag ∈ b.formatting →
    b.sketch.elementName? id = some (.html, tag.name) ∧ tag.name ∈ formattingNames
  templateModes : ∀ mode ∈ b.templateModes, mode ∈ templateTargets
  templates : b.templateModes.length = v.kinds.count "template"
  frameset : b.allowsFrameset = true → b.templateModes = []
  pending : ∀ t ∈ b.tableText, Foreign.isText t = true

namespace Sound

/-- The mode is set. -/
theorem withMode (sound : Sound v b) (mode : Mode) :
    Sound { v with mode } { b with mode } :=
  { sound with mode := rfl }

/-- What the view does not show is changed. -/
theorem unseen (sound : Sound v b) (legacy fosters skips : Bool) (reading : Reading) :
    Sound v { b with legacy, fosters, skipsLineFeed := skips, reading } :=
  { sound with }

/-- A frameset is no longer allowed. -/
theorem forbid (sound : Sound v b) : Sound v { b with allowsFrameset := false } :=
  { sound with frameset := nofun }

/-- The sketch is changed in a way that keeps the frame. -/
theorem withSketch (sound : Sound v b) {s : Sketch} (kept : Kept v.stage b.sketch s) :
    Sound v { b with sketch := s } :=
  { sound with
    shape := kept.shape
    stack := sound.stack.later kept.later
    form := by
      intro id remembered
      have named := sound.form id remembered
      rw [← named]
      exact kept.later.elementName (inside_of_element (by rw [named]; rfl))
    formatting := by
      intro id tag member
      obtain ⟨named, known⟩ := sound.formatting id tag member
      refine ⟨?_, known⟩
      rw [← named]
      exact kept.later.elementName (inside_of_element (by rw [named]; rfl)) }

/-- Other elements are open, with the same templates among them. -/
theorem withStack (sound : Sound v b) {kinds : List String} {opened : List Nat}
    (stack : Stack b.sketch v.stage kinds opened)
    (templates : kinds.count "template" = v.kinds.count "template") :
    Sound { v with kinds } { b with opened } :=
  { sound with
    stack := stack
    templates := by rw [templates]; exact sound.templates }

/-- Fewer formatting elements are remembered. -/
theorem withFormatting (sound : Sound v b) (formatting : List Formatting)
    (fewer : ∀ id tag, .element id tag ∈ formatting → .element id tag ∈ b.formatting) :
    Sound v { b with formatting } :=
  { sound with formatting := fun id tag member => sound.formatting id tag (fewer id tag member) }

theorem mark (sound : Sound v b) : Sound v b.mark := by
  apply sound.withFormatting
  intro id tag member
  simpa using member

theorem clearFormatting (sound : Sound v b) : Sound v b.clearFormatting := by
  apply sound.withFormatting
  intro id tag member
  exact (List.dropWhile_suffix _).subset (List.mem_of_mem_drop member)

theorem unlist (sound : Sound v b) (id : Nat) : Sound v (b.unlist id) := by
  apply sound.withFormatting
  intro other tag member
  exact List.mem_of_mem_filter member

/-! ## Text and comments -/

/-- Text changes nothing but the sketch. -/
theorem insertText_kept {stage : Stage} (shape : b.sketch.Shape stage) (content : String) :
    ∃ s, b.insertText content = { b with sketch := s } ∧ Kept stage b.sketch s := by
  unfold Builder.insertText
  split
  · exact ⟨_, rfl, shape.appendText _ content⟩
  · exact ⟨_, rfl, shape.insertTextBefore _ _ content⟩

theorem insertText (sound : Sound v b) (content : String) : Sound v (b.insertText content) := by
  obtain ⟨s, same, kept⟩ := insertText_kept sound.shape content
  rw [same]
  exact sound.withSketch kept

/-- An ordinary node is put where content belongs, and where framesets are, if it has no place. -/
theorem place_kept {stage : Stage} (shape : b.sketch.Shape stage) {id : Nat}
    (ordinary : b.sketch.isOrdinary id = true)
    (free : stage.isFrames = true → (b.sketch.node id).parent = none) (target : Nat) :
    ∃ s, b.place id target = { b with sketch := s } ∧ Kept stage b.sketch s := by
  unfold Builder.place
  split
  · exact ⟨_, rfl, shape.append _ ordinary free⟩
  · exact ⟨_, rfl, shape.insertBefore _ _ ordinary free⟩

theorem place (sound : Sound v b) {id : Nat} (ordinary : b.sketch.isOrdinary id = true)
    (free : v.stage.isFrames = true → (b.sketch.node id).parent = none) (target : Nat) :
    Sound v (b.place id target) := by
  obtain ⟨s, same, kept⟩ := place_kept sound.shape ordinary free target
  rw [same]
  exact sound.withSketch kept

theorem commentIn (sound : Sound v b) (parent : Nat) (content : String) :
    Sound v (b.commentIn parent content) :=
  sound.withSketch (sound.shape.appendNew (.comment content) parent rfl nofun)

theorem insertComment (sound : Sound v b) (content : String) :
    Sound v (b.insertComment content) := by
  have added := sound.shape.add (.comment content) nofun
  apply (sound.withSketch added).place
  · rw [isOrdinary]
    exact congrArg SketchKind.isOrdinary (outline_added (.comment content))
  · intro _
    exact congrArg SketchNode.parent ((node_add _ _).trans (if_pos rfl))

/-- Attributes are added to an element. -/
theorem addMissing (sound : Sound v b) (id : Nat) (more : List Attribute) :
    Sound v { b with sketch := b.sketch.addMissing id more } :=
  sound.withSketch (sound.shape.addMissing more)

/-! ## New elements -/

/-- A new element is the latest node, without a place, and everything else is as it was. -/
theorem create_kept {stage : Stage} (shape : b.sketch.Shape stage) (space : Space) (tag : Tag) :
    ∃ s contents, (b.create space tag).2 = { b with sketch := s } ∧
      Kept stage b.sketch s ∧ b.sketch.nodes.size ≤ (b.create space tag).1 ∧
      s.outline (b.create space tag).1 = .element space tag.name [] contents ∧
      (s.node (b.create space tag).1).parent = none := by
  have placeless : ∀ (s : Sketch) (kind : SketchKind),
      ((s.add kind).2.node s.nodes.size).parent = none := by
    intro s kind
    rw [node_add, if_pos rfl]
  unfold Builder.create
  split
  · have fragment := shape.add .fragment nofun
    have element := fragment.shape.add
      (.element space tag.name tag.attributes (some b.sketch.nodes.size)) (by
        rintro _ _ _ _ ⟨⟩
        refine ⟨?_, outline_added .fragment⟩
        have size : (b.sketch.add .fragment).2.nodes.size = b.sketch.nodes.size + 1 :=
          Array.size_push _
        omega)
    refine ⟨_, _, rfl, fragment.trans element, ?_, outline_added _, placeless _ _⟩
    exact fragment.later.size
  · have element := shape.add (.element space tag.name tag.attributes none) (by simp)
    exact ⟨_, _, rfl, element, Nat.le_refl _, outline_added _, placeless _ _⟩

/-- A new element that is not part of the frame is put where content belongs. -/
theorem placed_kept {stage : Stage} (shape : b.sketch.Shape stage) (space : Space) (tag : Tag)
    (ordinary : ∀ contents, (SketchKind.element space tag.name [] contents).isOrdinary = true)
    (target : Builder → Nat) :
    ∃ s contents, (b.create space tag).2.place (b.create space tag).1
        (target (b.create space tag).2) = { b with sketch := s } ∧
      Kept stage b.sketch s ∧ b.sketch.nodes.size ≤ (b.create space tag).1 ∧
      s.outline (b.create space tag).1 = .element space tag.name [] contents := by
  obtain ⟨s, contents, made, kept, fresh, outline, placeless⟩ := create_kept shape space tag
  have movable : s.isOrdinary (b.create space tag).1 = true := by
    rw [isOrdinary, outline]
    exact ordinary contents
  rw [made]
  obtain ⟨s', same, placed⟩ := place_kept (b := { b with sketch := s }) kept.shape movable
    (fun _ => placeless) (target { b with sketch := s })
  refine ⟨s', contents, same, kept.trans placed, fresh, ?_⟩
  rw [placed.later.outline _ (inside_of_ordinary movable), outline]

/-- An element is opened: it is new, and everything else is as it was. -/
theorem insertForeign_kept {stage : Stage} (shape : b.sketch.Shape stage) (space : Space)
    (tag : Tag)
    (ordinary : ∀ contents, (SketchKind.element space tag.name [] contents).isOrdinary = true) :
    ∃ s id contents, b.insertForeign space tag = { b with sketch := s, opened := id :: b.opened } ∧
      Kept stage b.sketch s ∧ b.sketch.nodes.size ≤ id ∧
      s.outline id = .element space tag.name [] contents := by
  obtain ⟨s, contents, same, kept, fresh, outline⟩ :=
    placed_kept shape space tag ordinary fun b => b.current
  refine ⟨s, (b.create space tag).1, contents, ?_, kept, fresh, outline⟩
  have whole : b.insertForeign space tag =
      let placed := (b.create space tag).2.place (b.create space tag).1
        (b.create space tag).2.current
      { placed with opened := (b.create space tag).1 :: placed.opened } := rfl
  rw [whole, same]

/-- An element without content is put where content belongs. -/
theorem insertClosed (sound : Sound v b) (space : Space) (tag : Tag)
    (ordinary : ∀ contents, (SketchKind.element space tag.name [] contents).isOrdinary = true) :
    Sound v (b.insertClosed space tag) := by
  obtain ⟨s, contents, same, kept, _⟩ :=
    placed_kept sound.shape space tag ordinary fun b => b.current
  have inserted : b.insertClosed space tag = { b with sketch := s } := same
  rw [inserted]
  exact sound.withSketch kept

/-- An element that is new is not open yet. -/
theorem fresh_unopened (sound : Sound v b) {id : Nat} (fresh : b.sketch.nodes.size ≤ id) :
    id ∉ b.opened := by
  intro member
  have inside := inside_of_element (sound.stack.elements id member)
  omega

/-- A plain element is opened where content may stand. -/
theorem insertForeign (sound : Sound v b) (space : Space) (tag : Tag)
    (plain : isPlain space tag.name = true) (roomy : v.Roomy) :
    Sound v (b.insertForeign space tag) := by
  have ordinary : ∀ contents,
      (SketchKind.element space tag.name [] contents).isOrdinary = true := by
    intro contents
    cases space <;> simp [isPlain, SketchKind.isOrdinary] at plain ⊢ <;> tauto
  obtain ⟨s, id, contents, same, kept, fresh, outline⟩ :=
    insertForeign_kept sound.shape space tag ordinary
  obtain ⟨light, element, named⟩ := light_of_outline outline plain
  have pushed := (sound.stack.later kept.later).push light.1 element (sound.fresh_unopened fresh)
    (fun frameset => absurd frameset named)
    (by intro n allowed found; rw [light.2] at found; cases found)
    (roomy.imp_right Or.inl)
  rw [light.2] at pushed
  rw [same]
  exact (sound.withSketch kept).withStack pushed rfl

theorem insert (sound : Sound v b) (tag : Tag) (plain : isPlain .html tag.name = true)
    (roomy : v.Roomy) : Sound v (b.insert tag) :=
  sound.insertForeign .html tag plain roomy

/-- An element of the frame or of a table may be left without content anywhere, if it is not one of
which there is only one. -/
theorem insertVoid (sound : Sound v b) (tag : Tag)
    (ordinary : ∀ contents, (SketchKind.element .html tag.name [] contents).isOrdinary = true) :
    Sound v (b.insertVoid tag) :=
  sound.insertClosed .html tag ordinary

/-- A structural element other than a template is opened on what it has to stand on. -/
theorem insertKind (sound : Sound v b) (tag : Tag) (known : tag.name ∈ structural)
    (other : tag.name ≠ "template")
    (seat : ∀ allowed, seats tag.name = some allowed →
      ∃ m ∈ allowed, b.opened.head?.bind b.sketch.kind = some m)
    (roomy : v.Roomy) :
    Sound { v with kinds := tag.name :: v.kinds } (b.insert tag) := by
  have ordinary : ∀ contents,
      (SketchKind.element .html tag.name [] contents).isOrdinary = true := by
    intro contents
    generalize tag.name = name at known
    fin_cases known <;> rfl
  obtain ⟨s, id, contents, same, kept, fresh, outline⟩ :=
    insertForeign_kept sound.shape .html tag ordinary
  have named := nameOf_of_outline outline
  have found : s.kind id = some tag.name := kind_eq_some.mpr ⟨named, known⟩
  have pushed := (sound.stack.later kept.later).push
    (by rw [isOrdinary, outline]; exact ordinary contents)
    (by rw [elementName_of_outline outline]; rfl) (sound.fresh_unopened fresh)
    (by
      rw [named]
      intro frameset
      rw [(Prod.mk.inj frameset).2] at known
      exact absurd known (by decide))
    (by
      intro n allowed structure_found seated
      obtain rfl : tag.name = n := Option.some.inj (found.symm.trans structure_found)
      obtain ⟨m, member, stands⟩ := seat allowed seated
      refine ⟨m, member, ?_⟩
      cases opened : b.opened with
      | nil =>
        rw [opened] at stands
        cases stands
      | cons below rest =>
        rw [opened] at stands
        rw [← stands]
        exact kept.later.kind (inside_of_element (sound.stack.elements below (by simp [opened]))))
    (roomy.imp_right Or.inl)
  rw [found] at pushed
  have inserted : b.insert tag = { b with sketch := s, opened := id :: b.opened } := same
  rw [inserted]
  refine (sound.withSketch kept).withStack pushed ?_
  simp [other]

end Sound

end Builder

end Pagefold.Html
