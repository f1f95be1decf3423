import Mathlib
import Pagefold.Html.Modes
import Pagefold.Proofs.Html.Fitting

/-!
# How the frame grows

The elements of the frame are opened one after the other: the root, the head, and the body or in its
place a frameset. Each of them is put at the end of the one around it, and the stage of the frame
tells which ones are open.
-/
namespace Pagefold.Html

namespace Stack

open Sketch

variable {s : Sketch} {stage stage' : Stage} {kinds : List String} {opened : List Nat}

/-- The elements of the frame alone are a stack. -/
theorem of_base (elements : ∀ id ∈ stage.base, (s.elementName? id).isSome = true)
    (framed : ∀ id ∈ stage.base, s.isOrdinary id = false) (nodup : stage.base.Nodup) :
    Stack s stage [] stage.base where
  elements := elements
  base := framed
  inner := ⟨[], rfl, nofun, nofun⟩
  kinds := List.filterMap_eq_nil_iff.mpr fun id member => kind_framed (framed id member)
  seated := by
    have bare : ∀ l : List Nat, (∀ id ∈ l, s.isOrdinary id = false) → s.Seated l := by
      intro l each
      have covered : s.Seated (l ++ []) :=
        Seated.cover (fun id member => kind_framed (each id member)) trivial
      rwa [List.append_nil] at covered
    exact bare _ framed
  nodup := nodup

end Stack

namespace Sketch.Shape

variable {s : Sketch} {stage : Stage}

/-- The open elements of the frame alone are a stack. -/
theorem base_stack (shape : s.Shape stage) : Stack s stage [] stage.base := by
  apply Stack.of_base
  · intro id member
    obtain ⟨name, listed⟩ := Stage.mem_base member
    rw [elementName_of_outline (shape.members id name listed)]
    rfl
  · intro id member
    obtain ⟨name, listed⟩ := Stage.mem_base member
    exact shape.member_framed listed
  · have distinct : ∀ id name id' name', (id, name) ∈ stage.members →
        (id', name') ∈ stage.members → name ≠ name' → id ≠ id' := by
      rintro id name _ name' member member' other rfl
      have outline := shape.members id name member
      rw [shape.members id name' member'] at outline
      cases outline
      exact other rfl
    cases stage with
    | inHead html head =>
      simpa [Stage.base] using distinct head "head" html "html" (by simp [Stage.members])
        (by simp [Stage.members]) (by decide)
    | inBody html head body =>
      simpa [Stage.base] using distinct body "body" html "html" (by simp [Stage.members])
        (by simp [Stage.members]) (by decide)
    | _ => simp [Stage.base]

/-- The frame grows by a new element at the end of the root. -/
theorem growRoot {html : Nat} {others : List Nat} (shape : s.Shape stage) (stage' : Stage)
    (name : String) (attributes : List Attribute)
    (framed : (SketchKind.element .html name attributes none).isOrdinary = false)
    (ids : stage.ids = html :: others)
    (members : stage'.members = stage.members ++ [(s.nodes.size, name)])
    (body : ∀ html' head body, stage' = .inBody html' head body →
      body = s.nodes.size ∧ html' = html)
    (bodied : stage'.isFrames = false) :
    Shape stage' ((s.add (.element .html name attributes none)).2.append html s.nodes.size) ∧
      Extends s ((s.add (.element .html name attributes none)).2.append html s.nodes.size) := by
  have listed : html ∈ stage.ids := by rw [ids]; exact List.mem_cons_self
  obtain ⟨⟨other, own⟩, member, same⟩ := List.mem_map.mp listed
  rw [show other = html from same] at member
  have apart : html ≠ Sketch.root := by
    rintro rfl
    have outline := shape.members Sketch.root own member
    rw [shape.root] at outline
    cases outline
  have ids' : stage'.ids = html :: (others ++ [s.nodes.size]) := by
    rw [Stage.ids, members, List.map_append, ← Stage.ids, ids]
    rfl
  apply shape.grow stage' name attributes html (shape.member_inside member) framed members
  · intro id
    rw [Stage.children, Stage.children, ids, ids']
    by_cases here : id = html
    · simp [here, apart]
    · simp [here, Ne.symm here]
  · exact body
  · exact bodied

end Sketch.Shape

namespace Builder

open Sketch

variable {v : View} {b : Builder} {tag : Tag}

namespace Sound

/-- If no structural element is open and content may not stand in the frame, only elements of the
frame are open. -/
theorem opened_bare (sound : Sound v b) (none : v.kinds = []) (closed : v.stage.isOpen = false) :
    b.opened = v.stage.base := by
  have stack := sound.stack
  rw [none] at stack
  exact stack.bare closed

/-- The frame is in another stage, with only elements of the frame open. -/
theorem restage (sound : Sound v b) {s : Sketch} {stage : Stage} (shape : s.Shape stage)
    (later : Extends b.sketch s) (templates : b.templateModes = []) {opened : List Nat}
    (base : opened = stage.base) {head : Option Nat} (remembered : head = stage.head?) :
    Sound { v with stage, kinds := [] } { b with sketch := s, opened, head } where
  shape := shape
  stack := by
    rw [base]
    exact shape.base_stack
  mode := sound.mode
  resumed := sound.resumed
  head := remembered
  form := by
    intro id remembered
    have named := sound.form id remembered
    rw [← named]
    exact later.elementName (inside_of_element (by rw [named]; rfl))
  formatting := by
    intro id tag member
    obtain ⟨named, known⟩ := sound.formatting id tag member
    refine ⟨?_, known⟩
    rw [← named]
    exact later.elementName (inside_of_element (by rw [named]; rfl))
  templateModes := sound.templateModes
  templates := by rw [templates]; rfl
  frameset := sound.frameset
  pending := sound.pending

/-- Where no structural element is open, no template is. -/
theorem templates_nil (sound : Sound v b) (none : v.kinds = []) : b.templateModes = [] := by
  have count := sound.templates
  rw [none] at count
  exact List.eq_nil_of_length_eq_zero count

/-! ## Elements of the frame -/

/-- The root element is opened. -/
theorem insertRoot (sound : Sound v b) (start : v.stage = .start) (none : v.kinds = [])
    (attributes : List Attribute) :
    ∃ html, Sound { v with stage := .rooted html, kinds := [] } (b.insertRoot attributes) := by
  have shape := sound.shape
  rw [start] at shape
  have bare := sound.opened_bare none (by rw [start]; rfl)
  rw [start] at bare
  obtain ⟨grown, later⟩ := shape.grow (.rooted b.sketch.nodes.size) "html" attributes Sketch.root
    shape.root_inside rfl rfl
    (by
      intro id
      by_cases here : id = Sketch.root <;> simp [Stage.children, Stage.ids, Stage.members, here])
    nofun rfl
  refine ⟨b.sketch.nodes.size, ?_⟩
  refine sound.restage grown later (sound.templates_nil none) ?_ ?_
  · show b.sketch.nodes.size :: b.opened = _
    rw [bare]
    rfl
  · show b.head = Option.none
    rw [sound.head, start]
    rfl

/-- An element of the frame is put at the end of the root, and opened. -/
theorem insert_framed (sound : Sound v b) {html : Nat} (opened : b.opened = [html])
    (member : (html, "html") ∈ v.stage.members) (name : tag.name ≠ "template") :
    b.insert tag = { b with
      sketch := (b.sketch.add (.element .html tag.name tag.attributes none)).2.append html
        b.sketch.nodes.size
      opened := [b.sketch.nodes.size, html] } := by
  have outline := sound.shape.members html "html" member
  have inside := sound.shape.member_inside member
  have later := (sound.shape.add (.element .html tag.name tag.attributes none) (by simp)).later
  have made : b.create .html tag = (b.sketch.nodes.size,
      { b with sketch := (b.sketch.add (.element .html tag.name tag.attributes none)).2 }) := by
    rw [create, if_neg fun template => name template.2]
    rfl
  have outline' : (b.sketch.add (.element .html tag.name tag.attributes none)).2.outline html =
      .element .html "html" [] none := by
    rw [later.outline html inside, outline]
  have contents : (b.sketch.add (.element .html tag.name tag.attributes none)).2.inside html =
      html := by
    rw [Sketch.inside]
    rw [Sketch.outline] at outline'
    cases kind : ((b.sketch.add (.element .html tag.name tag.attributes none)).2.node html).kind with
    | element space name' attributes contents =>
      rw [kind] at outline'
      cases outline'
      rfl
    | _ => rfl
  have named := nameOf_of_outline outline'
  have spot : Builder.spotIn
      { b with sketch := (b.sketch.add (.element .html tag.name tag.attributes none)).2 } html =
        .last html := by
    have root : Builder.isOneOf
        { b with sketch := (b.sketch.add (.element .html tag.name tag.attributes none)).2 }
        ["table", "tbody", "tfoot", "thead", "tr"] html = false := by
      rw [← Bool.not_eq_true, isOneOf_iff]
      rintro ⟨n, member, same⟩
      have named' : n = "html" := by
        dsimp only at same
        rw [named] at same
        exact (Prod.mk.inj same).2.symm
      rw [named'] at member
      revert member
      decide
    rw [spotIn, root, Bool.and_false, contents]
    rfl
  have current : b.current = html := by rw [Builder.current, opened]; rfl
  have whole : b.insert tag =
      let placed := (b.create .html tag).2.place (b.create .html tag).1
        (b.create .html tag).2.current
      { placed with opened := (b.create .html tag).1 :: placed.opened } := rfl
  have current' : Builder.current
      { b with sketch := (b.sketch.add (.element .html tag.name tag.attributes none)).2 } =
        html := current
  rw [whole, made]
  dsimp only
  rw [current', Builder.place, spot]
  dsimp only
  rw [opened]

/-- The head is opened. -/
theorem insertHead (sound : Sound v b) {html : Nat} (rooted : v.stage = .rooted html)
    (none : v.kinds = []) (name : tag.name = "head") :
    ∃ head, Sound { v with stage := .inHead html head, kinds := [] }
      { b.insert tag with head := some (b.insert tag).current } := by
  have shape := sound.shape
  rw [rooted] at shape
  have bare := sound.opened_bare none (by rw [rooted]; rfl)
  rw [rooted] at bare
  obtain ⟨grown, later⟩ := shape.growRoot (.inHead html b.sketch.nodes.size) "head" tag.attributes
    rfl rfl rfl nofun rfl
  have inserted := sound.insert_framed bare (by simp [rooted, Stage.members])
    (by rw [name]; decide)
  rw [name] at inserted
  refine ⟨b.sketch.nodes.size, ?_⟩
  rw [inserted]
  exact sound.restage grown later (sound.templates_nil none) rfl rfl

/-- The body is opened. -/
theorem insertBody (sound : Sound v b) {html head : Nat} (stage : v.stage = .afterHead html head)
    (none : v.kinds = []) (name : tag.name = "body") :
    ∃ body, Sound { v with stage := .inBody html head body, kinds := [] } (b.insert tag) := by
  have shape := sound.shape
  rw [stage] at shape
  have bare := sound.opened_bare none (by rw [stage]; rfl)
  rw [stage] at bare
  obtain ⟨grown, later⟩ := shape.growRoot (.inBody html head b.sketch.nodes.size) "body"
    tag.attributes rfl rfl rfl (by
      rintro _ _ _ ⟨⟩
      exact ⟨rfl, rfl⟩) rfl
  have inserted := sound.insert_framed bare (by simp [stage, Stage.members])
    (by rw [name]; decide)
  rw [name] at inserted
  refine ⟨b.sketch.nodes.size, ?_⟩
  rw [inserted]
  refine sound.restage grown later (sound.templates_nil none) rfl ?_
  show b.head = some head
  rw [sound.head, stage]
  rfl

/-- A frameset is open where framesets take the place of a body. -/
theorem pushFrameset (sound : Sound v b) (frames : v.stage.isFrames = true) {id : Nat}
    {contents : Option Nat} (outline : b.sketch.outline id = .element .html "frameset" [] contents)
    (unopened : id ∉ b.opened) : Sound v { b with opened := id :: b.opened } := by
  have named := nameOf_of_outline outline
  have unstructured : b.sketch.kind id = none := by
    rw [kind, named]
    decide
  have wide : v.stage.isOpen = true := by
    cases stage : v.stage <;> rw [stage] at frames
    case inFrames => rfl
    all_goals cases frames
  have pushed := sound.stack.push (by rw [isOrdinary, outline]; rfl)
    (by rw [elementName_of_outline outline]; rfl) unopened (fun _ => frames)
    (by
      intro n allowed found
      rw [unstructured] at found
      cases found)
    (Or.inl wide)
  rw [unstructured] at pushed
  exact sound.withStack pushed rfl

/-- A frameset is opened in another one. -/
theorem insertFrameset (sound : Sound v b) (frames : v.stage.isFrames = true)
    (name : tag.name = "frameset") : Sound v (b.insert tag) := by
  obtain ⟨s, id, contents, same, kept, fresh, outline⟩ :=
    insertForeign_kept sound.shape .html tag (by rw [name]; exact fun _ => rfl)
  rw [name] at outline
  have inserted : b.insert tag = { b with sketch := s, opened := id :: b.opened } := same
  rw [inserted]
  exact (sound.withSketch kept).pushFrameset frames outline (sound.fresh_unopened fresh)

/-- A document with a head and without a body gets a frameset. -/
theorem startFrames (sound : Sound v b) {html head : Nat} (stage : v.stage = .afterHead html head)
    (none : v.kinds = []) (name : tag.name = "frameset") :
    Sound { v with stage := .inFrames html head, kinds := [] } (b.insert tag) := by
  have shape := sound.shape
  rw [stage] at shape
  have bare := sound.opened_bare none (by rw [stage]; rfl)
  rw [stage] at bare
  have member : (html, "html") ∈ (Stage.afterHead html head).members := by simp [Stage.members]
  have inside := shape.member_inside member
  have inserted := sound.insert_framed bare (by rw [stage]; exact member)
    (by rw [name]; decide)
  rw [name] at inserted
  let grown := (b.sketch.add (.element .html "frameset" tag.attributes Option.none)).2
  -- The new frameset is the last child of the root.
  have added := shape.add (.element .html "frameset" tag.attributes Option.none) (by simp)
  have made := outline_added (s := b.sketch) (.element .html "frameset" tag.attributes Option.none)
  have ordinary : grown.isOrdinary b.sketch.nodes.size = true := by rw [isOrdinary, made]; rfl
  have appended := added.shape.append html ordinary (by simp [Stage.isFrames])
  have outline := (appended.later.outline b.sketch.nodes.size (by simp)).trans made
  have placed : b.sketch.nodes.size ∈
      ((grown.append html b.sketch.nodes.size).node html).children.toList :=
    mem_append (by simp [grown]; omega)
  have kept := added.trans appended
  have framed := kept.shape.restage (.inFrames html head) rfl (by simp)
    (fun _ => ⟨html, b.sketch.nodes.size, member, placed, outline⟩)
  have remembered : b.head = (Stage.inFrames html head).head? := by rw [sound.head, stage]; rfl
  have base : [html] = (Stage.inFrames html head).base := rfl
  have sound' := sound.restage framed kept.later (sound.templates_nil none) base remembered
  rw [inserted]
  exact sound'.pushFrameset rfl outline (by simp [inside.ne'])

/-- The second element of the stack is a body only in the stage with a body. -/
theorem body_stage (sound : Sound v b) (content : v.stage.holdsContent = true) {body : Nat}
    (found : b.body? = some body) : ∃ html head, v.stage = .inBody html head body := by
  obtain ⟨inner, whole, _, last⟩ := sound.stack.inner
  have named : ∀ id name, (id, name) ∈ v.stage.members → b.sketch.nameOf id = (.html, name) :=
    fun id name member => nameOf_of_outline (sound.shape.members id name member)
  rw [body?, whole, List.reverse_append] at found
  cases stage : v.stage <;> rw [stage] at content found named last <;> try cases content
  case inHead html head =>
    have other : b.isNamed "body" head = false := by
      rw [← Bool.not_eq_true, isNamed_iff, named head "head" (by simp [Stage.members])]
      decide
    simp [Stage.base, other] at found
  case afterHead html head =>
    cases outer : inner.reverse with
    | nil => simp [Stage.base, outer] at found
    | cons id others =>
      have template := last rfl id (by rw [List.getLast?_eq_head?_reverse, outer]; rfl)
      have other : b.isNamed "body" id = false := by
        rw [← Bool.not_eq_true, isNamed_iff, (kind_eq_some.mp template).1]
        decide
      simp [Stage.base, outer, other] at found
  case inBody html head body' =>
    simp [Stage.base] at found
    exact ⟨html, head, by rw [found.2]⟩

/-- The body is taken out, so that a frameset can take its place. -/
theorem dropBody (sound : Sound v b) {html head body : Nat}
    (stage : v.stage = .inBody html head body) (allowed : b.allowsFrameset = true) :
    Sound { v with stage := .afterHead html head, kinds := [] }
      { b with sketch := b.sketch.detach body, opened := b.opened.getLast?.toList } := by
  have shape := sound.shape
  rw [stage] at shape
  obtain ⟨dropped, later⟩ := shape.dropBody
  refine sound.restage dropped later (sound.frameset allowed) ?_ ?_
  · obtain ⟨inner, whole, _⟩ := sound.stack.inner
    rw [whole, stage]
    simp [Stage.base]
  · show b.head = some head
    rw [sound.head, stage]
    rfl

end Sound

end Builder

end Pagefold.Html
