import Mathlib
import Pagefold.Proofs.Html.Sealed

/-!
# Building outside of a finished part

The operations of the construction start from the elements that are open, and from the head. If these
are outside of a finished part of the document, they are so after the operation, too, and the part is
as it was. This also holds of adoption, which moves elements that are open and the children of such
elements.
-/
namespace Pagefold.Html.Builder

open Sketch Step

variable {island : Island} {fosters : Bool} {b : Builder} {tag : Tag} {id : Nat}

/-- The island is in the sketch, and the open elements and the head are outside of it. -/
structure Around (island : Island) (s : Sketch) (opened : List Nat) (head : Option Nat) :
    Prop where
  intact : s.Sealed island
  opened : ∀ id ∈ opened, s.Outside island.ids id
  head : ∀ id, head = some id → s.Outside island.ids id

/-- The construction goes on outside of the island. Of the rest of its state only this is followed:
whether content is moved out of tables. -/
def Apart (island : Island) (fosters : Bool) (b : Builder) : Prop :=
  Around island b.sketch b.opened b.head ∧ b.fosters = fosters

/-- Only the sketch changes when a node is put somewhere. -/
theorem place_sketch (b : Builder) (id target : Nat) :
    b.place id target = { b with sketch := (b.place id target).sketch } := by
  unfold Builder.place
  split <;> rfl

/-- A new element makes the sketch larger. -/
theorem create_size (b : Builder) (space : Space) (tag : Tag) :
    b.sketch.nodes.size ≤ (b.create space tag).2.sketch.nodes.size := by
  unfold Builder.create
  split
  · simp [Sketch.add]
    omega
  · simp [Sketch.add]

namespace Apart

theorem intact (apart : b.Apart island fosters) : b.sketch.Sealed island := apart.1.intact

theorem opened (apart : b.Apart island fosters) : ∀ id ∈ b.opened, b.sketch.Outside island.ids id :=
  apart.1.opened

theorem head (apart : b.Apart island fosters) :
    ∀ id, b.head = some id → b.sketch.Outside island.ids id :=
  apart.1.head

/-- A change of the sketch. -/
theorem change (apart : b.Apart island fosters) {s : Sketch} (spared : Spared island b.sketch s) :
    Apart island fosters { b with sketch := s } :=
  ⟨⟨spared.keeps, fun id member => (apart.opened id member).later spared.size,
    fun id found => (apart.head id found).later spared.size⟩, apart.2⟩

/-! ## Closing and opening elements -/

/-- Other elements are open, all of them outside. -/
theorem restack (apart : b.Apart island fosters) {opened : List Nat}
    (outside : ∀ id ∈ opened, b.sketch.Outside island.ids id) : Apart island fosters { b with opened } :=
  ⟨⟨apart.intact, outside, apart.head⟩, apart.2⟩

/-- Some of the open elements are closed. -/
theorem keep (apart : b.Apart island fosters) {opened : List Nat}
    (still : ∀ id ∈ opened, id ∈ b.opened) :
    Apart island fosters { b with opened } :=
  apart.restack fun id member => apart.opened id (still id member)

/-- An element outside is opened. -/
theorem cover (apart : b.Apart island fosters) (outside : b.sketch.Outside island.ids id) :
    Apart island fosters { b with opened := id :: b.opened } :=
  apart.restack (List.forall_mem_cons.mpr ⟨outside, apart.opened⟩)

/-- The innermost element is outside, and so is the document where none is open. -/
theorem current (apart : b.Apart island fosters) : b.sketch.Outside island.ids b.current := by
  unfold Builder.current
  cases opened : b.opened with
  | nil => exact apart.intact.root
  | cons id below => exact apart.opened id (by rw [opened]; exact List.mem_cons_self)

/-- The outermost element is outside. -/
theorem outermost (apart : b.Apart island fosters) :
    b.sketch.Outside island.ids (b.opened.getLast?.getD Sketch.root) := by
  cases found : b.opened.getLast? with
  | none => exact apart.intact.root
  | some id => exact apart.opened id (List.mem_of_getLast? found)

theorem pop (apart : b.Apart island fosters) : b.pop.Apart island fosters :=
  apart.keep fun _ member => List.mem_of_mem_drop member

theorem popThrough (apart : b.Apart island fosters) (last : Nat → Bool) :
    (b.popThrough last).Apart island fosters :=
  apart.keep fun _ member => (List.dropWhile_sublist _).subset (List.mem_of_mem_drop member)

theorem popNamed (apart : b.Apart island fosters) (name : String) :
    (b.popNamed name).Apart island fosters :=
  apart.popThrough _

theorem popUntil (apart : b.Apart island fosters) (kept : Nat → Bool) :
    (b.popUntil kept).Apart island fosters :=
  apart.keep fun _ member => (List.dropWhile_sublist _).subset member

theorem closeImplied (apart : b.Apart island fosters) (except : String) :
    (b.closeImplied except).Apart island fosters :=
  apart.keep fun _ member => (List.dropWhile_sublist _).subset member

theorem closeParagraph (apart : b.Apart island fosters) : b.closeParagraph.Apart island fosters :=
  (apart.closeImplied "p").popNamed "p"

theorem closeOpenParagraph (apart : b.Apart island fosters) :
    b.closeOpenParagraph.Apart island fosters := by
  unfold Builder.closeOpenParagraph
  split
  · exact apart.closeParagraph
  · exact apart

theorem unstack (apart : b.Apart island fosters) (id : Nat) : (b.unstack id).Apart island fosters :=
  apart.keep fun _ member => List.mem_of_mem_erase member

theorem closeAny (apart : b.Apart island fosters) (name : String) :
    (b.closeAny name).Apart island fosters := by
  unfold Builder.closeAny
  split
  · split
    · exact (apart.closeImplied name).popThrough _
    · exact apart
  · exact apart

/-! ## Inserting nodes -/

/-- The node whose child is put in the spot. -/
def Spot.parent : Spot → Nat
  | .last parent => parent
  | .before parent _ => parent

/-- Content that is moved out of a table goes to a node outside. -/
theorem fosterSpot_outside (apart : b.Apart island fosters) (opened : List Nat)
    (outside : ∀ id ∈ opened, b.sketch.Outside island.ids id) :
    b.sketch.Outside island.ids (Spot.parent (b.fosterSpot opened)) := by
  fun_induction Builder.fosterSpot b opened with
  | case1 => exact apart.intact.root
  | case2 id => exact outside id List.mem_cons_self
  | case3 id above rest template =>
    exact apart.intact.inside_outside (outside id List.mem_cons_self)
  | case4 id above rest other table parent placed =>
    exact apart.intact.parent_outside (outside id List.mem_cons_self).movable placed
  | case5 id above rest => exact outside above (by simp)
  | case6 id above rest _ _ inductionHypothesis =>
    exact inductionHypothesis fun other member => outside other (List.mem_cons_of_mem _ member)

/-- What belongs into a node outside goes to a node outside. -/
theorem spotIn_outside (apart : b.Apart island fosters) {target : Nat}
    (outside : b.sketch.Outside island.ids target) :
    b.sketch.Outside island.ids (Spot.parent (b.spotIn target)) := by
  unfold Builder.spotIn
  split
  · exact apart.fosterSpot_outside b.opened apart.opened
  · exact apart.intact.inside_outside outside

/-- A node that may be moved is put where content of a node outside belongs. -/
theorem place_spared (apart : b.Apart island fosters) (movable : b.sketch.Movable island id)
    {target : Nat} (outside : b.sketch.Outside island.ids target) :
    Spared island b.sketch (b.place id target).sketch := by
  have spot := apart.spotIn_outside outside
  unfold Builder.place
  generalize b.spotIn target = found at spot
  cases found with
  | last parent => exact apart.intact.append spot movable
  | before parent sibling => exact apart.intact.insertBefore spot sibling movable

theorem place (apart : b.Apart island fosters) (movable : b.sketch.Movable island id) {target : Nat}
    (outside : b.sketch.Outside island.ids target) : (b.place id target).Apart island fosters := by
  rw [place_sketch]
  exact apart.change (apart.place_spared movable outside)

theorem insertText (apart : b.Apart island fosters) (content : String) :
    (b.insertText content).Apart island fosters := by
  have spot := apart.spotIn_outside apart.current
  unfold Builder.insertText
  generalize b.spotIn b.current = found at spot
  cases found with
  | last parent => exact apart.change (apart.intact.appendText spot content)
  | before parent sibling =>
    exact apart.change (apart.intact.insertTextBefore spot sibling content)

/-- A new element is outside. -/
theorem create (apart : b.Apart island fosters) (space : Space) (tag : Tag) :
    Apart island fosters (b.create space tag).2 ∧
      (b.create space tag).2.sketch.Outside island.ids (b.create space tag).1 := by
  unfold Builder.create
  split
  · obtain ⟨first, contents⟩ := apart.intact.add .fragment nofun
    obtain ⟨second, fresh⟩ := first.keeps.add
      (.element space tag.name tag.attributes (some b.sketch.nodes.size)) fun _ _ _ inner same => by
        cases same
        exact contents
    exact ⟨apart.change (first.trans second), fresh⟩
  · obtain ⟨added, fresh⟩ :=
      apart.intact.add (.element space tag.name tag.attributes none) (by simp)
    exact ⟨apart.change added, fresh⟩

theorem insertClosed (apart : b.Apart island fosters) (space : Space) (tag : Tag) :
    (b.insertClosed space tag).Apart island fosters := by
  obtain ⟨created, fresh⟩ := apart.create space tag
  exact created.place fresh.movable created.current

theorem insertForeign (apart : b.Apart island fosters) (space : Space) (tag : Tag) :
    (b.insertForeign space tag).Apart island fosters := by
  obtain ⟨created, fresh⟩ := apart.create space tag
  have spared := created.place_spared fresh.movable created.current
  exact (created.place fresh.movable created.current).cover (fresh.later spared.size)

theorem insert (apart : b.Apart island fosters) (tag : Tag) : (b.insert tag).Apart island fosters :=
  apart.insertForeign .html tag

theorem insertVoid (apart : b.Apart island fosters) (tag : Tag) :
    (b.insertVoid tag).Apart island fosters :=
  apart.insertClosed .html tag

theorem insertImplied (apart : b.Apart island fosters) (name : String) :
    (b.insertImplied name).Apart island fosters :=
  apart.insert { name }

theorem insertRaw (apart : b.Apart island fosters) (tag : Tag) (reading : Reading) :
    (b.insertRaw tag reading).Apart island fosters :=
  apart.insert tag

theorem insertSpace (apart : b.Apart island fosters) (space : Space) (tag : Tag) :
    (Foreign.insert b space tag).Apart island fosters := by
  unfold Foreign.insert
  dsimp only
  split
  · exact apart.insertClosed space _
  · exact apart.insertForeign space _

theorem commentIn (apart : b.Apart island fosters) {parent : Nat}
    (outside : b.sketch.Outside island.ids parent) (content : String) :
    (b.commentIn parent content).Apart island fosters := by
  obtain ⟨added, fresh⟩ := apart.intact.add (.comment content) nofun
  exact apart.change
    (added.trans (added.keeps.append (outside.later added.size) fresh.movable))

theorem insertComment (apart : b.Apart island fosters) (content : String) :
    (b.insertComment content).Apart island fosters := by
  obtain ⟨added, fresh⟩ := apart.intact.add (.comment content) nofun
  have changed := apart.change added
  exact changed.place fresh.movable changed.current

theorem insertRoot (apart : b.Apart island fosters) (attributes : List Attribute) :
    (b.insertRoot attributes).Apart island fosters := by
  obtain ⟨created, fresh⟩ := apart.create .html { name := "html", attributes }
  have put := created.intact.append created.intact.root fresh.movable
  exact (created.change put).cover (fresh.later put.size)

/-- Attributes of a second tag go to an element outside. -/
theorem addMissing (apart : b.Apart island fosters) (outside : b.sketch.Outside island.ids id)
    (more : List Attribute) : Apart island fosters { b with sketch := b.sketch.addMissing id more } :=
  apart.change (apart.intact.addMissing outside.apart more)

/-! ## Formatting elements -/

theorem reopen (apart : b.Apart island fosters) (entries : List Formatting) :
    (b.reopen entries).1.Apart island fosters := by
  fun_induction Builder.reopen b entries with
  | case1 => exact apart
  | case2 b rest inductionHypothesis => exact inductionHypothesis apart
  | case3 b id tag rest opened entry after entries same inductionHypothesis =>
    have further := inductionHypothesis (apart.insert tag)
    rw [same] at further
    exact further

theorem reconstruct (apart : b.Apart island fosters) : b.reconstruct.Apart island fosters :=
  apart.reopen _

theorem insertFormatting (apart : b.Apart island fosters) (tag : Tag) :
    (b.insertFormatting tag).Apart island fosters := by
  unfold Builder.insertFormatting
  dsimp only
  split
  · split
    · exact Apart.insert (b := b.unlist _) apart tag
    · exact apart.insert tag
  · exact apart.insert tag

end Apart

/-! ## Adoption -/

/-- The rounds of an adoption go on outside of the island, and so does what they have moved. -/
structure Adopts (island : Island) (fosters : Bool) (b : Builder) (a : Adoption) : Prop where
  apart : a.builder.Apart island fosters
  moved : a.builder.sketch.Outside island.ids a.moved
  size : b.sketch.nodes.size ≤ a.builder.sketch.nodes.size

/-- In a round for an element, what has been moved goes to a copy of the element. -/
theorem Adopts.round {a : Adoption} (adopts : Adopts island fosters b a) (block id : Nat) :
    Adopts island fosters b (adoptRound block a id) := by
  unfold adoptRound
  dsimp only
  split
  · exact ⟨adopts.apart.unstack id, adopts.moved, adopts.size⟩
  · split
    · exact ⟨adopts.apart.unstack id, adopts.moved, adopts.size⟩
    · next tag _ =>
      obtain ⟨created, copy⟩ := adopts.apart.create .html { tag with selfClosing := false }
      have grown := create_size a.builder .html { tag with selfClosing := false }
      have moved := adopts.moved.later grown
      have detached := created.intact.detach moved.movable
      have put := detached.trans (detached.keeps.append (copy.later detached.size)
        (moved.later detached.size).movable)
      refine ⟨(created.change put).restack fun other member => ?_, copy.later put.size,
        adopts.size.trans (grown.trans put.size)⟩
      obtain ⟨old, inside, rfl⟩ := List.mem_map.mp member
      split
      · exact copy.later put.size
      · exact (created.change put).opened old inside

theorem Adopts.rounds {a : Adoption} (adopts : Adopts island fosters b a) (block : Nat)
    (between : List Nat) : Adopts island fosters b (between.foldl (adoptRound block) a) := by
  induction between generalizing a with
  | nil => exact adopts
  | cons id rest inductionHypothesis => exact inductionHypothesis (adopts.round block id)

namespace Apart

/-- Listing an element changes nothing that matters. -/
theorem listAt (apart : b.Apart island fosters) (old new : Nat) (tag : Tag) (bookmark : Bookmark) :
    (b.listAt old new tag bookmark).Apart island fosters := by
  cases bookmark <;> exact apart

/-- The block goes to the element around it, and its children to a copy of the formatting element. -/
theorem adoptBlock (apart : b.Apart island fosters) (id : Nat) (tag : Tag) {block around : Nat}
    (inner : b.sketch.Outside island.ids block) (outer : b.sketch.Outside island.ids around) :
    (b.adoptBlock id tag block around).Apart island fosters := by
  have begun : Adopts island fosters b ⟨b, block, 0, .replacing⟩ := ⟨apart, inner, Nat.le_refl _⟩
  have adopts := begun.rounds block
    (((b.opened.dropWhile (· ≠ block)).drop 1).takeWhile (· ≠ id))
  unfold Builder.adoptBlock
  dsimp only
  generalize (((b.opened.dropWhile (· ≠ block)).drop 1).takeWhile (· ≠ id)).foldl
    (Builder.adoptRound block) ⟨b, block, 0, .replacing⟩ = a at adopts ⊢
  have detached := adopts.apart.intact.detach adopts.moved.movable
  have changed := adopts.apart.change detached
  have target := (outer.later adopts.size).later detached.size
  have movable := (adopts.moved.later detached.size).movable
  have placed := changed.place movable target
  have source := ((inner.later adopts.size).later detached.size).later
    (changed.place_spared movable target).size
  generalize Builder.place { a.builder with sketch := a.builder.sketch.detach a.moved } a.moved
    around = p at placed source ⊢
  obtain ⟨created, copy⟩ := placed.create .html { tag with selfClosing := false }
  replace source := source.later (create_size p .html { tag with selfClosing := false })
  generalize p.create .html { tag with selfClosing := false } = made at created copy source ⊢
  have moved := created.intact.moveChildren source copy
  have put := moved.trans (moved.keeps.append (source.later moved.size)
    (copy.later moved.size).movable)
  have listed := ((created.change put).listAt id made.1 tag a.bookmark).unstack id
  have new : (Builder.listAt { made.2 with
      sketch := (made.2.sketch.moveChildren block made.1).append block made.1 } id made.1 tag
        a.bookmark).sketch.Outside island.ids made.1 := by
    cases a.bookmark <;> exact copy.later put.size
  refine listed.restack fun other member => ?_
  obtain ⟨old, inside, here⟩ := List.mem_flatMap.mp member
  have known := listed.opened old inside
  split at here
  · rcases List.mem_cons.mp here with rfl | same
    · exact new
    · rwa [List.mem_singleton.mp same]
  · rwa [List.mem_singleton.mp here]

theorem adoptFrom (apart : b.Apart island fosters) (rounds : Nat) (name : String) :
    (Builder.adoptFrom rounds b name).Apart island fosters := by
  induction rounds generalizing b with
  | zero => exact apart
  | succ rounds inductionHypothesis =>
    unfold Builder.adoptFrom
    split
    · exact apart.closeAny name
    · next id tag found =>
      split
      · exact apart
      · split
        · exact apart
        · dsimp only
          have above : ∀ other ∈ (b.opened.dropWhile (· ≠ id)).drop 1, other ∈ b.opened :=
            fun other member => (List.dropWhile_sublist _).subset (List.mem_of_mem_drop member)
          split
          · exact apart.keep above
          · next block inner =>
            have open_block : block ∈ b.opened := (List.takeWhile_sublist _).subset
              (List.mem_of_mem_filter (List.mem_of_getLast? inner))
            apply inductionHypothesis
            apply apart.adoptBlock id tag (apart.opened block open_block)
            cases rest : (b.opened.dropWhile (· ≠ id)).drop 1 with
            | nil => exact apart.intact.root
            | cons around _ => exact apart.opened around (above around (rest ▸ List.mem_cons_self))

theorem adopt (apart : b.Apart island fosters) (name : String) :
    (b.adopt name).Apart island fosters := by
  unfold Builder.adopt
  dsimp only
  split
  · exact apart.pop
  · exact apart.adoptFrom 8 name

end Apart

end Pagefold.Html.Builder
