import Mathlib
import Pagefold.Html.Adoption
import Pagefold.Proofs.Html.Closing

/-!
# Formatting elements

Formatting elements are opened again where content goes on, and the end tag of one that is misnested
moves what stands inside it. Both only open, close and replace elements that are not structural, and
only nodes outside the frame are moved.
-/
namespace Pagefold.Html

namespace Sketch

/-- An element that is not structural stays so in a later sketch. -/
theorem Extends.light {s s' : Sketch} (later : Extends s s') {id : Nat} (light : s.Light id) :
    s'.Light id := by
  have inside := inside_of_ordinary light.1
  rw [Light, later.isOrdinary inside, later.kind inside]
  exact light

end Sketch

namespace Builder

open Sketch

variable {v : View} {b : Builder}

namespace Sound

/-- No formatting element is structural. -/
theorem light_formatting {s : Sketch} {id : Nat} {name : String}
    (named : s.elementName? id = some (.html, name)) (known : name ∈ formattingNames) :
    s.Light id ∧ (s.elementName? id).isSome = true ∧ s.nameOf id ≠ (.html, "frameset") := by
  obtain ⟨space, name', contents, outline⟩ := outline_of_element (by rw [named]; rfl)
  rw [elementName_of_outline outline] at named
  obtain ⟨rfl, rfl⟩ := Prod.mk.inj (Option.some.inj named)
  exact light_of_outline outline (isPlain_formatting known)

/-- No listed element is structural. -/
theorem light_listed (sound : Sound v b) {id : Nat} {tag : Tag}
    (listed : .element id tag ∈ b.formatting) : b.sketch.Light id := by
  obtain ⟨named, known⟩ := sound.formatting id tag listed
  exact (light_formatting named known).1

/-- A recent formatting element is listed. -/
theorem mem_recent {id : Nat} {tag : Tag} (recent : (id, tag) ∈ b.recent) :
    .element id tag ∈ b.formatting := by
  obtain ⟨entry, member, same⟩ := List.mem_filterMap.mp recent
  cases entry with
  | marker => cases same
  | element other tag' =>
    cases same
    exact (List.takeWhile_prefix _).subset member

/-! ## Opening formatting elements -/

/-- A formatting element is opened: it is the innermost element, and it has the name of its tag. -/
theorem insert_formatting (sound : Sound v b) (tag : Tag) (known : tag.name ∈ formattingNames)
    (roomy : v.Roomy) :
    Sound v (b.insert tag) ∧ Extends b.sketch (b.insert tag).sketch ∧
      (b.insert tag).formatting = b.formatting ∧
      (b.insert tag).sketch.elementName? (b.insert tag).current = some (.html, tag.name) := by
  have ordinary : ∀ contents,
      (SketchKind.element .html tag.name [] contents).isOrdinary = true := by
    intro contents
    generalize tag.name = name at known
    fin_cases known <;> rfl
  refine ⟨sound.insert tag (isPlain_formatting known) roomy, ?_⟩
  obtain ⟨s, id, contents, same, kept, _, outline⟩ :=
    insertForeign_kept sound.shape .html tag ordinary
  have inserted : b.insert tag = { b with sketch := s, opened := id :: b.opened } := same
  rw [inserted]
  exact ⟨kept.later, rfl, elementName_of_outline outline⟩

/-- Formatting elements are opened again, each under the name of its tag. -/
theorem reopen (sound : Sound v b) (roomy : v.Roomy) (entries : List Formatting)
    (known : ∀ id tag, .element id tag ∈ entries → tag.name ∈ formattingNames) :
    Sound v (b.reopen entries).1 ∧ Extends b.sketch (b.reopen entries).1.sketch ∧
      (b.reopen entries).1.formatting = b.formatting ∧
      ∀ id tag, .element id tag ∈ (b.reopen entries).2 →
        (b.reopen entries).1.sketch.elementName? id = some (.html, tag.name) ∧
          tag.name ∈ formattingNames := by
  induction entries generalizing b with
  | nil => exact ⟨sound, Extends.refl _, rfl, nofun⟩
  | cons entry rest inductionHypothesis =>
    have others : ∀ id tag, .element id tag ∈ rest → tag.name ∈ formattingNames :=
      fun id tag member => known id tag (List.mem_cons_of_mem _ member)
    cases entry with
    | marker => exact inductionHypothesis sound others
    | element old tag =>
      have name := known old tag List.mem_cons_self
      obtain ⟨opened, later, listed, named⟩ := sound.insert_formatting tag name roomy
      obtain ⟨sound', later', listed', each⟩ := inductionHypothesis opened others
      refine ⟨sound', later.trans later', listed'.trans listed, ?_⟩
      intro id tag' member
      rcases List.mem_append.mp member with again | new
      · exact each id tag' again
      · obtain ⟨rfl, rfl⟩ := Formatting.element.inj (List.mem_singleton.mp new)
        refine ⟨?_, name⟩
        rw [← named]
        exact later'.elementName (inside_of_element (by rw [named]; rfl))

theorem reconstruct (sound : Sound v b) (roomy : v.Roomy) : Sound v b.reconstruct := by
  have closed : ∀ id tag, .element id tag ∈ (b.formatting.takeWhile (!b.isSettled ·)).reverse →
      tag.name ∈ formattingNames := by
    intro id tag member
    rw [List.mem_reverse] at member
    exact (sound.formatting id tag ((List.takeWhile_prefix _).subset member)).2
  obtain ⟨sound', _, listed, each⟩ := sound.reopen roomy _ closed
  refine { sound' with formatting := ?_ }
  intro id tag member
  rcases List.mem_append.mp member with again | settled
  · exact each id tag again
  · apply sound'.formatting
    rw [listed]
    exact (List.dropWhile_suffix _).subset settled

theorem insertFormatting (sound : Sound v b) (tag : Tag) (known : tag.name ∈ formattingNames)
    (roomy : v.Roomy) : Sound v (b.insertFormatting tag) := by
  have listed : ∀ {b : Builder}, Sound v b →
      Sound v { b.insert tag with
        formatting := .element (b.insert tag).current tag :: (b.insert tag).formatting } := by
    intro b sound
    obtain ⟨opened, _, _, named⟩ := sound.insert_formatting tag known roomy
    refine { opened with formatting := ?_ }
    intro id tag' member
    rcases List.mem_cons.mp member with new | old
    · obtain ⟨rfl, rfl⟩ := Formatting.element.inj new
      exact ⟨named, known⟩
    · exact opened.formatting id tag' old
  unfold Builder.insertFormatting
  dsimp only
  split
  · split
    · exact listed (sound.unlist _)
    · exact listed sound
  · exact listed sound

/-! ## Replacing open elements -/

/-- An element is replaced by a new one, if neither is structural. -/
theorem replace (sound : Sound v b) {id copy : Nat} (old : id ∈ b.opened → b.sketch.Light id)
    (light : b.sketch.Light copy ∧ (b.sketch.elementName? copy).isSome = true ∧
      b.sketch.nameOf copy ≠ (.html, "frameset")) (fresh : copy ∉ b.opened) :
    Sound v { b with opened := b.opened.map fun o => if o = id then copy else o } := by
  have mapped : b.opened.map (fun o => if o = id then copy else o) =
      b.opened.flatMap fun o => if o = id then [copy] else [o] := by
    rw [List.map_eq_flatMap]
    refine List.flatMap_congr fun o _ => ?_
    split <;> rfl
  rw [mapped]
  refine sound.substitute old ?_ (List.nodup_singleton _) ?_
  · intro other member
    rw [List.mem_singleton.mp member]
    exact ⟨light.1, light.2.1, fun frameset => absurd frameset light.2.2⟩
  · intro other member inside
    rw [List.mem_singleton.mp member] at inside
    exact absurd inside fresh

/-- A new element is opened directly above another one, if neither is structural. -/
theorem openAbove (sound : Sound v b) {block copy : Nat}
    (old : block ∈ b.opened → b.sketch.Light block)
    (light : b.sketch.Light copy ∧ (b.sketch.elementName? copy).isSome = true ∧
      b.sketch.nameOf copy ≠ (.html, "frameset")) (fresh : copy ∉ b.opened) :
    Sound v { b with opened := b.opened.flatMap fun o => if o = block then [copy, o] else [o] } := by
  have same : (b.opened.flatMap fun o => if o = block then [copy, o] else [o]) =
      b.opened.flatMap fun o => if o = block then [copy, block] else [o] := by
    refine List.flatMap_congr fun o _ => ?_
    split
    · next here => rw [here]
    · rfl
  rw [same]
  by_cases member : block ∈ b.opened
  · refine sound.substitute old ?_ ?_ ?_
    · intro other listed
      rcases List.mem_cons.mp listed with rfl | here
      · exact ⟨light.1, light.2.1, fun frameset => absurd frameset light.2.2⟩
      · rw [List.mem_singleton.mp here]
        obtain ⟨inner, whole, each, _⟩ := sound.stack.inner
        refine ⟨old member, sound.stack.elements block member, ?_⟩
        rw [whole] at member
        rcases List.mem_append.mp member with inside | framed
        · exact (each block inside).2
        · have ordinary := (old (by rw [whole]; exact member)).1
          rw [sound.stack.base block framed] at ordinary
          cases ordinary
    · simp only [List.nodup_cons, List.mem_singleton, List.not_mem_nil, not_false_eq_true,
        List.nodup_nil, and_self, and_true]
      rintro rfl
      exact fresh member
    · intro other listed inside
      rcases List.mem_cons.mp listed with rfl | here
      · exact absurd inside fresh
      · exact List.mem_singleton.mp here
  · have kept : (b.opened.flatMap fun o => if o = block then [copy, block] else [o]) =
        b.opened := by
      have each : ∀ o ∈ b.opened, (if o = block then [copy, block] else [o]) = [o] := by
        intro o inside
        exact if_neg fun same : o = block => member (same ▸ inside)
      rw [List.flatMap_congr each, List.flatMap_singleton']
    rw [kept]
    exact sound

/-- A copy of a formatting element is made. -/
theorem copied (sound : Sound v b) (tag : Tag) :
    ∃ s copy, b.create .html tag = (copy, { b with sketch := s }) ∧
      Sound v { b with sketch := s } ∧ Extends b.sketch s ∧
      s.elementName? copy = some (.html, tag.name) ∧ copy ∉ b.opened := by
  obtain ⟨s, contents, same, kept, fresh, outline, _⟩ := create_kept sound.shape .html tag
  exact ⟨s, (b.create .html tag).1, Prod.ext rfl same, sound.withSketch kept, kept.later,
    elementName_of_outline outline, sound.fresh_unopened fresh⟩

/-- The entry of one element becomes the entry of another. -/
theorem relist (sound : Sound v b) (old : Nat) {new : Nat} (tag : Tag)
    (named : b.sketch.elementName? new = some (.html, tag.name))
    (known : tag.name ∈ formattingNames) : Sound v (b.relist old new tag) := by
  refine { sound with formatting := ?_ }
  intro id tag' member
  obtain ⟨entry, listed, same⟩ := List.mem_map.mp member
  split at same
  · obtain ⟨rfl, rfl⟩ := Formatting.element.inj same
    exact ⟨named, known⟩
  · exact sound.formatting id tag' (same ▸ listed)

/-- The copy of a formatting element is listed, and nothing else changes. -/
theorem listAt (sound : Sound v b) (old : Nat) {new : Nat} (tag : Tag) (bookmark : Bookmark)
    (named : b.sketch.elementName? new = some (.html, tag.name))
    (known : tag.name ∈ formattingNames) :
    ∃ formatting, b.listAt old new tag bookmark = { b with formatting } ∧
      Sound v { b with formatting } := by
  cases bookmark with
  | replacing => exact ⟨_, rfl, sound.relist old tag named known⟩
  | after id =>
    have listed : Sound v { b with
        formatting := b.formatting.flatMap fun f =>
          if f.isFor id then [.element new tag, f] else [f] } := by
      refine { sound with formatting := ?_ }
      intro id' tag' member
      obtain ⟨entry, listed, inside⟩ := List.mem_flatMap.mp member
      split at inside
      · rcases List.mem_cons.mp inside with new | rest
        · obtain ⟨rfl, rfl⟩ := Formatting.element.inj new
          exact ⟨named, known⟩
        · rw [← List.mem_singleton.mp rest] at listed
          exact sound.formatting id' tag' listed
      · rw [← List.mem_singleton.mp inside] at listed
        exact sound.formatting id' tag' listed
    exact ⟨_, rfl, listed.unlist old⟩

/-! ## The adoption procedure -/

/-- One inner round: the element between is closed, or replaced by a copy that adopts what was moved
last. -/
theorem adoptRound {block id : Nat} {a : Adoption} (sound : Sound v a.builder)
    (bodied : v.stage.isFrames = false)
    (light : a.builder.sketch.Light id) (moved : a.builder.sketch.isOrdinary a.moved = true) :
    Sound v (Builder.adoptRound block a id).builder ∧
      Extends a.builder.sketch (Builder.adoptRound block a id).builder.sketch ∧
      (Builder.adoptRound block a id).builder.sketch.isOrdinary
        (Builder.adoptRound block a id).moved = true := by
  unfold Builder.adoptRound
  dsimp only
  split
  · exact ⟨(sound.unlist id).unstack fun _ => light, Extends.refl _, moved⟩
  · split
    · exact ⟨sound.unstack fun _ => light, Extends.refl _, moved⟩
    · next tag listed =>
      obtain ⟨entry, member, chosen⟩ := List.exists_of_findSome?_eq_some listed
      have listed' : .element id tag ∈ a.builder.formatting := by
        cases entry with
        | marker => cases chosen
        | element other tag' =>
          dsimp only at chosen
          split at chosen
          · next same =>
            obtain rfl := Option.some.inj chosen
            rwa [same] at member
          · cases chosen
      have known := (sound.formatting id tag listed').2
      obtain ⟨s, copy, made, sound', later, named, fresh⟩ :=
        sound.copied { tag with selfClosing := false }
      rw [made]
      dsimp only
      have replaced := sound'.replace (fun _ => later.light light)
        (light_formatting named known) fresh
      have relisted := replaced.relist id tag named known
      have movable := later.ordinary moved
      have detached := relisted.shape.detach movable (by simp [bodied])
      have appended := detached.shape.append copy (detached.later.ordinary movable)
        (by simp [bodied])
      have whole := detached.trans appended
      refine ⟨relisted.withSketch whole, later.trans whole.later, ?_⟩
      exact whole.later.ordinary (light_formatting named known).1.1

/-- The inner rounds. -/
theorem adoptRounds {block : Nat} (between : List Nat) {a : Adoption} (sound : Sound v a.builder)
    (bodied : v.stage.isFrames = false)
    (light : ∀ id ∈ between, a.builder.sketch.Light id)
    (moved : a.builder.sketch.isOrdinary a.moved = true) :
    Sound v (between.foldl (Builder.adoptRound block) a).builder ∧
      Extends a.builder.sketch (between.foldl (Builder.adoptRound block) a).builder.sketch ∧
      (between.foldl (Builder.adoptRound block) a).builder.sketch.isOrdinary
        (between.foldl (Builder.adoptRound block) a).moved = true := by
  induction between generalizing a with
  | nil => exact ⟨sound, Extends.refl _, moved⟩
  | cons id rest inductionHypothesis =>
    obtain ⟨sound', later, moved'⟩ :=
      adoptRound sound bodied (light id List.mem_cons_self) moved
    obtain ⟨sound'', later', moved''⟩ := inductionHypothesis sound'
      (fun other member => later.light (light other (List.mem_cons_of_mem _ member))) moved'
    exact ⟨sound'', later.trans later', moved''⟩

/-- One round for a formatting element: the block goes to the element around it, and a copy of the
formatting element takes over what the block holds. -/
theorem adoptBlock (sound : Sound v b) (bodied : v.stage.isFrames = false) {id block : Nat}
    {tag : Tag} (around : Nat) (listed : .element id tag ∈ b.formatting) (light : b.sketch.Light block)
    (between : ∀ other ∈ ((b.opened.dropWhile (· ≠ block)).drop 1).takeWhile (· ≠ id),
      b.sketch.Light other) :
    Sound v (b.adoptBlock id tag block around) ∧
      Extends b.sketch (b.adoptBlock id tag block around).sketch := by
  have known := (sound.formatting id tag listed).2
  have own := sound.light_listed listed
  obtain ⟨sound', later, movable⟩ := adoptRounds _
    (a := ⟨b, block, 0, .replacing⟩) sound bodied between light.1
  unfold Builder.adoptBlock
  dsimp only
  generalize List.foldl (Builder.adoptRound block) _ _ = a at sound' later movable ⊢
  have detached := sound'.shape.detach movable (by simp [bodied])
  have movable' := detached.later.ordinary movable
  have placed := (sound'.withSketch detached).place movable' (by simp [bodied]) around
  obtain ⟨s, same, moved⟩ := place_kept
    (b := { a.builder with sketch := a.builder.sketch.detach a.moved })
    detached.shape movable' (by simp [bodied]) around
  rw [same] at placed ⊢
  have light' : s.Light block := (later.trans (detached.trans moved).later).light light
  have own' : s.Light id := (later.trans (detached.trans moved).later).light own
  obtain ⟨s', copy, made, sound'', later', named, fresh⟩ :=
    placed.copied { tag with selfClosing := false }
  rw [made]
  dsimp only
  have contents := sound''.shape.moveChildren block copy (later'.light light').1 bodied
  have copied := (light_formatting named known).1.1
  have adopted := contents.trans
    (contents.shape.append block (contents.later.ordinary copied) (by simp [bodied]))
  have named' : (s'.moveChildren block copy |>.append block copy).elementName? copy =
      some (.html, tag.name) := by
    rw [← named]
    exact adopted.later.elementName (inside_of_ordinary copied)
  obtain ⟨formatting, listed', relisted⟩ :=
    (sound''.withSketch adopted).listAt id tag a.bookmark named' known
  rw [listed']
  have closed := relisted.unstack fun _ => adopted.later.light (later'.light own')
  have opened := closed.openAbove (fun _ => adopted.later.light (later'.light light'))
    (light_formatting named' known) fun member => fresh (List.mem_of_mem_erase member)
  refine ⟨opened, ?_⟩
  exact later.trans ((detached.trans moved).later.trans (later'.trans adopted.later))

/-- What is between two elements is above the outer one. -/
theorem mem_between {above below : List Nat} {id block other : Nat} (inside : block ∈ above)
    (member : other ∈ (((above ++ id :: below).dropWhile (· ≠ block)).drop 1).takeWhile (· ≠ id)) :
    other ∈ above := by
  obtain ⟨outer, inner, rfl, apart⟩ := List.eq_append_cons_of_mem inside
  have dropped : (outer ++ block :: inner ++ id :: below).dropWhile (· ≠ block) =
      block :: (inner ++ id :: below) := by
    rw [List.append_assoc, List.dropWhile_append_of_pos]
    · exact List.dropWhile_cons_of_neg (by simp)
    · intro o member
      have different : o ≠ block := fun same => apart (same ▸ member)
      simpa using different
  rw [dropped, List.drop_one, List.tail_cons, List.takeWhile_append] at member
  have closed : ((id :: below).takeWhile (· ≠ id)) = [] := List.takeWhile_cons_of_neg (by simp)
  rw [closed, List.append_nil] at member
  split at member
  · simp [member]
  · simp [(List.takeWhile_prefix _).subset member]

/-- The rounds of the procedure. -/
theorem adoptFrom (sound : Sound v b) (bodied : v.stage.isFrames = false) (rounds : Nat)
    {name : String} (known : name ∈ formattingNames) (free : v.kinds.head? ≠ some "select") :
    Sound v (Builder.adoptFrom rounds b name) ∧
      Extends b.sketch (Builder.adoptFrom rounds b name).sketch := by
  induction rounds generalizing b with
  | zero => exact ⟨sound, Extends.refl _⟩
  | succ rounds inductionHypothesis =>
    unfold Builder.adoptFrom
    split
    · have plain := isPlain_formatting known
      refine ⟨sound.closeAny ?_ ?_, ?_⟩
      · intro same
        have structure_found := sound.stack.known (List.mem_of_head? same)
        simp [isPlain, structure_found] at plain
      · intro framed
        fin_cases framed <;> cases plain
      · rw [closeAny_sketch]
        exact Extends.refl _
    · next id tag found =>
      have listed := mem_recent (List.mem_of_find?_eq_some found)
      split
      · exact ⟨sound.unlist id, Extends.refl _⟩
      · split
        · exact ⟨sound, Extends.refl _⟩
        · next inside =>
          obtain ⟨above, id', below, split, same, own, others⟩ := sound.found_light free
            (by simpa using inside) (fun _ ends => ends) fun other _ same => by
              rw [beq_iff_eq.mp same]
              exact sound.light_listed listed
          obtain rfl := beq_iff_eq.mp same
          have apart : ∀ other ∈ above, decide (other ≠ id') = true := by
            intro other member
            have different := (others other member).1
            simpa using different
          have inner : b.opened.takeWhile (· ≠ id') = above := by
            rw [split, List.takeWhile_append_of_pos apart, List.takeWhile_cons_of_neg (by simp),
              List.append_nil]
          have outer : b.opened.dropWhile (· ≠ id') = id' :: below := by
            rw [split, List.dropWhile_append_of_pos apart, List.dropWhile_cons_of_neg (by simp)]
          dsimp only
          rw [inner, outer, List.drop_one, List.tail_cons]
          split
          · refine ⟨Sound.unlist (b := { b with opened := below }) ?_ id', Extends.refl _⟩
            have joined : b.opened = (above ++ [id']) ++ below := by simp [split]
            apply sound.closeLight joined
            intro other member
            rcases List.mem_append.mp member with before | last
            · exact (others other before).2
            · rwa [List.mem_singleton.mp last]
          · next block last =>
            have member := List.mem_of_mem_filter (List.mem_of_getLast? last)
            have between : ∀ other ∈ ((b.opened.dropWhile (· ≠ block)).drop 1).takeWhile
                (· ≠ id'), b.sketch.Light other := by
              intro other between
              rw [split] at between
              exact (others other (mem_between member between)).2
            obtain ⟨sound', later⟩ := sound.adoptBlock bodied (below.headD Sketch.root) listed
              (others block member).2 between
            obtain ⟨sound'', later'⟩ := inductionHypothesis sound'
            exact ⟨sound'', later.trans later'⟩

/-- The end tag of a formatting element keeps the construction sound. -/
theorem adopt (sound : Sound v b) (bodied : v.stage.isFrames = false) {name : String}
    (known : name ∈ formattingNames) (free : v.kinds.head? ≠ some "select") :
    Sound v (b.adopt name) ∧ Extends b.sketch (b.adopt name).sketch := by
  unfold Builder.adopt
  dsimp only
  split
  · next here =>
    refine ⟨?_, Extends.refl _⟩
    apply sound.popNamedHere
    · obtain ⟨named, _⟩ := Bool.and_eq_true_iff.mp here
      exact isOneOf_iff.mpr ⟨name, List.mem_singleton_self _, isNamed_iff.mp named⟩
    · intro other member
      rw [List.mem_singleton.mp member]
      exact isPlain_formatting known
  · exact sound.adoptFrom bodied 8 known free

end Sound

end Builder

end Pagefold.Html
