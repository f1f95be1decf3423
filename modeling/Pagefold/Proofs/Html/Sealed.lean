import Mathlib
import Pagefold.Html.Parse
import Pagefold.Proofs.Html.Sketch

/-!
# Finished parts of a document

While a document is read, elements are moved, and text is put in front of them and into them. A part
of the document whose elements are all closed stays as it is: nothing that is done later starts from
one of its nodes. For this the numbers that a sketch and the construction hold must be followed: what
is outside of the part refers to the part as a whole, by its topmost node, and to nothing inside it.
-/
namespace Pagefold.Html

/-- A part of a document that is finished: its nodes, the topmost one of them, and the sketch in
which they are as they are going to stay. -/
structure Island where
  sketch : Sketch
  ids : List Nat
  top : Nat

/-- No part of a document: what holds of it, holds of every document. -/
def Island.none : Island := ⟨{}, [], Sketch.root⟩

namespace Sketch

variable {island : Island} {s s' s'' : Sketch} {id : Nat}

/-- The node has been made and is none of those listed. -/
structure Outside (ids : List Nat) (s : Sketch) (id : Nat) : Prop where
  made : id < s.nodes.size
  apart : id ∉ ids

/-- The node may be moved: it is outside of the island or its topmost node. -/
structure Movable (island : Island) (s : Sketch) (id : Nat) : Prop where
  made : id < s.nodes.size
  whole : id ∈ island.ids → id = island.top

theorem Outside.movable (outside : s.Outside island.ids id) : s.Movable island id :=
  ⟨outside.made, fun member => absurd member outside.apart⟩

/-- The island is in the sketch, and only its topmost node has a parent or can be found from
outside. All nodes that are referred to have been made. -/
structure Sealed (island : Island) (s : Sketch) : Prop where
  made : ∀ id ∈ island.ids, id < s.nodes.size
  kind : ∀ id ∈ island.ids, (s.node id).kind = (island.sketch.node id).kind
  held : ∀ id ∈ island.ids, (s.node id).children = (island.sketch.node id).children
  solid : island.top ∈ island.ids → island.sketch.isText island.top = false
  root : s.Outside island.ids root
  parent : ∀ id p, (s.node id).parent = some p →
    p < s.nodes.size ∧ (p ∈ island.ids → id ∈ island.ids ∧ id ≠ island.top)
  children : ∀ id, ∀ child ∈ (s.node id).children.toList,
    child < s.nodes.size ∧ (child ∈ island.ids → id ∉ island.ids → child = island.top)
  contents : ∀ id space name attributes inner,
    (s.node id).kind = .element space name attributes (some inner) → s.Outside island.ids inner

/-- A later sketch spares the island. -/
structure Spared (island : Island) (s s' : Sketch) : Prop where
  keeps : s'.Sealed island
  size : s.nodes.size ≤ s'.nodes.size

theorem Spared.refl (intact : s.Sealed island) : Spared island s s := ⟨intact, Nat.le_refl _⟩

theorem Spared.trans (first : Spared island s s') (second : Spared island s' s'') :
    Spared island s s'' :=
  ⟨second.keeps, first.size.trans second.size⟩

/-- What is outside stays outside. -/
theorem Outside.later (outside : s.Outside island.ids id) (size : s.nodes.size ≤ s'.nodes.size) :
    s'.Outside island.ids id :=
  ⟨outside.made.trans_le size, outside.apart⟩

theorem Movable.later (movable : s.Movable island id) (size : s.nodes.size ≤ s'.nodes.size) :
    s'.Movable island id :=
  ⟨movable.made.trans_le size, movable.whole⟩

namespace Sealed

/-! ## Changes of a sketch that spare an island -/

/-- A child of a node outside may be moved. -/
theorem child_movable (intact : s.Sealed island) {p : Nat} (apart : p ∉ island.ids)
    (member : id ∈ (s.node p).children.toList) : s.Movable island id :=
  ⟨(intact.children p id member).1, fun inside => (intact.children p id member).2 inside apart⟩

/-- The parent of a node that may be moved is outside. -/
theorem parent_outside (intact : s.Sealed island) (movable : s.Movable island id) {p : Nat}
    (placed : (s.node id).parent = some p) : s.Outside island.ids p := by
  obtain ⟨made, own⟩ := intact.parent id p placed
  refine ⟨made, fun inside => ?_⟩
  obtain ⟨member, below⟩ := own inside
  exact below (movable.whole member)

/-- A node outside may be changed, if it refers to nothing in the island afterwards. -/
theorem update (intact : s.Sealed island) (apart : id ∉ island.ids)
    (change : SketchNode → SketchNode)
    (parent : (change (s.node id)).parent = (s.node id).parent)
    (children : ∀ child ∈ (change (s.node id)).children.toList, s.Movable island child)
    (contents : ∀ space name attributes inner,
      (change (s.node id)).kind = .element space name attributes (some inner) →
        s.Outside island.ids inner) : Spared island s (s.update id change) := by
  refine ⟨?_, (size_update change).ge⟩
  have elsewhere : ∀ other ∈ island.ids, (s.update id change).node other = s.node other := by
    intro other member
    rw [node_update, if_neg]
    rintro ⟨rfl, _⟩
    exact apart member
  constructor
  · simpa using intact.made
  · intro other member
    rw [elsewhere other member, intact.kind other member]
  · intro other member
    rw [elsewhere other member, intact.held other member]
  · exact intact.solid
  · exact intact.root.later (size_update change).ge
  · intro other p placed
    rw [size_update]
    rw [node_update] at placed
    split at placed
    · next here =>
      rw [here.1]
      exact intact.parent id p (parent ▸ placed)
    · exact intact.parent other p placed
  · intro other child member
    rw [size_update]
    rw [node_update] at member
    split at member
    · have movable := children child member
      exact ⟨movable.made, fun inside _ => movable.whole inside⟩
    · exact intact.children other child member
  · intro other space name attributes inner found
    rw [node_update] at found
    split at found
    · exact (contents space name attributes inner found).later (size_update change).ge
    · exact (intact.contents other space name attributes inner found).later (size_update change).ge

/-- A change of the children of a node outside, of nodes that may be moved. -/
theorem updateChildren (intact : s.Sealed island) (apart : id ∉ island.ids)
    (change : Array Nat → Array Nat)
    (children : ∀ child ∈ (change (s.node id).children).toList, s.Movable island child) :
    Spared island s (s.update id fun n => { n with children := change n.children }) :=
  intact.update apart _ rfl children fun space name attributes inner found =>
    intact.contents id space name attributes inner found

/-- A node gets another parent outside of the island, or none. -/
theorem reparent (intact : s.Sealed island) (place : Option Nat)
    (outside : ∀ p, place = some p → s.Outside island.ids p) :
    Spared island s (s.update id fun n => { n with parent := place }) := by
  refine ⟨?_, (size_update _).ge⟩
  have kinds : ∀ other, ((s.update id fun n => { n with parent := place }).node other).kind =
      (s.node other).kind := by
    intro other
    rw [node_update]
    split
    · next here => rw [here.1]
    · rfl
  have children : ∀ other, ((s.update id fun n => { n with parent := place }).node other).children =
      (s.node other).children := by
    intro other
    rw [node_update]
    split
    · next here => rw [here.1]
    · rfl
  constructor
  · simpa using intact.made
  · intro other member
    rw [kinds, intact.kind other member]
  · intro other member
    rw [children, intact.held other member]
  · exact intact.solid
  · exact intact.root.later (size_update _).ge
  · intro other p placed
    rw [size_update]
    rw [node_update] at placed
    split at placed
    · have free := outside p placed
      exact ⟨free.made, fun inside => absurd inside free.apart⟩
    · exact intact.parent other p placed
  · intro other child member
    rw [children] at member
    rw [size_update]
    exact intact.children other child member
  · intro other space name attributes inner found
    rw [kinds] at found
    exact (intact.contents other space name attributes inner found).later (size_update _).ge

/-- A new node is outside. -/
theorem add (intact : s.Sealed island) (kind : SketchKind)
    (contents : ∀ space name attributes inner,
      kind = .element space name attributes (some inner) → s.Outside island.ids inner) :
    Spared island s (s.add kind).2 ∧ (s.add kind).2.Outside island.ids s.nodes.size := by
  have size : (s.add kind).2.nodes.size = s.nodes.size + 1 := size_add kind
  have later : s.nodes.size ≤ (s.add kind).2.nodes.size := by omega
  have unmade : s.nodes.size ∉ island.ids := fun member => Nat.lt_irrefl _ (intact.made _ member)
  have elsewhere : ∀ other ∈ island.ids, (s.add kind).2.node other = s.node other := by
    intro other member
    rw [node_add, if_neg (intact.made other member).ne]
  refine ⟨⟨?_, later⟩, by omega, unmade⟩
  constructor
  · exact fun other member => (intact.made other member).trans_le later
  · intro other member
    rw [elsewhere other member, intact.kind other member]
  · intro other member
    rw [elsewhere other member, intact.held other member]
  · exact intact.solid
  · exact intact.root.later later
  · intro other p placed
    rw [node_add] at placed
    split at placed
    · cases placed
    · exact (intact.parent other p placed).imp_left fun made => made.trans_le later
  · intro other child member
    rw [node_add] at member
    split at member
    · cases member
    · exact (intact.children other child member).imp_left fun made => made.trans_le later
  · intro other space name attributes inner found
    rw [node_add] at found
    split at found
    · exact (contents space name attributes inner found).later later
    · exact (intact.contents other space name attributes inner found).later later

/-- A node that may be moved is taken out of its parent. -/
theorem detach (intact : s.Sealed island) (movable : s.Movable island id) :
    Spared island s (s.detach id) := by
  unfold Sketch.detach
  split
  · exact Spared.refl intact
  · next p placed =>
    have apart := (intact.parent_outside movable placed).apart
    have removed := intact.updateChildren apart (·.filter (· ≠ id)) fun child member =>
      intact.child_movable apart (List.mem_of_mem_filter (Array.toList_filter ▸ member))
    exact removed.trans (removed.keeps.reparent Option.none nofun)

/-- A node that may be moved becomes the last child of one outside. -/
theorem append (intact : s.Sealed island) {p : Nat} (outside : s.Outside island.ids p)
    (movable : s.Movable island id) : Spared island s (s.append p id) := by
  have detached := intact.detach movable
  have pushed := detached.keeps.updateChildren outside.apart (·.push id) fun child member => by
    rw [Array.toList_push, List.mem_append, List.mem_singleton] at member
    rcases member with old | rfl
    · exact detached.keeps.child_movable outside.apart old
    · exact movable.later detached.size
  have put := detached.trans pushed
  refine put.trans (put.keeps.reparent (some p) ?_)
  rintro _ ⟨rfl⟩
  exact outside.later put.size

/-- A node that may be moved is put in front of a child of a node outside. -/
theorem insertBefore (intact : s.Sealed island) {p : Nat} (outside : s.Outside island.ids p)
    (sibling : Nat) (movable : s.Movable island id) :
    Spared island s (s.insertBefore p sibling id) := by
  have detached := intact.detach movable
  have placed := detached.keeps.updateChildren outside.apart
    (fun children => children.extract 0 ((s.detach id).position p sibling) ++ #[id] ++
      children.extract ((s.detach id).position p sibling) children.size) fun child member => by
    have old : child = id ∨ child ∈ ((s.detach id).node p).children.toList := by
      simp only [Array.toList_append, List.mem_append, Array.toList_extract] at member
      rcases member with (before | here) | after
      · exact Or.inr (List.mem_of_mem_drop (List.mem_of_mem_take before))
      · exact Or.inl (List.mem_singleton.mp here)
      · exact Or.inr (List.mem_of_mem_drop (List.mem_of_mem_take after))
    rcases old with rfl | old
    · exact movable.later detached.size
    · exact detached.keeps.child_movable outside.apart old
  have put := detached.trans placed
  refine put.trans (put.keeps.reparent (some p) ?_)
  rintro _ ⟨rfl⟩
  exact outside.later put.size

/-- A text that may be moved is outside: the topmost node of an island is no text. -/
theorem text_outside (intact : s.Sealed island) (movable : s.Movable island id)
    (text : s.isText id = true) : id ∉ island.ids := by
  intro inside
  have top := movable.whole inside
  subst top
  have solid := intact.solid inside
  rw [isText, ← intact.kind _ inside] at solid
  rw [isText, solid] at text
  cases text

/-- More text at the end of a text outside. -/
theorem extend (intact : s.Sealed island) (apart : id ∉ island.ids) (more : String) :
    Spared island s (s.extend id more) := by
  unfold Sketch.extend
  apply intact.update apart
  · split <;> rfl
  · intro child member
    apply intact.child_movable apart
    split at member <;> exact member
  · intro space name attributes inner found
    apply intact.contents id space name attributes inner
    split at found
    · cases found
    · exact found

/-- More attributes of an element outside. -/
theorem addMissing (intact : s.Sealed island) (apart : id ∉ island.ids) (more : List Attribute) :
    Spared island s (s.addMissing id more) := by
  unfold Sketch.addMissing
  apply intact.update apart
  · split <;> rfl
  · intro child member
    apply intact.child_movable apart
    split at member <;> exact member
  · intro space name attributes inner found
    split at found
    · next same =>
      cases found
      exact intact.contents id _ _ _ _ same
    · exact intact.contents id _ _ _ _ found

/-- Text at the end of a node outside. -/
theorem appendText (intact : s.Sealed island) {p : Nat} (outside : s.Outside island.ids p)
    (content : String) : Spared island s (s.appendText p content) := by
  obtain ⟨added, fresh⟩ := intact.add (.text content) nofun
  have new : Spared island s ((s.add (.text content)).2.append p s.nodes.size) :=
    added.trans (added.keeps.append (outside.later added.size) fresh.movable)
  unfold Sketch.appendText
  split
  · next last found =>
    split
    · next text =>
      have member : last ∈ (s.node p).children.toList := by
        rw [← Array.getLast?_toList] at found
        exact List.mem_of_getLast? found
      exact intact.extend (intact.text_outside (intact.child_movable outside.apart member) text) _
    · exact new
  · exact new

/-- Text in front of a child of a node outside. -/
theorem insertTextBefore (intact : s.Sealed island) {p : Nat} (outside : s.Outside island.ids p)
    (sibling : Nat) (content : String) :
    Spared island s (s.insertTextBefore p sibling content) := by
  unfold Sketch.insertTextBefore
  dsimp only
  split
  · next last found =>
    obtain ⟨before, text⟩ := Option.filter_eq_some_iff.mp found
    have member : last ∈ (s.node p).children.toList := by
      split at before
      · cases before
      · exact Array.mem_toList_iff.mpr (Array.mem_of_getElem? before)
    exact intact.extend (intact.text_outside (intact.child_movable outside.apart member) text) _
  · obtain ⟨added, fresh⟩ := intact.add (.text content) nofun
    exact added.trans
      (added.keeps.insertBefore (outside.later added.size) sibling fresh.movable)

/-- All children of a node outside become children of another one. -/
theorem moveChildren (intact : s.Sealed island) {source target : Nat}
    (outside : s.Outside island.ids source) (goal : s.Outside island.ids target) :
    Spared island s (s.moveChildren source target) := by
  have moved : ∀ children : List Nat, (∀ child ∈ children, s.Movable island child) →
      Spared island s (children.foldl (fun s child => s.append target child) s) := by
    intro children each
    induction children using List.reverseRecOn with
    | nil => exact Spared.refl intact
    | append_singleton first last inductionHypothesis =>
      have before := inductionHypothesis fun child member =>
        each child (List.mem_append_left _ member)
      rw [List.foldl_append]
      refine before.trans (before.keeps.append (goal.later before.size) ?_)
      exact (each last (by simp)).later before.size
  rw [Sketch.moveChildren, ← Array.foldl_toList]
  exact moved _ fun child member => intact.child_movable outside.apart member

/-- Where the children of a node outside are put is outside, too. -/
theorem inside_outside (intact : s.Sealed island) (outside : s.Outside island.ids id) :
    s.Outside island.ids (s.inside id) := by
  unfold Sketch.inside
  split
  · next found => exact intact.contents id _ _ _ _ found
  · exact outside

end Sealed

/-! ## Islands that grow -/

/-- A new element without children is an island. -/
theorem Sealed.begin (intact : s.Sealed .none) (space : Space) (name : String)
    (attributes : List Attribute) {parent : Nat} (inside : parent < s.nodes.size) :
    let s' := (s.add (.element space name attributes none)).2.append parent s.nodes.size
    s'.Sealed ⟨s', [s.nodes.size], s.nodes.size⟩ := by
  intro s'
  have nodes := fun other => node_appendNew (s := s) (.element space name attributes none) inside other
  have size := size_appendNew (s := s) (.element space name attributes none) parent
  constructor
  · simp [s', size]
  · exact fun _ _ => rfl
  · exact fun _ _ => rfl
  · intro _
    simp [isText, s', nodes]
  · exact ⟨intact.root.made.trans_le (by simp [s', size]), by simpa using intact.root.made.ne⟩
  · intro other p placed
    simp only [s', nodes] at placed
    have old := intact.parent other p
    grind [Island.none]
  · intro other child member
    simp only [s', nodes] at member
    have old := intact.children other child
    grind [Island.none]
  · intro other space name attributes inner found
    simp only [s', nodes] at found
    have old := intact.contents other space name attributes inner
    have outside : s.Outside [] inner := by
      split at found
      · cases found
      · split at found <;> exact old found
    exact ⟨outside.made.trans_le (by simp [s', size]), by simpa using outside.made.ne⟩

/-- The first text of an element is part of the island that the element has been. -/
theorem Sealed.firstText (intact : s.Sealed ⟨s, [id], id⟩) (content : String) :
    let s' := (s.add (.text content)).2.append id s.nodes.size
    s'.Sealed ⟨s', [id, s.nodes.size], id⟩ := by
  intro s'
  have inside : id < s.nodes.size := intact.made id (List.mem_singleton_self id)
  have nodes := fun other => node_appendNew (s := s) (.text content) inside other
  have size := size_appendNew (s := s) (.text content) id
  constructor
  · simp [s', size]; omega
  · exact fun _ _ => rfl
  · exact fun _ _ => rfl
  · intro _
    have solid := intact.solid (List.mem_singleton_self id)
    simpa [isText, s', nodes, inside.ne] using solid
  · have made := intact.root.made
    have apart := intact.root.apart
    exact ⟨by simp [s', size]; omega, by grind⟩
  · intro other p placed
    simp only [s', nodes] at placed
    have old := intact.parent other p
    grind
  · intro other child member
    simp only [s', nodes] at member
    have old := intact.children other child
    grind
  · intro other space name attributes inner found
    simp only [s', nodes] at found
    have old := intact.contents other space name attributes inner
    have outside : s.Outside [id] inner := by
      split at found
      · cases found
      · split at found <;> exact old found
    have made := outside.made
    have apart := outside.apart
    exact ⟨by simp [s', size]; omega, by grind⟩

/-- More text in a part of a sketch leaves it an island. -/
theorem Sealed.moreText {ids : List Nat} (intact : s.Sealed ⟨s, ids, id⟩) {child : Nat}
    (text : s.isText child = true) (more : String) :
    let s' := s.extend child more
    s'.Sealed ⟨s', ids, id⟩ := by
  intro s'
  obtain ⟨content, kind⟩ : ∃ content, (s.node child).kind = .text content := by
    unfold isText at text
    split at text
    · next content same => exact ⟨content, same⟩
    · cases text
  have size : s'.nodes.size = s.nodes.size := size_update _
  have nodes (other : Nat) : (s'.node other).parent = (s.node other).parent ∧
      (s'.node other).children = (s.node other).children ∧
      ((s'.node other).kind = (s.node other).kind ∨
        other = child ∧ (s'.node other).kind = .text (content ++ more)) := by
    simp only [s', Sketch.extend, node_update]
    split
    · next here => simp [here.1, kind]
    · simp
  constructor
  · rw [size]
    exact intact.made
  · exact fun _ _ => rfl
  · exact fun _ _ => rfl
  · intro member
    have solid := intact.solid member
    dsimp only at solid ⊢
    rcases (nodes id).2.2 with same | ⟨rfl, _⟩
    · rw [isText, same]
      exact solid
    · rw [text] at solid
      cases solid
  · exact intact.root.later size.ge
  · intro other p placed
    rw [(nodes other).1] at placed
    rw [size]
    exact intact.parent other p placed
  · intro other inner member
    rw [(nodes other).2.1] at member
    rw [size]
    exact intact.children other inner member
  · intro other space name attributes inner found
    rcases (nodes other).2.2 with same | ⟨_, changed⟩
    · rw [same] at found
      exact (intact.contents other space name attributes inner found).later size.ge
    · rw [changed] at found
      cases found

end Sketch

end Pagefold.Html
