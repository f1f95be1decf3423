import Mathlib
import Pagefold.Html.Sketch

/-!
# The frame of a document

While a document is built, nodes are added and moved. The document, its root element, head and body
form a frame that stays as it is: they are never moved, and they are found nowhere else in the tree.
This holds because only other nodes, which are called ordinary, are moved, and because a node never
changes its name.
-/
namespace Pagefold.Html

/-- What of a node never changes: for an element its language, its name, and whether its children
are put elsewhere. -/
def SketchKind.outline : SketchKind → SketchKind
  | .element space name _ contents => .element space name [] contents
  | .text _ => .text ""
  | kind => kind

/-- A node that is no part of the frame of a document. -/
def SketchKind.isOrdinary : SketchKind → Bool
  | .document | .fragment => false
  | .element space name _ _ => !(["head", "body"].contains name || space == .html && name == "html")
  | _ => true

@[simp]
theorem SketchKind.isOrdinary_outline (kind : SketchKind) :
    kind.outline.isOrdinary = kind.isOrdinary := by
  cases kind <;> rfl

namespace Sketch

variable {s s' s'' : Sketch} {id : Nat}

/-- What of the node never changes. -/
def outline (s : Sketch) (id : Nat) : SketchKind := (s.node id).kind.outline

/-- Whether the node is no part of the frame of a document. -/
def isOrdinary (s : Sketch) (id : Nat) : Bool := (s.outline id).isOrdinary

/-- The children of a node that belong to the frame. -/
def framed (s : Sketch) (id : Nat) : List Nat :=
  (s.node id).children.toList.filter fun child => !s.isOrdinary child

/-! ## Nodes after a change -/

/-- One node is changed and the others are not. -/
theorem node_update (change : SketchNode → SketchNode) (other : Nat) :
    (s.update id change).node other =
      if other = id ∧ id < s.nodes.size then change (s.node id) else s.node other := by
  simp only [node, update, Array.getD_eq_getD_getElem?, Array.getElem?_modify]
  by_cases same : other = id
  · subst same
    by_cases inside : other < s.nodes.size
    · simp [inside]
    · simp [inside]
  · simp [same, Ne.symm same]

@[simp]
theorem size_update (change : SketchNode → SketchNode) :
    (s.update id change).nodes.size = s.nodes.size :=
  Array.size_modify

/-- There is a fragment where there is no node. -/
theorem node_outside (outside : s.nodes.size ≤ id) : s.node id = ⟨.fragment, none, #[]⟩ := by
  simp [node, Array.getD_eq_getD_getElem?, outside]

/-- An element is a node that has been made. -/
theorem inside_of_outline (other : s.outline id ≠ .fragment) : id < s.nodes.size := by
  by_contra outside
  apply other
  rw [outline, node_outside (Nat.le_of_not_lt outside)]
  rfl

/-- An ordinary node has been made. -/
theorem inside_of_ordinary (ordinary : s.isOrdinary id = true) : id < s.nodes.size := by
  apply inside_of_outline
  intro fragment
  rw [isOrdinary, fragment] at ordinary
  cases ordinary

/-- A change that keeps the outline of a node keeps all outlines. -/
theorem outline_update (change : SketchNode → SketchNode)
    (same : (change (s.node id)).kind.outline = s.outline id) (other : Nat) :
    (s.update id change).outline other = s.outline other := by
  rw [outline, node_update]
  split
  · next here => rw [same, here.1]
  · rfl

@[simp]
theorem size_add (kind : SketchKind) : (s.add kind).2.nodes.size = s.nodes.size + 1 :=
  Array.size_push _

/-- A new node is the last one. -/
theorem node_add (kind : SketchKind) (other : Nat) :
    (s.add kind).2.node other =
      if other = s.nodes.size then ⟨kind, none, #[]⟩ else s.node other := by
  simp only [node, add, Array.getD_eq_getD_getElem?, Array.getElem?_push]
  split <;> rfl

/-- A node that is put at the end of another one is one of its children. -/
theorem mem_append {parent : Nat} (inside : parent < s.nodes.size) :
    id ∈ ((s.append parent id).node parent).children.toList := by
  have made : parent < (s.detach id).nodes.size := by
    unfold detach
    split <;> simpa
  have pushed : id ∈ (((s.detach id).update parent fun n =>
      { n with children := n.children.push id }).node parent).children.toList := by
    rw [node_update, if_pos ⟨rfl, made⟩]
    simp
  rw [append, node_update]
  split
  · next same =>
    obtain ⟨rfl, _⟩ := same
    exact pushed
  · exact pushed

/-- The nodes after a new node has been put at the end of another one. -/
theorem node_appendNew (kind : SketchKind) {parent : Nat} (inside : parent < s.nodes.size)
    (other : Nat) : ((s.add kind).2.append parent s.nodes.size).node other =
      if other = s.nodes.size then ⟨kind, some parent, #[]⟩
      else if other = parent then { s.node other with
        children := (s.node other).children.push s.nodes.size }
      else s.node other := by
  have placeless : (s.add kind).2.detach s.nodes.size = (s.add kind).2 := by
    rw [detach, node_add, if_pos rfl]
  rw [append, placeless]
  simp only [node_update, size_update, size_add, node_add]
  by_cases new : other = s.nodes.size
  · simp [new, inside.ne']
  · by_cases here : other = parent
    · simp [here, inside.ne, Nat.lt_succ_of_lt inside]
    · simp [new, here]

/-- A new node that is put somewhere makes the sketch larger by one. -/
theorem size_appendNew (kind : SketchKind) (parent : Nat) :
    ((s.add kind).2.append parent s.nodes.size).nodes.size = s.nodes.size + 1 := by
  have placeless : (s.add kind).2.detach s.nodes.size = (s.add kind).2 := by
    rw [detach, node_add, if_pos rfl]
  rw [append, placeless, size_update, size_update, size_add]

/-- A new node has the outline that it was made with. -/
theorem outline_added (kind : SketchKind) :
    (s.add kind).2.outline s.nodes.size = kind.outline := by
  rw [outline, node_add, if_pos rfl]

/-! ## Later sketches -/

/-- A later sketch has all nodes of an earlier one, with their outlines. -/
structure Extends (s s' : Sketch) : Prop where
  size : s.nodes.size ≤ s'.nodes.size
  outline : ∀ id < s.nodes.size, s'.outline id = s.outline id

theorem Extends.refl (s : Sketch) : Extends s s := ⟨Nat.le_refl _, fun _ _ => rfl⟩

theorem Extends.trans (first : Extends s s') (second : Extends s' s'') : Extends s s'' := by
  refine ⟨first.size.trans second.size, ?_⟩
  intro id inside
  rw [second.outline id (inside.trans_le first.size), first.outline id inside]

/-- An ordinary node stays ordinary. -/
theorem Extends.ordinary (later : Extends s s') (ordinary : s.isOrdinary id = true) :
    s'.isOrdinary id = true := by
  rw [isOrdinary, later.outline id (inside_of_ordinary ordinary)]
  exact ordinary

end Sketch

/-! ## Stages of a document -/

/-- How far the frame of a document has been built, with the numbers of its elements. After the head
a document gets a body or, in its place, a frameset. -/
inductive Stage where
  | start
  | rooted (html : Nat)
  | inHead (html head : Nat)
  | afterHead (html head : Nat)
  | inBody (html head body : Nat)
  | inFrames (html head : Nat)
  deriving DecidableEq

namespace Stage

/-- The elements of the frame with their names, the outer ones first. -/
def members : Stage → List (Nat × String)
  | start => []
  | rooted html => [(html, "html")]
  | inHead html head | afterHead html head | inFrames html head =>
    [(html, "html"), (head, "head")]
  | inBody html head body => [(html, "html"), (head, "head"), (body, "body")]

/-- Whether framesets take the place of a body. -/
def isFrames : Stage → Bool
  | inFrames _ _ => true
  | _ => false

/-- The elements of the frame. -/
def ids (stage : Stage) : List Nat := stage.members.map (·.1)

/-- The children of a node that belong to the frame. -/
def children (stage : Stage) (id : Nat) : List Nat :=
  if id = Sketch.root then stage.ids.take 1
  else if stage.ids.head? = some id then stage.ids.drop 1
  else []

/-- A child in the frame is one of its elements. -/
theorem mem_children {stage : Stage} {id child : Nat} (member : child ∈ stage.children id) :
    ∃ name, (child, name) ∈ stage.members := by
  have listed : child ∈ stage.ids := by
    unfold children at member
    split at member
    · exact List.mem_of_mem_take member
    · split at member
      · exact List.mem_of_mem_drop member
      · cases member
  obtain ⟨⟨_, name⟩, found, rfl⟩ := List.mem_map.mp listed
  exact ⟨name, found⟩

end Stage

namespace Sketch

variable {s s' s'' : Sketch} {id : Nat}

/-- The sketch has the frame of a stage: the document, the elements of the frame in their places,
and none of them anywhere else. Where framesets take the place of a body, the root holds one. What is
put elsewhere is put into a fragment. -/
structure Shape (stage : Stage) (s : Sketch) : Prop where
  root : s.outline root = .document
  members : ∀ id name, (id, name) ∈ stage.members → s.outline id = .element .html name [] none
  framed : ∀ id, s.framed id = stage.children id
  parent : ∀ html head body, stage = .inBody html head body → (s.node body).parent = some html
  frameset : stage.isFrames = true → ∃ html frameset, (html, "html") ∈ stage.members ∧
    frameset ∈ (s.node html).children.toList ∧
    s.outline frameset = .element .html "frameset" [] none
  contents : ∀ id space name contents, s.outline id = .element space name [] (some contents) →
    contents < s.nodes.size ∧ s.outline contents = .fragment

/-- A change has kept the frame of a sketch. -/
structure Kept (stage : Stage) (s s' : Sketch) : Prop where
  shape : Shape stage s'
  later : Extends s s'

theorem Kept.refl {stage : Stage} (shape : Shape stage s) : Kept stage s s :=
  ⟨shape, Extends.refl s⟩

theorem Kept.trans {stage : Stage} (first : Kept stage s s') (second : Kept stage s' s'') :
    Kept stage s s'' :=
  ⟨second.shape, first.later.trans second.later⟩

namespace Shape

variable {stage : Stage}

/-- The elements of the frame have been made. -/
theorem member_inside (shape : Shape stage s) {name : String}
    (member : (id, name) ∈ stage.members) : id < s.nodes.size := by
  apply inside_of_outline
  rw [shape.members id name member]
  nofun

/-- The document has been made. -/
theorem root_inside (shape : Shape stage s) : Sketch.root < s.nodes.size := by
  apply inside_of_outline
  rw [shape.root]
  nofun

/-- No element of the frame is ordinary. -/
theorem member_framed (shape : Shape stage s) {name : String}
    (member : (id, name) ∈ stage.members) : s.isOrdinary id = false := by
  rw [isOrdinary, shape.members id name member]
  have known : name = "html" ∨ name = "head" ∨ name = "body" := by
    cases stage <;> simp [Stage.members] at member <;> grind
  rcases known with rfl | rfl | rfl <;> rfl

/-- What is in the frame below a node has been made. -/
theorem framed_inside (shape : Shape stage s) {child : Nat} (member : child ∈ s.framed id) :
    child < s.nodes.size := by
  rw [shape.framed] at member
  obtain ⟨name, listed⟩ := Stage.mem_children member
  exact shape.member_inside listed

/-- The frame is below the document and its root element. -/
theorem framed_apart (shape : Shape stage s) (document : s.outline id ≠ .document)
    (html : s.outline id ≠ .element .html "html" [] none) : s.framed id = [] := by
  have apart : id ≠ Sketch.root := by
    rintro rfl
    exact document shape.root
  have other : stage.ids.head? ≠ some id := by
    intro same
    apply html
    apply shape.members
    cases stage with
    | start => cases same
    | _ =>
      obtain rfl := Option.some.inj same
      exact List.mem_cons_self
  rw [shape.framed, Stage.children, if_neg apart, if_neg other]

/-- An ordinary node has no part of the frame among its children. -/
theorem framed_ordinary (shape : Shape stage s) (ordinary : s.isOrdinary id = true) :
    s.framed id = [] := by
  apply shape.framed_apart
  all_goals
    intro outline
    rw [isOrdinary, outline] at ordinary
    cases ordinary

/-! ## Changes that keep the frame -/

/-- A change of one node keeps the frame if the node keeps its outline and its children in the
frame, and all children if a frameset may be among them. -/
theorem update (shape : Shape stage s) (change : SketchNode → SketchNode)
    (kind : (change (s.node id)).kind.outline = s.outline id)
    (children : ((change (s.node id)).children.toList.filter fun child => !s.isOrdinary child) =
      s.framed id)
    (parent : s.isOrdinary id = true ∨ (change (s.node id)).parent = (s.node id).parent)
    (more : stage.isFrames = true → ∀ child ∈ (s.node id).children.toList,
      child ∈ (change (s.node id)).children.toList) :
    Kept stage s (s.update id change) := by
  have outlines := outline_update change kind
  have ordinaries : ∀ other, (s.update id change).isOrdinary other = s.isOrdinary other := by
    intro other
    rw [isOrdinary, outlines, isOrdinary]
  constructor
  · constructor
    · rw [outlines, shape.root]
    · intro other name member
      rw [outlines, shape.members other name member]
    · intro other
      rw [← shape.framed]
      simp only [Sketch.framed, ordinaries, node_update]
      split
      · next here =>
        rw [here.1]
        exact children
      · rfl
    · intro html head body full
      rw [node_update, ← shape.parent html head body full]
      split
      · next here =>
        have framed : s.isOrdinary id = false := by
          rw [← here.1]
          have listed : (body, "body") ∈ stage.members := by simp [full, Stage.members]
          exact shape.member_framed listed
        rw [here.1]
        exact parent.resolve_left (by simp [framed])
      · rfl
    · intro frames
      obtain ⟨html, frameset, member, inside, outline⟩ := shape.frameset frames
      refine ⟨html, frameset, member, ?_, (outlines frameset).trans outline⟩
      rw [node_update]
      split
      · next here =>
        rw [here.1] at inside
        exact more frames frameset inside
      · exact inside
    · intro other space name contents found
      rw [outlines] at found
      rw [outlines, size_update]
      exact shape.contents other space name contents found
  · constructor
    · rw [size_update]
    · intro other _
      exact outlines other

/-- A change that leaves the outline and the place of every node keeps the frame. -/
theorem update_content (shape : Shape stage s) (change : SketchNode → SketchNode)
    (same : ∀ n, (change n).kind.outline = n.kind.outline ∧ (change n).children = n.children ∧
      (change n).parent = n.parent) : Kept stage s (s.update id change) := by
  obtain ⟨kind, children, parent⟩ := same (s.node id)
  refine shape.update change kind ?_ (Or.inr parent) ?_
  · rw [children]
    rfl
  · rw [children]
    exact fun _ _ member => member

/-- More text does not change the frame. -/
theorem extend (shape : Shape stage s) (more : String) : Kept stage s (s.extend id more) := by
  apply shape.update_content
  rintro ⟨kind, parent, children⟩
  cases kind <;> exact ⟨rfl, rfl, rfl⟩

/-- More attributes do not change the frame. -/
theorem addMissing (shape : Shape stage s) (more : List Attribute) :
    Kept stage s (s.addMissing id more) := by
  apply shape.update_content
  rintro ⟨kind, parent, children⟩
  cases kind <;> exact ⟨rfl, rfl, rfl⟩

/-- An ordinary node may be taken out of its parent. Where framesets are, it has none. -/
theorem detach (shape : Shape stage s) (ordinary : s.isOrdinary id = true)
    (free : stage.isFrames = true → (s.node id).parent = none) : Kept stage s (s.detach id) := by
  unfold Sketch.detach
  split
  · exact Kept.refl shape
  · next p placed =>
    have bodied : stage.isFrames ≠ true := by
      intro frames
      rw [free frames] at placed
      cases placed
    have removed : Kept stage s
        (s.update p fun n => { n with children := n.children.filter (· ≠ id) }) :=
      shape.update _ rfl
      (by
        rw [Sketch.framed, Array.toList_filter, List.filter_filter]
        apply List.filter_congr
        intro child _
        by_cases same : child = id
        · simp [same, ordinary]
        · simp [same])
      (Or.inr rfl) (fun frames => absurd frames bodied)
    refine removed.trans (removed.shape.update _ rfl rfl (Or.inl ?_) fun _ _ member => member)
    exact removed.later.ordinary ordinary

/-- An ordinary node may get another parent, and where framesets are, its first one. -/
theorem append (shape : Shape stage s) (parent : Nat) (ordinary : s.isOrdinary id = true)
    (free : stage.isFrames = true → (s.node id).parent = none) :
    Kept stage s (s.append parent id) := by
  have detached := shape.detach ordinary free
  have still := detached.later.ordinary ordinary
  have put : Kept stage (s.detach id)
      ((s.detach id).update parent fun n => { n with children := n.children.push id }) :=
    detached.shape.update _ rfl
    (by simp [Sketch.framed, List.filter_append, still]) (Or.inr rfl)
    (fun _ child member => by simpa using Or.inl member)
  refine detached.trans (put.trans (put.shape.update _ rfl rfl (Or.inl ?_) fun _ _ member => member))
  exact put.later.ordinary still

/-- An ordinary node may be put in front of another one, and where framesets are, if it has no
parent. -/
theorem insertBefore (shape : Shape stage s) (parent sibling : Nat)
    (ordinary : s.isOrdinary id = true)
    (free : stage.isFrames = true → (s.node id).parent = none) :
    Kept stage s (s.insertBefore parent sibling id) := by
  have detached := shape.detach ordinary free
  have still := detached.later.ordinary ordinary
  have whole : ∀ (children : Array Nat) (place : Nat), children.toList =
      (children.extract 0 place).toList ++ (children.extract place children.size).toList := by
    intro children place
    have rest : (children.toList.drop place).length ≤ children.size - place := by simp
    simp [List.take_of_length_le rest]
  have put : Kept stage (s.detach id) ((s.detach id).update parent fun n =>
      { n with
        children := n.children.extract 0 ((s.detach id).position parent sibling) ++ #[id] ++
          n.children.extract ((s.detach id).position parent sibling) n.children.size }) :=
    detached.shape.update _ rfl
    (by
      rw [Sketch.framed]
      conv_rhs => rw [whole _ ((s.detach id).position parent sibling)]
      simp [List.filter_append, still])
    (Or.inr rfl)
    (by
      intro _ child member
      rw [whole _ ((s.detach id).position parent sibling), List.mem_append] at member
      rw [Array.toList_append, Array.toList_append, List.mem_append, List.mem_append]
      exact member.imp_left Or.inl)
  refine detached.trans (put.trans (put.shape.update _ rfl rfl (Or.inl ?_) fun _ _ member => member))
  exact put.later.ordinary still

/-- All children of an ordinary node may get another parent, where no framesets are. -/
theorem moveChildren (shape : Shape stage s) (source target : Nat)
    (ordinary : s.isOrdinary source = true) (bodied : stage.isFrames = false) :
    Kept stage s (s.moveChildren source target) := by
  have moved : ∀ children : List Nat, (∀ child ∈ children, s.isOrdinary child = true) →
      Kept stage s (children.foldl (fun s child => s.append target child) s) := by
    intro children each
    induction children using List.reverseRecOn with
    | nil => exact Kept.refl shape
    | append_singleton first last inductionHypothesis =>
      have before := inductionHypothesis fun child member =>
        each child (List.mem_append_left _ member)
      rw [List.foldl_append]
      refine before.trans (before.shape.append target ?_ (by simp [bodied]))
      exact before.later.ordinary (each last (by simp))
  have children : ∀ child ∈ (s.node source).children.toList, s.isOrdinary child = true := by
    have none := shape.framed_ordinary ordinary
    rw [Sketch.framed, List.filter_eq_nil_iff] at none
    intro child member
    simpa using none child member
  rw [Sketch.moveChildren, ← Array.foldl_toList]
  exact moved _ children

/-- A new node does not change the frame. What it puts elsewhere, it puts into a fragment. -/
theorem add (shape : Shape stage s) (kind : SketchKind)
    (contents : ∀ space name attributes contents,
      kind = .element space name attributes (some contents) →
        contents < s.nodes.size ∧ s.outline contents = .fragment) :
    Kept stage s (s.add kind).2 := by
  have size : (s.add kind).2.nodes.size = s.nodes.size + 1 := Array.size_push _
  have outlines : ∀ other < s.nodes.size, (s.add kind).2.outline other = s.outline other := by
    intro other inside
    rw [outline, node_add, if_neg inside.ne, outline]
  have members : ∀ other name, (other, name) ∈ stage.members →
      (s.add kind).2.outline other = .element .html name [] none := by
    intro other name member
    rw [outlines other (shape.member_inside member), shape.members other name member]
  constructor
  · constructor
    · rw [outlines _ shape.root_inside, shape.root]
    · exact members
    · intro other
      have children : ((s.add kind).2.node other).children = (s.node other).children := by
        rw [node_add]
        split
        · next new => rw [new, node_outside (Nat.le_refl _)]
        · rfl
      rw [← shape.framed, Sketch.framed, Sketch.framed, children]
      apply List.filter_congr
      intro child member
      -- A child that has not been made yet would have to be in the frame.
      have inside : child < s.nodes.size := by
        by_cases ordinary : s.isOrdinary child = true
        · exact inside_of_ordinary ordinary
        · exact shape.framed_inside (List.mem_filter.mpr ⟨member, by simpa using ordinary⟩)
      rw [isOrdinary, outlines child inside, isOrdinary]
    · intro html head body full
      have member : (body, "body") ∈ stage.members := by simp [full, Stage.members]
      rw [node_add, if_neg (shape.member_inside member).ne, shape.parent html head body full]
    · intro frames
      obtain ⟨html, frameset, member, inside, outline⟩ := shape.frameset frames
      refine ⟨html, frameset, member, ?_, ?_⟩
      · rw [node_add, if_neg (shape.member_inside member).ne]
        exact inside
      · rw [outlines frameset (inside_of_outline (by simp [outline])), outline]
    · intro other space name inner found
      have made : inner < s.nodes.size ∧ s.outline inner = .fragment := by
        by_cases new : other = s.nodes.size
        · rw [outline, node_add, if_pos new] at found
          cases kind with
          | element space' name' attributes contents' =>
            cases found
            exact contents _ _ _ _ rfl
          | _ => cases found
        · rw [outline, node_add, if_neg new] at found
          exact shape.contents other space name inner found
      rw [outlines inner made.1, size]
      exact ⟨by omega, made.2⟩
  · exact ⟨by omega, outlines⟩

/-- A new ordinary node may be put at the end of a node. -/
theorem appendNew (shape : Shape stage s) (kind : SketchKind) (parent : Nat)
    (ordinary : kind.isOrdinary = true)
    (contents : ∀ space name attributes contents,
      kind = .element space name attributes (some contents) →
        contents < s.nodes.size ∧ s.outline contents = .fragment) :
    Kept stage s ((s.add kind).2.append parent s.nodes.size) := by
  have added := shape.add kind contents
  refine added.trans (added.shape.append parent ?_ ?_)
  · rw [isOrdinary, outline_added, SketchKind.isOrdinary_outline, ordinary]
  · intro _
    rw [node_add, if_pos rfl]

/-- Text at the end of a node does not change the frame. -/
theorem appendText (shape : Shape stage s) (parent : Nat) (content : String) :
    Kept stage s (s.appendText parent content) := by
  have new : Kept stage s ((s.add (.text content)).2.append parent s.nodes.size) :=
    shape.appendNew _ parent rfl nofun
  unfold Sketch.appendText
  split
  · split
    · exact shape.extend content
    · exact new
  · exact new

/-- Text in front of a node does not change the frame. -/
theorem insertTextBefore (shape : Shape stage s) (parent sibling : Nat) (content : String) :
    Kept stage s (s.insertTextBefore parent sibling content) := by
  unfold Sketch.insertTextBefore
  dsimp only
  split
  · exact shape.extend content
  · have added := shape.add (.text content) nofun
    refine added.trans (added.shape.insertBefore parent sibling ?_ ?_)
    · rw [isOrdinary]
      exact congrArg SketchKind.isOrdinary (outline_added (.text content))
    · intro _
      exact congrArg SketchNode.parent ((node_add _ _).trans (if_pos rfl))

/-! ## Changes of the frame -/

/-- The frame of a stage is that of every stage with the same elements, framesets provided. -/
theorem restage (shape : Shape stage s) (stage' : Stage) (same : stage'.members = stage.members)
    (bodiless : ∀ html head body, stage' ≠ .inBody html head body)
    (frameset : stage'.isFrames = true → ∃ html frameset, (html, "html") ∈ stage.members ∧
      frameset ∈ (s.node html).children.toList ∧
      s.outline frameset = .element .html "frameset" [] none) : Shape stage' s where
  root := shape.root
  members := by
    rw [same]
    exact shape.members
  framed id := by
    rw [shape.framed, Stage.children, Stage.children, Stage.ids, Stage.ids, same]
  parent html head body full := absurd full (bodiless html head body)
  frameset := by
    rw [same]
    exact frameset
  contents := shape.contents

/-- The frame grows by a new element that is put at the end of another one. -/
theorem grow (shape : Shape stage s) (stage' : Stage) (name : String)
    (attributes : List Attribute) (parent : Nat) (inside : parent < s.nodes.size)
    (framed : (SketchKind.element .html name attributes none).isOrdinary = false)
    (members : stage'.members = stage.members ++ [(s.nodes.size, name)])
    (children : ∀ id, stage'.children id =
      if id = parent then stage.children id ++ [s.nodes.size] else stage.children id)
    (body : ∀ html head body, stage' = .inBody html head body →
      body = s.nodes.size ∧ html = parent)
    (bodied : stage'.isFrames = false) :
    Shape stage' ((s.add (.element .html name attributes none)).2.append parent s.nodes.size) ∧
      Extends s ((s.add (.element .html name attributes none)).2.append parent s.nodes.size) := by
  have added := shape.add (.element .html name attributes none) nofun
  have size : (s.add (.element .html name attributes none)).2.nodes.size = s.nodes.size + 1 :=
    Array.size_push _
  have nodes := node_appendNew (s := s) (.element .html name attributes none) inside
  have outlines : ∀ id, ((s.add (.element .html name attributes none)).2.append parent
      s.nodes.size).outline id = (s.add (.element .html name attributes none)).2.outline id := by
    intro id
    rw [outline, nodes, outline, node_add]
    split
    · rfl
    · split <;> rfl
  have newest : (s.add (.element .html name attributes none)).2.isOrdinary s.nodes.size = false := by
    rw [isOrdinary, outline_added, SketchKind.isOrdinary_outline, framed]
  constructor
  · constructor
    · rw [outlines, added.shape.root]
    · intro id name' member
      rw [outlines]
      rw [members, List.mem_append, List.mem_singleton] at member
      rcases member with old | new
      · exact added.shape.members id name' old
      · obtain ⟨rfl, rfl⟩ := Prod.mk.inj new
        exact outline_added _
    · intro id
      rw [children, ← added.shape.framed]
      simp only [Sketch.framed, isOrdinary, outlines, nodes, node_add]
      by_cases new : id = s.nodes.size
      · simp [new, inside.ne']
      · by_cases here : id = parent
        · rw [isOrdinary] at newest
          simp [here, inside.ne, List.filter_append, newest]
        · simp [new, here]
    · intro html head body' full
      obtain ⟨rfl, rfl⟩ := body html head body' full
      rw [nodes, if_pos rfl]
    · intro frames
      rw [bodied] at frames
      cases frames
    · intro id space name' contents found
      rw [outlines] at found
      rw [outlines]
      have made := added.shape.contents id space name' contents found
      refine ⟨?_, made.2⟩
      rw [size_appendNew, ← size]
      exact made.1
  · constructor
    · rw [size_appendNew]
      omega
    · intro id old
      rw [outlines, added.later.outline id old]

/-- The body may be taken out of the frame. -/
theorem dropBody {html head body : Nat} (shape : Shape (.inBody html head body) s) :
    Shape (.afterHead html head) (s.detach body) ∧ Extends s (s.detach body) := by
  have htmlOutline := shape.members html "html" (by simp [Stage.members])
  have headOutline := shape.members head "head" (by simp [Stage.members])
  have bodyOutline := shape.members body "body" (by simp [Stage.members])
  have distinct : head ≠ body := by
    rintro rfl
    rw [headOutline] at bodyOutline
    simp at bodyOutline
  have outer : html ≠ body := by
    rintro rfl
    rw [htmlOutline] at bodyOutline
    simp at bodyOutline
  have apart : html ≠ Sketch.root := by
    rintro rfl
    rw [shape.root] at htmlOutline
    cases htmlOutline
  have nodes : ∀ id, (s.detach body).node id =
      { s.node id with
        parent := if id = body then none else (s.node id).parent
        children := if id = html then (s.node id).children.filter (· ≠ body)
          else (s.node id).children } := by
    intro id
    have bodyInside : body < s.nodes.size :=
      shape.member_inside (List.mem_cons_of_mem _ (List.mem_cons_of_mem _ List.mem_cons_self))
    have htmlInside : html < s.nodes.size := shape.member_inside List.mem_cons_self
    rw [Sketch.detach, shape.parent html head body rfl]
    simp only [node_update, size_update, bodyInside, htmlInside, and_true]
    by_cases here : id = body
    · subst here
      simp [Ne.symm outer]
    · by_cases above : id = html
      · subst above
        simp [here]
      · simp [here, above]
  have outlines : ∀ id, (s.detach body).outline id = s.outline id := by
    intro id
    rw [outline, nodes, outline]
  have size : (s.detach body).nodes.size = s.nodes.size := by
    rw [Sketch.detach, shape.parent html head body rfl]
    simp
  constructor
  · constructor
    · rw [outlines, shape.root]
    · intro id name member
      rw [outlines]
      apply shape.members id name
      simp [Stage.members] at member ⊢
      tauto
    · intro id
      have before := shape.framed id
      simp only [Sketch.framed, isOrdinary, outlines, nodes] at before ⊢
      by_cases here : id = html
      · subst here
        rw [if_pos rfl, Array.toList_filter, List.filter_filter]
        simp only [Bool.and_comm]
        rw [← List.filter_filter, before]
        simp [Stage.children, Stage.ids, Stage.members, apart, distinct]
      · rw [if_neg here, before]
        simp [Stage.children, Stage.ids, Stage.members, Ne.symm here]
    · nofun
    · nofun
    · intro id space name contents found
      rw [outlines] at found ⊢
      rw [size]
      exact shape.contents id space name contents found
  · constructor
    · rw [size]
    · intro id _
      exact outlines id

end Shape

end Sketch

end Pagefold.Html
