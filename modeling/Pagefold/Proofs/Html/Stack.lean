import Mathlib
import Pagefold.Html.Builder
import Pagefold.Proofs.Html.Sketch

/-!
# The open elements

Open elements form a stack whose outermost elements are those of the frame. Above them, the parts of
a table are seated: a row stands directly on a section or on a template, a cell on a row, and so on.
Therefore a search that a table or a template ends does not come past a part of a table, and closing
what such a search has found does not close one.
-/
namespace Pagefold.Html

/-! ## Kinds of elements -/

/-- The elements that decide in which mode content is taken up. -/
def structural : List String :=
  ["table", "tbody", "tfoot", "thead", "tr", "td", "th", "caption", "colgroup", "select",
   "template"]

/-- What an element of the kind has to stand on. -/
def seats : String → Option (List String)
  | "tr" => some ["tbody", "tfoot", "thead", "template"]
  | "td" | "th" => some ["tr", "template"]
  | "tbody" | "tfoot" | "thead" | "caption" | "colgroup" => some ["table", "template"]
  | _ => none

/-- What an element has to stand on is itself structural. -/
theorem seats_structural {n m : String} {allowed : List String} (seat : seats n = some allowed)
    (member : m ∈ allowed) : m ∈ structural := by
  unfold seats at seat
  split at seat <;> cases seat <;> fin_cases member <;> decide

namespace Sketch

variable {s s' : Sketch} {id : Nat}

/-- The language and the name of a node; one that is no element has no name. -/
def nameOf (s : Sketch) (id : Nat) : Space × String := (s.elementName? id).getD (.html, "")

/-- The name of an element that is structural. -/
def kind (s : Sketch) (id : Nat) : Option String :=
  if (s.nameOf id).1 = .html ∧ (s.nameOf id).2 ∈ structural then some (s.nameOf id).2 else none

/-- An element that is ordinary and not structural. -/
def Light (s : Sketch) (id : Nat) : Prop := s.isOrdinary id = true ∧ s.kind id = none

theorem kind_eq_some {n : String} :
    s.kind id = some n ↔ s.nameOf id = (.html, n) ∧ n ∈ structural := by
  unfold kind
  split
  · next named =>
    rw [Option.some.injEq, Prod.ext_iff]
    constructor
    · rintro rfl
      exact ⟨⟨named.1, rfl⟩, named.2⟩
    · exact fun same => same.1.2
  · next other =>
    constructor
    · nofun
    · rintro ⟨same, member⟩
      rw [same] at other
      exact absurd ⟨rfl, member⟩ other

/-- A node has the language and name of its outline. -/
theorem elementName_outline (s : Sketch) (id : Nat) :
    s.elementName? id =
      match s.outline id with
      | .element space name _ _ => some (space, name)
      | _ => none := by
  unfold elementName? outline
  cases (s.node id).kind <;> rfl

/-- Elements keep their names. -/
theorem Extends.elementName (later : Extends s s') (inside : id < s.nodes.size) :
    s'.elementName? id = s.elementName? id := by
  rw [elementName_outline, elementName_outline, later.outline id inside]

theorem Extends.nameOf (later : Extends s s') (inside : id < s.nodes.size) :
    s'.nameOf id = s.nameOf id := by
  rw [Sketch.nameOf, Sketch.nameOf, later.elementName inside]

/-- An element has been made. -/
theorem inside_of_element (element : (s.elementName? id).isSome = true) : id < s.nodes.size := by
  apply inside_of_outline
  intro fragment
  rw [elementName_outline, fragment] at element
  cases element

theorem Extends.kind (later : Extends s s') (inside : id < s.nodes.size) :
    s'.kind id = s.kind id := by
  rw [Sketch.kind, Sketch.kind, later.nameOf inside]

theorem Extends.isOrdinary (later : Extends s s') (inside : id < s.nodes.size) :
    s'.isOrdinary id = s.isOrdinary id := by
  rw [Sketch.isOrdinary, Sketch.isOrdinary, later.outline id inside]

/-- An element of the frame is not structural. -/
theorem kind_framed (framed : s.isOrdinary id = false) : s.kind id = none := by
  rw [← Option.not_isSome_iff_eq_none]
  intro there
  obtain ⟨n, found⟩ := Option.isSome_iff_exists.mp there
  obtain ⟨named, member⟩ := kind_eq_some.mp found
  rw [nameOf, elementName_outline] at named
  rw [Sketch.isOrdinary] at framed
  cases outline : s.outline id with
  | element space name attributes contents =>
    rw [outline] at named framed
    obtain ⟨rfl, rfl⟩ := Prod.mk.inj named
    simp only [SketchKind.isOrdinary, Bool.not_eq_eq_eq_not, Bool.not_false] at framed
    fin_cases member <;> simp at framed
  | _ =>
    rw [outline] at named
    have empty : n = "" := (Prod.mk.inj named).2.symm
    subst empty
    exact absurd member (by decide)

/-- Elements are seated if each one stands on what it has to stand on, innermost first. -/
def Seated (s : Sketch) : List Nat → Prop
  | [] => True
  | id :: below =>
    (∀ n allowed, s.kind id = some n → seats n = some allowed →
      ∃ m ∈ allowed, below.head?.bind s.kind = some m) ∧
    Seated s below

/-- Elements stay seated in a later sketch. -/
theorem Seated.later {opened : List Nat} (seated : s.Seated opened) (later : Extends s s')
    (inside : ∀ id ∈ opened, id < s.nodes.size) : s'.Seated opened := by
  induction opened with
  | nil => trivial
  | cons id below inductionHypothesis =>
    constructor
    · intro n allowed found seat
      rw [later.kind (inside id List.mem_cons_self)] at found
      obtain ⟨m, member, stands⟩ := seated.1 n allowed found seat
      refine ⟨m, member, ?_⟩
      cases below with
      | nil => exact stands
      | cons next _ =>
        rw [← stands]
        exact later.kind (inside next (by simp))
    · exact inductionHypothesis seated.2 fun other member =>
        inside other (List.mem_cons_of_mem _ member)

/-- Elements that are closed do not unseat the others. -/
theorem Seated.drop {pre rest : List Nat} (seated : s.Seated (pre ++ rest)) : s.Seated rest := by
  induction pre with
  | nil => exact seated
  | cons id others inductionHypothesis => exact inductionHypothesis seated.2

/-- Elements that are not structural may be opened anywhere. -/
theorem Seated.cover {new rest : List Nat} (light : ∀ id ∈ new, s.kind id = none)
    (seated : s.Seated rest) : s.Seated (new ++ rest) := by
  induction new with
  | nil => exact seated
  | cons id others inductionHypothesis =>
    constructor
    · intro n allowed found
      rw [light id List.mem_cons_self] at found
      cases found
    · exact inductionHypothesis fun other member => light other (List.mem_cons_of_mem _ member)

/-- In place of an element that is not structural there may be others that are not: nothing has to
stand on it. -/
theorem Seated.edit {above below new : List Nat} (seated : s.Seated (above ++ id :: below))
    (old : s.kind id = none) (light : ∀ other ∈ new, s.kind other = none) :
    s.Seated (above ++ (new ++ below)) := by
  induction above with
  | nil =>
    rw [List.nil_append]
    exact Seated.cover light seated.2
  | cons first others inductionHypothesis =>
    refine ⟨?_, inductionHypothesis seated.2⟩
    intro n allowed found seat
    obtain ⟨m, member, stands⟩ := seated.1 n allowed found seat
    cases others with
    | nil =>
      have none : s.kind id = some m := stands
      rw [old] at none
      cases none
    | cons _ _ => exact ⟨m, member, stands⟩

/-- An element stands directly on another one, also if an element that is not structural is looked
for further out. -/
theorem Seated.next {x : Nat} {rest between below : List Nat} {n : String} {allowed : List String}
    (seated : s.Seated (x :: rest)) (found : s.kind x = some n) (seat : seats n = some allowed)
    (same : x :: rest = x :: between ++ id :: below) (old : s.kind id = none) :
    ∃ y between', between = y :: between' ∧ ∃ m ∈ allowed, s.kind y = some m := by
  obtain ⟨m, member, stands⟩ := seated.1 n allowed found seat
  rw [(List.cons.inj same).2] at stands
  cases between with
  | nil =>
    have none : s.kind id = some m := stands
    rw [old] at none
    cases none
  | cons y between' => exact ⟨y, between', rfl, m, member, stands⟩

/-- A part of a table does not come before an element that is not structural, unless a table or a
template stands between them. -/
theorem Seated.unseated {x : Nat} {rest between below : List Nat} {n : String}
    (seated : s.Seated (x :: rest)) (found : s.kind x = some n)
    (part : n ∈ ["tbody", "tfoot", "thead", "tr", "colgroup"])
    (same : x :: rest = x :: between ++ id :: below) (old : s.kind id = none)
    (outside : ∀ other ∈ x :: between, ∀ n ∈ ["table", "td", "th", "caption", "template"],
      s.kind other ≠ some n) : False := by
  by_cases row : n = "tr"
  · subst row
    obtain ⟨y, between', rfl, m, allowed, stands⟩ := seated.next found rfl same old
    have section_stands : seats m = some ["table", "template"] := by
      fin_cases allowed
      · rfl
      · rfl
      · rfl
      · exact absurd stands (outside y (by simp) _ (by simp))
    obtain ⟨rfl⟩ := (List.cons.inj same).2
    obtain ⟨z, between'', rfl, m', allowed', stands'⟩ :=
      seated.2.next stands section_stands rfl old
    fin_cases allowed' <;> exact outside z (by simp) _ (by simp) stands'
  · have stands_on : seats n = some ["table", "template"] := by
      fin_cases part
      · rfl
      · rfl
      · rfl
      · exact absurd rfl row
      · rfl
    obtain ⟨y, between', rfl, m, allowed, stands⟩ := seated.next found stands_on same old
    fin_cases allowed <;> exact outside y (by simp) _ (by simp) stands

end Sketch

namespace Stage

/-- The open elements of the frame. -/
def base : Stage → List Nat
  | start => []
  | rooted html => [html]
  | inHead html head => [head, html]
  | afterHead html _ => [html]
  | inBody html _ body => [body, html]
  | inFrames html _ => [html]

/-- Whether content may stand directly in the innermost open element of the frame. -/
def isOpen : Stage → Bool
  | inBody _ _ _ | inFrames _ _ => true
  | _ => false

/-- The open elements of the frame are elements of the frame. -/
theorem mem_base {stage : Stage} {id : Nat} (member : id ∈ stage.base) :
    ∃ name, (id, name) ∈ stage.members := by
  cases stage <;> simp [base, members] at member ⊢ <;> grind

/-- Where content may stand in the frame, the head is closed. -/
theorem mem_base_open {stage : Stage} {id : Nat} (wide : stage.isOpen = true)
    (member : id ∈ stage.base) : ∃ name, (id, name) ∈ stage.members ∧ name ≠ "head" := by
  cases stage with
  | inBody html head body =>
    rcases List.mem_cons.mp member with rfl | outer
    · exact ⟨"body", by simp [members], by decide⟩
    · exact ⟨"html", by simp [members, List.mem_singleton.mp outer], by decide⟩
  | inFrames html head =>
    exact ⟨"html", by simp [members, List.mem_singleton.mp member], by decide⟩
  | _ => cases wide

end Stage

/-- The open elements of a document in a stage, with the structural ones among them. If content may
not stand directly in the frame, all of it is in a template. -/
structure Stack (s : Sketch) (stage : Stage) (kinds : List String) (opened : List Nat) : Prop where
  elements : ∀ id ∈ opened, (s.elementName? id).isSome = true
  base : ∀ id ∈ stage.base, s.isOrdinary id = false
  inner : ∃ inner, opened = inner ++ stage.base ∧
    (∀ id ∈ inner, s.isOrdinary id = true ∧
      (s.nameOf id = (.html, "frameset") → stage.isFrames = true)) ∧
    (stage.isOpen = false → ∀ id, inner.getLast? = some id → s.kind id = some "template")
  kinds : opened.filterMap s.kind = kinds
  seated : s.Seated opened
  nodup : opened.Nodup

namespace Stack

open Sketch

variable {s s' : Sketch} {stage : Stage} {kinds : List String} {opened : List Nat} {id : Nat}

/-- The first elements that are all ordinary are not in the frame. -/
theorem split_inner {inner base pre rest : List Nat}
    (framed : ∀ id ∈ base, s.isOrdinary id = false) (whole : inner ++ base = pre ++ rest) (ordinary : ∀ id ∈ pre, s.isOrdinary id = true) :
    ∃ left, inner = pre ++ left ∧ rest = left ++ base := by
  rcases List.append_eq_append_iff.mp whole with ⟨more, longer, rfl⟩ | ⟨left, shorter, last⟩
  · cases more with
    | nil => exact ⟨[], by simpa using longer.symm, rfl⟩
    | cons id others =>
      have first := ordinary id (by simp [longer])
      rw [framed id (by simp)] at first
      cases first
  · exact ⟨left, shorter, last⟩

/-- Everything above an ordinary element is ordinary. -/
theorem above_ordinary (stack : Stack s stage kinds opened) {above below : List Nat}
    (split : opened = above ++ id :: below) (ordinary : s.isOrdinary id = true) :
    ∃ left, (∀ other ∈ above ++ id :: left, s.isOrdinary other = true ∧
        (s.nameOf other = (.html, "frameset") → stage.isFrames = true)) ∧
      below = left ++ stage.base ∧
      (stage.isOpen = false → ∀ last, (above ++ id :: left).getLast? = some last →
        s.kind last = some "template") := by
  obtain ⟨inner, whole, each, last⟩ := stack.inner
  rw [split] at whole
  rcases List.append_eq_append_iff.mp whole with ⟨more, longer, rest⟩ | ⟨more, _, rest⟩
  · cases more with
    | nil =>
      have bottom : stage.base = id :: below := rest.symm
      have framed := stack.base id (by rw [bottom]; exact List.mem_cons_self)
      rw [ordinary] at framed
      cases framed
    | cons first left =>
      obtain ⟨rfl, below⟩ := List.cons.inj rest
      rw [longer] at each last
      exact ⟨left, each, below, last⟩
  · have framed := stack.base id (by simp [rest])
    rw [ordinary] at framed
    cases framed

/-- Ordinary elements are above those of the frame. -/
theorem above_framed (stack : Stack s stage kinds opened) {above below : List Nat}
    (split : opened = above ++ id :: below) (framed : s.isOrdinary id = false) {other : Nat}
    (member : other ∈ opened) (ordinary : s.isOrdinary other = true) : other ∈ above := by
  rw [split] at member
  rcases List.mem_append.mp member with outer | inner
  · exact outer
  · obtain ⟨pre, post, rest⟩ := List.append_of_mem inner
    obtain ⟨left, each, _⟩ := stack.above_ordinary
      (by rw [split, rest, List.append_assoc]) ordinary
    cases pre with
    | nil =>
      rw [(List.cons.inj rest).1, ordinary] at framed
      cases framed
    | cons first others =>
      have inside := (each id (by rw [(List.cons.inj rest).1]; simp)).1
      rw [framed] at inside
      cases inside

/-! ## Closing and opening -/

/-- Ordinary elements are closed, the innermost ones first. -/
theorem drop {pre rest : List Nat} (stack : Stack s stage kinds (pre ++ rest))
    (ordinary : ∀ id ∈ pre, s.isOrdinary id = true) :
    Stack s stage (rest.filterMap s.kind) rest := by
  obtain ⟨inner, whole, each, last⟩ := stack.inner
  obtain ⟨left, rfl, rfl⟩ := split_inner stack.base whole.symm ordinary
  constructor
  · exact fun id member => stack.elements id (List.mem_append_right _ member)
  · exact stack.base
  · refine ⟨left, rfl, fun id member => each id (List.mem_append_right _ member), ?_⟩
    intro closed id found
    apply last closed id
    rw [List.getLast?_append, found, Option.some_or]
  · rfl
  · exact stack.seated.drop
  · exact (List.nodup_append.mp stack.nodup).2.1

/-- Elements that are not structural are closed, the innermost ones first. -/
theorem dropLight {pre rest : List Nat} (stack : Stack s stage kinds (pre ++ rest))
    (light : ∀ id ∈ pre, s.Light id) : Stack s stage kinds rest := by
  have dropped := stack.drop fun id member => (light id member).1
  have none : pre.filterMap s.kind = [] := by
    rw [List.filterMap_eq_nil_iff]
    exact fun id member => (light id member).2
  rwa [← List.nil_append (rest.filterMap s.kind), ← none, ← List.filterMap_append,
    stack.kinds] at dropped

/-- In place of an element that is not structural there are other such elements. -/
theorem edit {above below new : List Nat} (stack : Stack s stage kinds (above ++ id :: below))
    (old : s.Light id)
    (light : ∀ other ∈ new, s.Light other ∧ (s.elementName? other).isSome = true ∧
      (s.nameOf other = (.html, "frameset") → stage.isFrames = true))
    (nodup : (above ++ (new ++ below)).Nodup) :
    Stack s stage kinds (above ++ (new ++ below)) := by
  obtain ⟨left, each, rfl, last⟩ := stack.above_ordinary rfl old.1
  constructor
  · intro other member
    rcases List.mem_append.mp member with outer | inner
    · exact stack.elements other (by simp [outer])
    · rcases List.mem_append.mp inner with added | outer
      · exact (light other added).2.1
      · exact stack.elements other (by simp at outer ⊢; tauto)
  · exact stack.base
  · refine ⟨above ++ (new ++ left), by simp, ?_, ?_⟩
    · intro other member
      rcases List.mem_append.mp member with outer | inner
      · exact each other (by simp [outer])
      · rcases List.mem_append.mp inner with added | outer
        · obtain ⟨other_light, _, named⟩ := light other added
          exact ⟨other_light.1, named⟩
        · exact each other (by simp [outer])
    · intro closed final found
      cases left with
      | nil =>
        -- Otherwise the element that is replaced would be a template.
        have template := last closed id (by simp)
        rw [old.2] at template
        cases template
      | cons first others =>
        apply last closed final
        rw [← found]
        simp [List.getLast?_append, List.getLast?_cons]
  · have none : new.filterMap s.kind = [] := by
      rw [List.filterMap_eq_nil_iff]
      exact fun other member => (light other member).1.2
    have whole := stack.kinds
    rw [List.filterMap_append, List.filterMap_cons_none old.2] at whole
    rw [List.filterMap_append, List.filterMap_append, none, List.nil_append, whole]
  · exact stack.seated.edit old.2 fun other member => (light other member).1.2
  · exact nodup

/-- An ordinary element is opened. In the frame content may have to stand in a template. -/
theorem push (stack : Stack s stage kinds opened) (ordinary : s.isOrdinary id = true)
    (element : (s.elementName? id).isSome = true) (fresh : id ∉ opened)
    (named : s.nameOf id = (.html, "frameset") → stage.isFrames = true)
    (seat : ∀ n allowed, s.kind id = some n → seats n = some allowed →
      ∃ m ∈ allowed, opened.head?.bind s.kind = some m)
    (roomy : stage.isOpen = true ∨ kinds ≠ [] ∨ s.kind id = some "template") :
    Stack s stage ((s.kind id).toList ++ kinds) (id :: opened) := by
  obtain ⟨inner, whole, each, last⟩ := stack.inner
  constructor
  · intro other member
    rcases List.mem_cons.mp member with rfl | outer
    · exact element
    · exact stack.elements other outer
  · exact stack.base
  · refine ⟨id :: inner, by rw [whole, List.cons_append], ?_, ?_⟩
    · intro other member
      rcases List.mem_cons.mp member with rfl | outer
      · exact ⟨ordinary, named⟩
      · exact each other outer
    · intro closed final found
      cases inner with
      | nil =>
        have empty : kinds = [] := by
          rw [← stack.kinds, whole, List.nil_append, List.filterMap_eq_nil_iff]
          exact fun other member => kind_framed (stack.base other member)
        obtain rfl : id = final := by simpa using found
        rcases roomy with is_open | some | template
        · rw [closed] at is_open
          cases is_open
        · exact absurd empty some
        · exact template
      | cons first others =>
        apply last closed final
        rw [← found]
        simp [List.getLast?_cons]
  · rw [← stack.kinds, List.filterMap_cons]
    cases s.kind id <;> rfl
  · exact ⟨seat, stack.seated⟩
  · exact List.nodup_cons.mpr ⟨fresh, stack.nodup⟩

/-! ## The structural elements -/

/-- The structural elements that are open have structural names. -/
theorem known {n : String} (stack : Stack s stage kinds opened) (member : n ∈ kinds) :
    n ∈ structural := by
  rw [← stack.kinds] at member
  obtain ⟨id, _, found⟩ := List.mem_filterMap.mp member
  exact (kind_eq_some.mp found).2

/-- The innermost structural element: everything above it is not structural. -/
theorem top {n : String} {others : List String} (stack : Stack s stage (n :: others) opened) :
    ∃ above id below, opened = above ++ id :: below ∧ (∀ other ∈ above, s.Light other) ∧
      s.kind id = some n ∧ s.isOrdinary id = true ∧ Stack s stage others below := by
  obtain ⟨above, id, below, rfl, none, found, rest⟩ := List.filterMap_eq_cons_iff.mp stack.kinds
  have ordinary : s.isOrdinary id = true := by
    by_contra framed
    rw [kind_framed (by simpa using framed)] at found
    cases found
  obtain ⟨left, each, _⟩ := stack.above_ordinary rfl ordinary
  refine ⟨above, id, below, rfl, ?_, found, ordinary, ?_⟩
  · exact fun other member => ⟨(each other (by simp [member])).1, none other member⟩
  · rw [← rest]
    have joined : Stack s stage (n :: others) ((above ++ [id]) ++ below) := by simpa using stack
    apply joined.drop
    · intro other member
      apply (each other _).1
      simp at member ⊢
      tauto

/-- A structural element stands directly on another one that it has to stand on. -/
theorem seat {n : String} {others allowed : List String}
    (stack : Stack s stage (n :: others) opened) (seat : seats n = some allowed) :
    ∃ m ∈ allowed, others.head? = some m := by
  obtain ⟨above, id, below, rfl, none, found, rest⟩ := List.filterMap_eq_cons_iff.mp stack.kinds
  obtain ⟨m, member, stands⟩ := stack.seated.drop.1 n allowed found seat
  refine ⟨m, member, ?_⟩
  cases below with
  | nil => cases stands
  | cons next others' =>
    have first : s.kind next = some m := stands
    rw [← rest, List.filterMap_cons_some first, List.head?_cons]

/-- If content may not stand in the frame and there is no structural element, nothing else is
open. -/
theorem bare (stack : Stack s stage [] opened) (closed : stage.isOpen = false) :
    opened = stage.base := by
  obtain ⟨inner, whole, each, last⟩ := stack.inner
  cases found : inner.getLast? with
  | none => rw [whole, List.getLast?_eq_none_iff.mp found, List.nil_append]
  | some final =>
    have template := last closed final found
    have none := List.filterMap_eq_nil_iff.mp stack.kinds final
      (by rw [whole]; exact List.mem_append_left _ (List.mem_of_getLast? found))
    rw [template] at none
    cases none

/-- An element that is not structural and that is found before any table, cell, caption or template
has no structural elements above it, unless there is an open selection.

Proof: a section, a row or a group of columns that came before it would stand on a table or a
template, or on something that does; these stand directly on each other, so the element would not be
between them. -/
theorem above_light (stack : Stack s stage kinds opened) {above below : List Nat}
    (split : opened = above ++ id :: below) (light : s.Light id)
    (outside : ∀ other ∈ above, ∀ n ∈ ["table", "td", "th", "caption", "template"],
      s.kind other ≠ some n)
    (free : kinds.head? ≠ some "select") : ∀ other ∈ above, s.Light other := by
  obtain ⟨left, each, _⟩ := stack.above_ordinary split light.1
  cases kinds with
  | nil =>
    intro other member
    refine ⟨(each other (by simp [member])).1, ?_⟩
    exact List.filterMap_eq_nil_iff.mp stack.kinds other (by simp [split, member])
  | cons n others =>
    obtain ⟨above', e, below', split', light', found, _, _⟩ := stack.top
    rw [split] at split'
    rcases List.append_eq_append_iff.mp split' with ⟨more, longer, _⟩ | ⟨more, longer, rest⟩
    · intro other member
      exact light' other (by simp [longer, member])
    · exfalso
      have seated := stack.seated
      rw [split, split'] at seated
      obtain ⟨more', rfl⟩ : ∃ more', more = e :: more' := by
        cases more with
        | nil =>
          obtain ⟨rfl, _⟩ := List.cons.inj rest
          rw [light.2] at found
          cases found
        | cons first more' => exact ⟨more', by rw [(List.cons.inj rest).1]⟩
      have inside : ∀ other ∈ e :: more', ∀ n ∈ ["table", "td", "th", "caption", "template"],
          s.kind other ≠ some n := by
        intro other member
        exact outside other (by simp [longer, member])
      have part : n ∈ ["tbody", "tfoot", "thead", "tr", "colgroup"] := by
        have other := inside e List.mem_cons_self
        have unselected : n ≠ "select" := by
          rintro rfl
          exact free rfl
        have known := (kind_eq_some.mp found).2
        simp only [found, ne_eq, Option.some.injEq] at other
        simp only [structural, List.mem_cons, List.not_mem_nil, or_false] at known
        simp only [List.mem_cons, List.not_mem_nil, or_false, forall_eq_or_imp, forall_eq] at other
        simp only [List.mem_cons, List.not_mem_nil, or_false]
        tauto
      exact seated.drop.unseated found part rest light.2 inside

/-- The elements that are open stay so in a later sketch. -/
theorem later (stack : Stack s stage kinds opened) (later : Extends s s') :
    Stack s' stage kinds opened := by
  have inside : ∀ id ∈ opened, id < s.nodes.size := fun id member =>
    inside_of_element (stack.elements id member)
  obtain ⟨inner, whole, each, last⟩ := stack.inner
  have inner_inside : ∀ id ∈ inner, id < s.nodes.size := by
    intro id member
    exact inside id (by rw [whole]; exact List.mem_append_left _ member)
  constructor
  · intro id member
    rw [later.elementName (inside id member)]
    exact stack.elements id member
  · intro id member
    rw [later.isOrdinary (inside id (by rw [whole]; exact List.mem_append_right _ member))]
    exact stack.base id member
  · refine ⟨inner, whole, ?_, ?_⟩
    · intro id member
      rw [later.isOrdinary (inner_inside id member), later.nameOf (inner_inside id member)]
      exact each id member
    · intro closed id found
      rw [later.kind (inner_inside id (List.mem_of_getLast? found))]
      exact last closed id found
  · rw [← stack.kinds]
    exact List.filterMap_congr fun id member => later.kind (inside id member)
  · exact stack.seated.later later inside
  · exact stack.nodup

end Stack

end Pagefold.Html
