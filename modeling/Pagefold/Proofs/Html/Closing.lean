import Mathlib
import Pagefold.Proofs.Html.Sound

/-!
# Closing elements

Elements are closed down to one that a search has found. What is closed on the way is neither
structural nor in the frame, because such elements end the search; a structural element is closed
only where the mode knows that it is the innermost one.
-/
namespace Pagefold.Html

namespace Sketch

/-- A node with a name is an element with that name. -/
theorem outline_of_element {s : Sketch} {id : Nat}
    (element : (s.elementName? id).isSome = true) :
    ∃ space name contents, s.outline id = .element space name [] contents := by
  unfold elementName? at element
  unfold outline
  cases kind : (s.node id).kind with
  | element space name attributes contents => exact ⟨space, name, contents, rfl⟩
  | _ =>
    rw [kind] at element
    cases element

/-- An element of another language is not structural. -/
theorem light_foreign {s : Sketch} {id : Nat} (ordinary : s.isOrdinary id = true)
    (foreign : (s.nameOf id).1 ≠ .html) : s.Light id := by
  refine ⟨ordinary, ?_⟩
  rw [kind, if_neg]
  exact fun named => foreign named.1

end Sketch

namespace Builder

open Sketch

variable {v : View} {b : Builder}

/-! ## Names -/

theorem isNamed_iff {name : String} {id : Nat} :
    b.isNamed name id = true ↔ b.sketch.nameOf id = (.html, name) := by
  rw [isNamed, beq_iff_eq]
  rfl

theorem isOneOf_iff {names : List String} {id : Nat} :
    b.isOneOf names id = true ↔ ∃ name ∈ names, b.sketch.nameOf id = (.html, name) := by
  have same : b.isOneOf names id =
      ((b.sketch.nameOf id).1 == .html && names.contains (b.sketch.nameOf id).2) := rfl
  rw [same, Bool.and_eq_true, beq_iff_eq, List.contains_iff_mem]
  constructor
  · rintro ⟨space, member⟩
    exact ⟨_, member, Prod.ext space rfl⟩
  · rintro ⟨name, member, named⟩
    rw [named]
    exact ⟨rfl, member⟩

/-- An element that ends no search in the default scope is none of these structural ones. -/
theorem kind_of_scope {id : Nat} (goes_on : b.endsScope id = false) :
    ∀ n ∈ ["table", "td", "th", "caption", "template"], b.sketch.kind id ≠ some n := by
  intro n member found
  have named := (kind_eq_some.mp found).1
  have bound : b.isOneOf boundaries id = true := by
    rw [isOneOf_iff]
    refine ⟨n, ?_, named⟩
    fin_cases member <;> decide
  rw [endsScope, bound] at goes_on
  cases goes_on

/-- A search that succeeds divides the open elements. -/
theorem scope_split {ends wanted : Nat → Bool} (found : b.inScope ends wanted = true) :
    ∃ above id below, b.opened = above ++ id :: below ∧ wanted id = true ∧
      ∀ other ∈ above, wanted other = false ∧ ends other = false := by
  unfold inScope at found
  split at found
  · next id first =>
    obtain ⟨_, above, below, split, others⟩ := List.find?_eq_some_iff_append.mp first
    refine ⟨above, id, below, split, found, ?_⟩
    intro other member
    simpa using others other member
  · cases found

/-- What is not dropped at the start of a list stays behind it. -/
theorem dropWhile_split {p : Nat → Bool} {above below : List Nat} {id : Nat} (stays : p id = false) :
    ∃ left, left <:+ above ∧ (above ++ id :: below).dropWhile p = left ++ id :: below := by
  induction above with
  | nil => exact ⟨[], List.suffix_refl _, by simp [stays]⟩
  | cons first others inductionHypothesis =>
    by_cases dropped : p first = true
    · obtain ⟨left, suffix, same⟩ := inductionHypothesis
      refine ⟨left, suffix.trans (List.suffix_cons _ _), ?_⟩
      rw [List.cons_append, List.dropWhile_cons_of_pos dropped, same]
    · exact ⟨first :: others, List.suffix_refl _,
        by rw [List.cons_append, List.dropWhile_cons_of_neg dropped]⟩

/-- The first element that is accepted ends the closing. -/
theorem dropWhile_first {last : Nat → Bool} {above below : List Nat} {id : Nat}
    (accepted : last id = true) (others : ∀ other ∈ above, last other = false) :
    (above ++ id :: below).dropWhile (!last ·) = id :: below := by
  rw [List.dropWhile_append_of_pos]
  · rw [List.dropWhile_cons_of_neg (by simp [accepted])]
  · intro other member
    rw [others other member]
    rfl

namespace Sound

/-- An open element with a plain name is not structural. -/
theorem light_named (sound : Sound v b) {id : Nat} (member : id ∈ b.opened) {name : String}
    (named : b.sketch.nameOf id = (.html, name)) (plain : isPlain .html name = true) :
    b.sketch.Light id := by
  obtain ⟨space, name', contents, outline⟩ := outline_of_element (sound.stack.elements id member)
  rw [nameOf_of_outline outline] at named
  obtain ⟨rfl, rfl⟩ := Prod.mk.inj named
  exact (light_of_outline outline plain).1

/-- Elements whose end tags may be left out are plain. -/
theorem light_implied (sound : Sound v b) {id : Nat} (member : id ∈ b.opened)
    (implied : b.isOneOf impliedEnds id = true) : b.sketch.Light id := by
  obtain ⟨name, known, named⟩ := isOneOf_iff.mp implied
  refine sound.light_named member named ?_
  fin_cases known <;> decide

/-! ## Elements that are not structural -/

/-- Elements that are not structural are closed. -/
theorem closeLight (sound : Sound v b) {above below : List Nat}
    (split : b.opened = above ++ below) (light : ∀ id ∈ above, b.sketch.Light id) :
    Sound v { b with opened := below } := by
  have stack := sound.stack
  rw [split] at stack
  exact sound.withStack (stack.dropLight light) rfl

/-- The innermost element is closed. -/
theorem pop (sound : Sound v b) (light : ∀ id, b.opened.head? = some id → b.sketch.Light id) :
    Sound v b.pop := by
  cases opened : b.opened with
  | nil =>
    have same : b.pop = b := by
      cases b
      simp_all [Builder.pop]
    rw [same]
    exact sound
  | cons id below =>
    have popped := sound.closeLight opened (by
      intro other member
      rw [List.mem_singleton.mp member]
      exact light id (by rw [opened]; rfl))
    rw [Builder.pop, opened]
    exact popped

/-- An element with a plain name is closed if it is the innermost one. -/
theorem popNamedHere (sound : Sound v b) {names : List String}
    (here : b.isOneOf names b.current = true)
    (plain : ∀ name ∈ names, isPlain .html name = true) : Sound v b.pop := by
  apply sound.pop
  intro id innermost
  have current : b.current = id := by rw [Builder.current, List.headD_eq_head?_getD, innermost]; rfl
  rw [current] at here
  obtain ⟨name, member, named⟩ := isOneOf_iff.mp here
  exact sound.light_named (List.mem_of_head? innermost) named (plain name member)

/-- Elements are closed up to and with one that is found. -/
theorem popThrough (sound : Sound v b) {above below : List Nat} {id : Nat}
    (split : b.opened = above ++ id :: below) (light : ∀ other ∈ above, b.sketch.Light other)
    (own : b.sketch.Light id) {last : Nat → Bool} (accepted : last id = true)
    (others : ∀ other ∈ above, last other = false) : Sound v (b.popThrough last) := by
  have joined : b.opened = (above ++ [id]) ++ below := by rw [split, List.append_assoc]; rfl
  have closed := sound.closeLight joined
    (by
      intro other member
      rcases List.mem_append.mp member with outer | here
      · exact light other outer
      · rw [List.mem_singleton.mp here]
        exact own)
  rw [Builder.popThrough, split, dropWhile_first accepted others]
  exact closed

/-- Elements whose end tags may be left out are closed. -/
theorem closeImplied (sound : Sound v b) (except : String) : Sound v (b.closeImplied except) := by
  let implied (id : Nat) : Bool := b.isOneOf impliedEnds id && !b.isNamed except id
  refine sound.closeLight (List.takeWhile_append_dropWhile (p := implied)).symm ?_
  intro id member
  have chosen : implied id = true := List.mem_takeWhile_imp member
  have inside : id ∈ b.opened := (List.takeWhile_prefix _).subset member
  exact sound.light_implied inside (Bool.and_eq_true_iff.mp chosen).1

/-- Elements are closed up to and with one that is found, after those whose end tags may be left
out. -/
theorem closeThrough (sound : Sound v b) {above below : List Nat} {id : Nat}
    (split : b.opened = above ++ id :: below) (light : ∀ other ∈ above, b.sketch.Light other)
    (own : b.sketch.Light id) (except : String)
    (stays : b.isOneOf impliedEnds id = true → b.isNamed except id = true)
    {last : Nat → Bool} (accepted : last id = true)
    (others : ∀ other ∈ above, last other = false) :
    Sound v ((b.closeImplied except).popThrough last) := by
  obtain ⟨left, suffix, same⟩ := dropWhile_split
    (p := fun id => b.isOneOf impliedEnds id && !b.isNamed except id)
    (by
      cases implied : b.isOneOf impliedEnds id with
      | true => simp [stays implied]
      | false => rfl)
  rw [← split] at same
  exact (sound.closeImplied except).popThrough same
    (fun other member => light other (suffix.subset member)) own accepted
    (fun other member => others other (suffix.subset member))

/-- What a search with the default bounds finds has only plain elements above it, unless a selection
is open. -/
theorem found_light (sound : Sound v b) (free : v.kinds.head? ≠ some "select") {ends wanted : Nat → Bool}
    (found : b.inScope ends wanted = true) (bounded : ∀ id, b.endsScope id = true → ends id = true)
    (light : ∀ id ∈ b.opened, wanted id = true → b.sketch.Light id) :
    ∃ above id below, b.opened = above ++ id :: below ∧ wanted id = true ∧ b.sketch.Light id ∧
      ∀ other ∈ above, wanted other = false ∧ b.sketch.Light other := by
  obtain ⟨above, id, below, split, accepted, others⟩ := scope_split found
  have own := light id (by simp [split]) accepted
  refine ⟨above, id, below, split, accepted, own, ?_⟩
  intro other member
  refine ⟨(others other member).1, ?_⟩
  apply sound.stack.above_light split own _ free other member
  intro other member
  apply kind_of_scope
  by_contra ends_here
  have ended := bounded other (by simpa using ends_here)
  rw [(others other member).2] at ended
  cases ended

/-- An element that is found in scope is closed. -/
theorem closeScoped (sound : Sound v b) (free : v.kinds.head? ≠ some "select")
    {ends wanted : Nat → Bool} (found : b.inScope ends wanted = true)
    (bounded : ∀ id, b.endsScope id = true → ends id = true) (except : String)
    (plain : ∀ id, wanted id = true → ∃ name, b.sketch.nameOf id = (.html, name) ∧
      isPlain .html name = true ∧ (name ∈ impliedEnds → name = except)) :
    Sound v ((b.closeImplied except).popThrough wanted) := by
  obtain ⟨above, id, below, split, accepted, own, others⟩ := sound.found_light free found bounded (by
    intro id member accepted
    obtain ⟨name, named, plain, _⟩ := plain id accepted
    exact sound.light_named member named plain)
  refine sound.closeThrough split (fun other member => (others other member).2) own except ?_
    accepted fun other member => (others other member).1
  intro implied
  obtain ⟨name, named, _, kept⟩ := plain id accepted
  obtain ⟨name', member, named'⟩ := isOneOf_iff.mp implied
  rw [named] at named'
  obtain rfl : name = name' := (Prod.mk.inj named').2
  rw [isNamed_iff, named, kept member]

/-- An element of the name that is found in scope is closed. -/
theorem closeNamed (sound : Sound v b) (free : v.kinds.head? ≠ some "select")
    {ends : Nat → Bool} {name : String} (found : b.inScope ends (b.isNamed name) = true)
    (bounded : ∀ id, b.endsScope id = true → ends id = true) (except : String)
    (plain : isPlain .html name = true) (kept : name ∈ impliedEnds → name = except) :
    Sound v ((b.closeImplied except).popNamed name) :=
  sound.closeScoped free found bounded except fun _ accepted =>
    ⟨name, isNamed_iff.mp accepted, plain, kept⟩

theorem closeOpenParagraph (sound : Sound v b) (free : v.kinds.head? ≠ some "select") :
    Sound v b.closeOpenParagraph := by
  unfold Builder.closeOpenParagraph
  split
  · next found =>
    refine sound.closeNamed free found ?_ "p" (by decide) fun _ => rfl
    intro id ends
    rw [endsButtonScope, ends]
    rfl
  · exact sound

/-- Special elements that end a search are passed by no structural element. -/
theorem light_of_not_special (sound : Sound v b) {above below : List Nat} {id : Nat}
    (split : b.opened = above ++ id :: below) (ordinary : b.sketch.isOrdinary id = true)
    (plain : ∀ other ∈ above, b.isOneOf structural other = false) :
    ∀ other ∈ above, b.sketch.Light other := by
  obtain ⟨left, each, _⟩ := sound.stack.above_ordinary split ordinary
  intro other member
  refine ⟨(each other (by simp [member])).1, ?_⟩
  rw [← Option.not_isSome_iff_eq_none]
  intro there
  obtain ⟨n, found⟩ := Option.isSome_iff_exists.mp there
  obtain ⟨named, known⟩ := kind_eq_some.mp found
  have structure_found : b.isOneOf structural other = true := isOneOf_iff.mpr ⟨n, known, named⟩
  rw [plain other member] at structure_found
  cases structure_found

/-- The end tag of an element without rules of its own closes it, unless it is the innermost
structural element. -/
theorem closeAny (sound : Sound v b) {name : String} (apart : v.kinds.head? ≠ some name)
    (unframed : name ∉ ["html", "head", "body"]) : Sound v (b.closeAny name) := by
  unfold Builder.closeAny
  split
  · next id first =>
    split
    · next accepted =>
      obtain ⟨_, above, below, split, others⟩ := List.find?_eq_some_iff_append.mp first
      have passed : ∀ other ∈ above, b.isNamed name other = false ∧
          b.isOneOf special other = false := by
        intro other member
        simpa using others other member
      have named := isNamed_iff.mp accepted
      have member : id ∈ b.opened := by simp [split]
      have plain_above : ∀ other ∈ above, b.isOneOf structural other = false := by
        intro other member
        rw [← Bool.not_eq_true]
        intro structure_found
        obtain ⟨n, known, named⟩ := isOneOf_iff.mp structure_found
        have ended : b.isOneOf special other = true := by
          refine isOneOf_iff.mpr ⟨n, ?_, named⟩
          fin_cases known <;> decide
        rw [(passed other member).2] at ended
        cases ended
      have ordinary : b.sketch.isOrdinary id = true := by
        obtain ⟨space, name', contents, outline⟩ :=
          outline_of_element (sound.stack.elements id member)
        rw [nameOf_of_outline outline] at named
        obtain ⟨rfl, rfl⟩ := Prod.mk.inj named
        rw [isOrdinary, outline]
        simp [SketchKind.isOrdinary] at unframed ⊢
        tauto
      have light := sound.light_of_not_special split ordinary plain_above
      have own : b.sketch.Light id := by
        refine ⟨ordinary, ?_⟩
        rw [← Option.not_isSome_iff_eq_none]
        intro there
        obtain ⟨n, found⟩ := Option.isSome_iff_exists.mp there
        obtain ⟨named', known⟩ := kind_eq_some.mp found
        rw [named] at named'
        obtain rfl : name = n := (Prod.mk.inj named').2
        apply apart
        rw [← sound.stack.kinds, split, List.filterMap_append, List.filterMap_cons_some found,
          List.filterMap_eq_nil_iff.mpr fun other member => (light other member).2]
        rfl
      have distinct : id ∉ above := by
        intro inside
        have nodup := sound.stack.nodup
        rw [split] at nodup
        exact (List.nodup_append.mp nodup).2.2 id inside id List.mem_cons_self rfl
      refine sound.closeThrough split light own name (fun _ => accepted) (by simp) ?_
      intro other outer
      rw [beq_eq_false_iff_ne]
      exact fun same => distinct (same ▸ outer)
    · exact sound
  · exact sound

theorem closeAny_sketch (b : Builder) (name : String) : (b.closeAny name).sketch = b.sketch := by
  unfold Builder.closeAny
  split
  · split <;> rfl
  · rfl

/-- In place of an open element that is not structural there are other such elements. -/
theorem substitute (sound : Sound v b) {id : Nat} {new : List Nat}
    (old : id ∈ b.opened → b.sketch.Light id)
    (light : ∀ other ∈ new, b.sketch.Light other ∧ (b.sketch.elementName? other).isSome = true ∧
      (b.sketch.nameOf other = (.html, "frameset") → v.stage.isFrames = true))
    (distinct : new.Nodup) (fresh : ∀ other ∈ new, other ∈ b.opened → other = id) :
    Sound v { b with opened := b.opened.flatMap fun o => if o = id then new else [o] } := by
  have kept : ∀ l : List Nat, id ∉ l → (l.flatMap fun o => if o = id then new else [o]) = l := by
    intro l absent
    have each : ∀ o ∈ l, (if o = id then new else [o]) = [o] := by
      intro o inside
      exact if_neg fun same : o = id => absent (same ▸ inside)
    rw [List.flatMap_congr each, List.flatMap_singleton']
  by_cases member : id ∈ b.opened
  · obtain ⟨above, below, split⟩ := List.append_of_mem member
    have nodup := sound.stack.nodup
    have stack := sound.stack
    rw [split] at nodup stack
    obtain ⟨above_nodup, inner, apart⟩ := List.nodup_append.mp nodup
    obtain ⟨absent, below_nodup⟩ := List.nodup_cons.mp inner
    have outside : id ∉ above := fun inside => apart id inside id List.mem_cons_self rfl
    have whole : (b.opened.flatMap fun o => if o = id then new else [o]) =
        above ++ (new ++ below) := by
      rw [split, List.flatMap_append, List.flatMap_cons, kept above outside, kept below absent,
        if_pos rfl]
    rw [whole]
    refine sound.withStack (stack.edit (old member) light ?_) rfl
    rw [List.nodup_append, List.nodup_append]
    refine ⟨above_nodup, ⟨distinct, below_nodup, ?_⟩, ?_⟩
    · intro other added o inside same
      have here := fresh other added (by simp [split, same, inside])
      exact absent (here ▸ same ▸ inside)
    · intro o inside other later same
      rcases List.mem_append.mp later with added | outer
      · have here := fresh other added (by simp [split, ← same, inside])
        exact outside (here ▸ same ▸ inside)
      · exact apart o inside other (List.mem_cons_of_mem _ outer) same
  · rw [kept b.opened member]
    exact sound

/-- An element that is not structural is taken out of the stack. -/
theorem unstack (sound : Sound v b) {id : Nat} (light : id ∈ b.opened → b.sketch.Light id) :
    Sound v (b.unstack id) := by
  have erased : b.opened.erase id = b.opened.flatMap fun o => if o = id then [] else [o] := by
    rw [sound.stack.nodup.erase_eq_filter]
    induction b.opened with
    | nil => rfl
    | cons o rest inductionHypothesis =>
      by_cases same : o = id <;> simp [same, inductionHypothesis, List.flatMap_cons]
  rw [Builder.unstack, erased]
  exact sound.substitute light nofun List.nodup_nil nofun

end Sound

end Builder

end Pagefold.Html
