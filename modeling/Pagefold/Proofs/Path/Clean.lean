import Mathlib
import Pagefold.Proofs.Path.Parent

/-!
# Paths with their dots worked out

The components of a path come onto a stack one after the other, and the path is written with what
is on the stack in the end. What is written is read back, so nothing but the stack has to be looked
at. A step up that has no effect is one that the stack does not hold, and a name that is taken away
is taken away by such a step. So a path that goes on with names leads elsewhere.
-/
namespace Pagefold.Path

/-- A component that is written after a lead, or without one. -/
def IsPart (part : Component) : Prop := part = .up ∨ ∃ s, IsName s ∧ part = .name s

/-- Such a component is a piece that stands for it, and a path of its own. -/
theorem part_text (part : Component) (plain : IsPart part) :
    '/' ∉ part.text.toList ∧ isSilent part.text.toList = false ∧
      component part.text.toList = part ∧ read part.text.toList = [part] := by
  rcases plain with rfl | ⟨s, name, rfl⟩
  · exact ⟨by decide, by decide, by decide, by decide⟩
  · obtain ⟨heard, same⟩ := component_of_name s name
    exact ⟨name.whole, heard, same, read_name s name⟩

/-- Components that are written with separators between them stand for themselves. -/
theorem parts_written (list : List Component) (plain : ∀ part ∈ list, IsPart part) :
    parts (['/'].intercalate (list.map (·.text.toList))) = list := by
  have whole : ∀ piece ∈ list.map (·.text.toList), '/' ∉ piece := by
    intro piece member
    obtain ⟨part, inside, rfl⟩ := List.mem_map.mp member
    exact (part_text part (plain part inside)).1
  have heard : (list.map (·.text.toList)).filter (!isSilent ·) = list.map (·.text.toList) := by
    rw [List.filter_eq_self]
    intro piece member
    obtain ⟨part, inside, rfl⟩ := List.mem_map.mp member
    simp [(part_text part (plain part inside)).2.1]
  have same : list.map (component ∘ (·.text.toList)) = list.map id :=
    List.map_congr_left fun part member => (part_text part (plain part member)).2.2.1
  rw [parts_joined _ whole, heard, List.map_map, same, List.map_id]

/-- A path that is written with components after a root has them. -/
theorem ofComponents_rooted (list : List Component) (plain : ∀ part ∈ list, IsPart part) :
    (ofComponents (.root :: list)).components = .root :: list := by
  have letters : (ofComponents (.root :: list)).text.toList =
      '/' :: ['/'].intercalate (list.map (·.text.toList)) := by
    simp [ofComponents, Component.text, Function.comp_def]
  rw [← read_text, letters, read_root, parts_written list plain]

/-- A path that is written with components alone has them. -/
theorem ofComponents_relative (list : List Component) (some : list ≠ [])
    (plain : ∀ part ∈ list, IsPart part) : (ofComponents list).components = list := by
  cases list with
  | nil => exact absurd rfl some
  | cons first rest =>
    have letters : (ofComponents (first :: rest)).text.toList =
        ['/'].intercalate ((first :: rest).map (·.text.toList)) := by
      unfold ofComponents
      split
      · next same =>
        rcases plain .root (same ▸ List.mem_cons_self) with up | ⟨s, _, name⟩
        · cases up
        · cases name
      · simp [Function.comp_def]
    obtain ⟨_, heard, _, alone⟩ := part_text first (plain first List.mem_cons_self)
    rw [← read_text, letters, List.map_cons]
    by_cases last : rest = []
    · rw [last, List.map_nil, List.intercalate_singleton, alone]
    · have nonempty : first.text.toList ≠ [] := by
        intro empty
        rw [empty] at heard
        cases heard
      rw [List.intercalate_cons_of_ne_nil (by simpa using last), List.append_assoc,
        List.singleton_append, read_append _ _ nonempty, alone,
        parts_written rest fun part member => plain part (List.mem_cons_of_mem _ member)]
      rfl

/-- A path that is written with parts alone, after a lead. -/
theorem ofComponents_plain (list : List Component) (plain : ∀ part ∈ list, IsPart part) :
    ofComponents list = ⟨"/".intercalate (list.map Component.text)⟩ := by
  unfold ofComponents
  split
  · next rest =>
    rcases plain .root List.mem_cons_self with up | ⟨s, _, name⟩
    · cases up
    · cases name
  · rfl

/-- Only names and steps up come after the lead of a path. -/
theorem part_form (body : List Char) (part : Component) (member : part ∈ parts body) :
    part = .up ∨ ∃ s, part = .name s := by
  simp only [parts, List.mem_map] at member
  obtain ⟨piece, _, rfl⟩ := member
  unfold component
  split
  · exact Or.inl rfl
  · exact Or.inr ⟨_, rfl⟩

/-- What can be on the stack: components of a body, and below them the root or nothing. -/
def IsStack (stack : List Component) : Prop :=
  ∃ body, (∀ part ∈ body, IsPart part) ∧ (stack = body ++ [.root] ∨ stack = body)

theorem push_stack {stack : List Component} (held : IsStack stack) {part : Component}
    (plain : IsPart part) : IsStack (push stack part) := by
  obtain ⟨body, all, bottom⟩ := held
  rcases plain with rfl | ⟨s, name, rfl⟩
  · cases body with
    | nil =>
      rcases bottom with rfl | rfl
      · exact ⟨[], by simp, Or.inl rfl⟩
      · exact ⟨[.up], by simp [IsPart], Or.inr rfl⟩
    | cons top rest =>
      have later : ∀ part ∈ rest, IsPart part := fun part member =>
        all part (List.mem_cons_of_mem _ member)
      rcases all top List.mem_cons_self with rfl | ⟨s, name, rfl⟩
      · refine ⟨.up :: .up :: rest, ?_, by rcases bottom with rfl | rfl <;> simp [push]⟩
        simpa [IsPart] using later
      · exact ⟨rest, later, by rcases bottom with rfl | rfl <;> simp [push]⟩
  · refine ⟨.name s :: body, ?_, by rcases bottom with rfl | rfl <;> simp [push]⟩
    intro part member
    rcases List.mem_cons.mp member with rfl | below
    · exact Or.inr ⟨s, name, rfl⟩
    · exact all part below

/-- The components of a path are a lead, and components of a body. -/
theorem components_lead (p : Path) :
    ∃ lead body, p.components = lead ++ body ∧ (lead = [] ∨ lead = [.root] ∨ lead = [.here]) ∧
      ∀ part ∈ body, IsPart part := by
  refine ⟨p.split.1.toList, _, p.components_split, ?_, ?_⟩
  · rcases p.split_lead with plain | rooted | here
    · simp [plain]
    · simp [rooted]
    · simp [here]
  · intro part member
    obtain ⟨piece, inside, rfl⟩ := List.mem_map.mp member
    have alone := pieces_slashless piece (p.split_whole piece (List.mem_filter.mp inside).1)
    have only : parts piece = [component piece] := by
      simp [parts, alone, (List.mem_filter.mp inside).2]
    have form := part_form piece (component piece) (only ▸ List.mem_cons_self)
    rcases form with up | ⟨s, named⟩
    · exact Or.inl up
    · refine Or.inr ⟨s, part_name piece s ?_, named⟩
      rw [only, named]
      exact List.mem_cons_self

/-- The components of a path end up on a stack. -/
theorem stack_components (p : Path) : IsStack (p.components.foldl push []) := by
  obtain ⟨lead, body, form, bottom, plain⟩ := p.components_lead
  have start : IsStack (lead.foldl push []) := by
    rcases bottom with rfl | rfl | rfl
    · exact ⟨[], by simp, Or.inr rfl⟩
    · exact ⟨[], by simp, Or.inl rfl⟩
    · exact ⟨[], by simp, Or.inr rfl⟩
  rw [form, List.foldl_append]
  generalize lead.foldl push [] = stack at start
  clear form
  induction body generalizing stack with
  | nil => exact start
  | cons part rest inductionHypothesis =>
    exact inductionHypothesis (fun other member => plain other (List.mem_cons_of_mem _ member)) _
      (push_stack start (plain part List.mem_cons_self))

/-- A path with its dots worked out has the components on the stack, or is a dot. -/
theorem clean_exact (p : Path) :
    p.clean.components =
      if p.components.foldl push [] = [] then [.here]
      else (p.components.foldl push []).reverse := by
  obtain ⟨body, plain, bottom⟩ := p.stack_components
  have above : ∀ part ∈ body.reverse, IsPart part := fun part member =>
    plain part (List.mem_reverse.mp member)
  rw [clean]
  rcases bottom with rooted | free
  · simp [rooted, ofComponents_rooted _ above]
  · rw [free]
    split
    · next empty =>
      rw [if_pos (List.reverse_eq_nil_iff.mp empty)]
      rfl
    · next some =>
      have nonempty : body ≠ [] := fun empty => some (List.reverse_eq_nil_iff.mpr empty)
      rw [if_neg nonempty, ofComponents_relative _ (by simpa using nonempty) above]

/-- Names come onto a stack one after the other. -/
theorem push_names (names : List String) (stack : List Component) :
    (names.map Component.name).foldl push stack = (names.map Component.name).reverse ++ stack := by
  induction names generalizing stack with
  | nil => rfl
  | cons s rest inductionHypothesis => simp [push, inductionHypothesis]

/-- Working out the dots of a path that has none keeps its components. -/
theorem clean_components (p : Path) (names : List String)
    (normal : p.components = .root :: names.map .name) :
    p.clean.components = .root :: names.map .name := by
  have bottom : push [] .root = [.root] := rfl
  rw [clean_exact, normal, List.foldl_cons, bottom, push_names]
  simp

/-- The names among the components of a path. -/
def namesOf (p : Path) : List String :=
  p.components.filterMap fun part =>
    match part with
    | .name s => some s
    | _ => none

/-- Components that are all names are these names. -/
theorem names_only (list : List Component) (all : ∀ part ∈ list, ∃ s, part = .name s) :
    (list.filterMap fun part =>
      match part with
      | .name s => some s
      | _ => none).map .name = list := by
  induction list with
  | nil => rfl
  | cons part rest inductionHypothesis =>
    obtain ⟨s, rfl⟩ := all part List.mem_cons_self
    simpa using inductionHypothesis fun other member =>
      all other (List.mem_cons_of_mem _ member)

/-- A path that only goes down is relative, and stands for its names. -/
theorem parts_descending (p : Path)
    (descending : ∀ part ∈ p.components, part ≠ .root ∧ part ≠ .up) :
    p.isAbsolute = false ∧ parts p.text.toList = p.namesOf.map .name := by
  have onlyNames : ∀ body, (∀ part ∈ parts body, part ∈ p.components) →
      ∀ part ∈ parts body, ∃ s, part = .name s := by
    intro body inside part member
    rcases part_form body part member with up | name
    · exact absurd up (descending part (inside part member)).2
    · exact name
  rw [namesOf]
  rw [← read_text] at descending onlyNames ⊢
  simp only [isAbsolute]
  generalize p.text.toList = letters at descending onlyNames ⊢
  by_cases slash : ∃ body, letters = '/' :: body
  · obtain ⟨body, rfl⟩ := slash
    rw [read_root] at descending
    exact absurd rfl (descending .root List.mem_cons_self).1
  · have relative : (letters.head? == some '/') = false := by
      rw [beq_eq_false_iff_ne]
      intro first
      obtain ⟨rest, same⟩ := List.head?_eq_some_iff.mp first
      exact slash ⟨rest, same⟩
    refine ⟨relative, ?_⟩
    by_cases here : letters = ['.']
    · rw [here, read_here]
      rfl
    · by_cases below : ∃ body, letters = '.' :: '/' :: body
      · obtain ⟨body, rfl⟩ := below
        rw [read_below_here] at onlyNames ⊢
        have split : parts ('.' :: '/' :: body) = parts body := parts_append ['.'] body
        rw [split, List.filterMap_cons_none rfl, names_only (parts body)
          (onlyNames body fun part member => List.mem_cons_of_mem _ member)]
      · push Not at slash below
        rw [read_plain letters slash here below] at onlyNames ⊢
        rw [names_only (parts letters) (onlyNames letters fun part member => member)]

/-- A character stands in a path that only goes down if it stands in one of its names, unless it is
a separator or a dot. -/
theorem mem_descending (p : Path)
    (descending : ∀ part ∈ p.components, part ≠ .root ∧ part ≠ .up) (c : Char)
    (separator : c ≠ '/') (dot : c ≠ '.') :
    c ∈ p.text.toList ↔ ∃ s ∈ p.namesOf, c ∈ s.toList := by
  have names : parts p.text.toList = p.namesOf.map .name := (p.parts_descending descending).2
  constructor
  · intro member
    obtain ⟨piece, inside, held⟩ := (Text.mem_pieces '/' c separator _).mp member
    have heard : isSilent piece = false := by
      simp only [isSilent, Bool.or_eq_false_iff, beq_eq_false_iff_ne]
      constructor <;> rintro rfl <;> simp [dot] at held
    have form : component piece = .name (String.ofList piece) := by
      have notUp : piece ≠ ['.', '.'] := by
        rintro rfl
        simp [dot] at held
      simp [component, notUp]
    have part : component piece ∈ parts p.text.toList :=
      List.mem_map_of_mem (List.mem_filter.mpr ⟨inside, by simpa using heard⟩)
    rw [names, form] at part
    exact ⟨_, by simpa using part, by simpa using held⟩
  · rintro ⟨s, named, held⟩
    have part : .name s ∈ parts p.text.toList := names ▸ List.mem_map_of_mem named
    exact (part_letters _ s part).subset held

section Joined

variable {names : List String} (plain : ∀ s ∈ names, IsName s)

include plain

/-- Names that are joined by separators are the pieces of the text. -/
theorem joined_pieces (some : names ≠ []) :
    Text.pieces (· == '/') ("/".intercalate names).toList = names.map String.toList := by
  have letters : ("/".intercalate names).toList = ['/'].intercalate (names.map String.toList) := by
    rw [String.toList_intercalate]
    rfl
  rw [letters]
  refine Text.pieces_of_joined '/' _ (by simpa using some) fun piece member => ?_
  obtain ⟨s, inside, rfl⟩ := List.mem_map.mp member
  exact (plain s inside).whole

/-- Names that are joined by separators are not empty. -/
theorem joined_filled (some : names ≠ []) : "/".intercalate names ≠ "" := by
  intro empty
  have first : [] ∈ names.map String.toList := by
    rw [← joined_pieces plain some, empty]
    exact List.mem_cons_self
  obtain ⟨s, inside, none⟩ := List.mem_map.mp first
  exact (plain s inside).nonempty (by simpa using none)

/-- Names that are joined by separators are a path that only goes down by them. -/
theorem joined_descending (some : names ≠ []) :
    (∀ part ∈ (⟨"/".intercalate names⟩ : Path).components, part ≠ .root ∧ part ≠ .up) ∧
      (⟨"/".intercalate names⟩ : Path).namesOf = names := by
  have parts : ∀ part ∈ names.map Component.name, IsPart part := by
    intro part member
    obtain ⟨s, inside, rfl⟩ := List.mem_map.mp member
    exact Or.inr ⟨s, plain s inside, rfl⟩
  have components : (⟨"/".intercalate names⟩ : Path).components = names.map .name := by
    have written := ofComponents_plain (names.map .name) parts
    rw [← ofComponents_relative (names.map .name) (by simpa using some) parts, written,
      List.map_map]
    congr 3
    exact (List.map_id names).symm
  rw [namesOf, components]
  refine ⟨?_, by simp [List.filterMap_map]⟩
  intro part member
  obtain ⟨s, _, rfl⟩ := List.mem_map.mp member
  simp

end Joined

section Entries

/-- An entry of a directory that is written after a lead, with parts that have separators between
them. -/
theorem child_written (lead : String) (texts : List String) {s : String} (name : IsName s)
    (whole : ∀ text ∈ texts, text ≠ "" ∧ '/' ∉ text.toList)
    (start : lead = "/" ∨ lead = "" ∧ texts ≠ []) :
    (⟨lead ++ "/".intercalate texts⟩ : Path).child s =
      ⟨lead ++ "/".intercalate (texts ++ [s])⟩ := by
  have relative : (⟨s⟩ : Path).isAbsolute = false := by
    simp only [isAbsolute, beq_eq_false_iff_ne]
    intro rooted
    exact name.whole (List.mem_of_head? rooted)
  by_cases none : texts = []
  · rcases start with rfl | ⟨_, some⟩
    · rw [none, child, join, relative]
      rfl
    · exact absurd none some
  · obtain ⟨before, last, split⟩ : ∃ before last, texts = before ++ [last] :=
      ⟨_, _, (List.dropLast_append_getLast none).symm⟩
    obtain ⟨nonempty, unslashed⟩ := whole last (split ▸ List.mem_append_right before List.mem_cons_self)
    have letters : last.toList ≠ [] := by simpa using nonempty
    obtain ⟨first, ending⟩ : ∃ first : String, lead ++ "/".intercalate texts = first ++ last := by
      rw [split]
      by_cases first : before = []
      · exact ⟨lead, by simp [first]⟩
      · refine ⟨lead ++ "/".intercalate before ++ "/", ?_⟩
        rw [String.intercalate_append_of_ne_nil first (List.cons_ne_nil _ _),
          String.intercalate_singleton]
        simp only [String.append_assoc]
    have unended : (lead ++ "/".intercalate texts).toList.getLast?.all (· == '/') = false := by
      rw [ending, String.toList_append, List.getLast?_append_of_ne_nil _ letters,
        List.getLast?_eq_getLast_of_ne_nil letters, Option.all_some, beq_eq_false_iff_ne]
      intro slash
      exact unslashed (slash ▸ List.getLast_mem letters)
    rw [child, join, relative, unended, String.intercalate_append_of_ne_nil none (List.cons_ne_nil _ _),
      String.intercalate_singleton]
    simp [String.append_assoc]

/-- No dot is left on a stack. -/
theorem stack_hereless {stack : List Component} (held : IsStack stack) : .here ∉ stack := by
  obtain ⟨body, plain, bottom⟩ := held
  have above : Component.here ∉ body := by
    intro member
    rcases plain .here member with up | ⟨s, _, name⟩
    · cases up
    · cases name
  rcases bottom with rfl | rfl
  · simpa using above
  · exact above

/-- A path that is written with what is on a stack goes on with a name. -/
theorem child_ofComponents (stack : List Component) (held : IsStack stack) (some : stack ≠ [])
    {s : String} (name : IsName s) :
    (ofComponents stack.reverse).child s = ofComponents (stack.reverse ++ [.name s]) := by
  obtain ⟨body, plain, bottom⟩ := held
  have above : ∀ part ∈ body.reverse, IsPart part := fun part member =>
    plain part (List.mem_reverse.mp member)
  have more : ∀ part ∈ body.reverse ++ [.name s], IsPart part := by
    intro part member
    rcases List.mem_append.mp member with old | new
    · exact above part old
    · exact Or.inr ⟨s, name, List.mem_singleton.mp new⟩
  have whole : ∀ text ∈ body.reverse.map Component.text, text ≠ "" ∧ '/' ∉ text.toList := by
    intro text member
    obtain ⟨part, inside, rfl⟩ := List.mem_map.mp member
    obtain ⟨unslashed, heard, _⟩ := part_text part (above part inside)
    refine ⟨fun empty => ?_, unslashed⟩
    rw [empty] at heard
    cases heard
  rcases bottom with rooted | free
  · have written := child_written "/" _ name whole (Or.inl rfl)
    rw [rooted, List.reverse_append]
    simpa [ofComponents, Component.text] using written
  · have filled : body.reverse.map Component.text ≠ [] := by simpa [free] using some
    have written := child_written "" _ name whole (Or.inr ⟨rfl, filled⟩)
    rw [free, ofComponents_plain _ above, ofComponents_plain _ more]
    simpa [Component.text] using written

/-- The names of a path that only goes down come onto a stack one after the other. -/
theorem stack_descending (q : Path)
    (descending : ∀ part ∈ q.components, part ≠ .root ∧ part ≠ .up) (stack : List Component) :
    q.components.foldl push stack = (q.namesOf.map .name).reverse ++ stack := by
  rw [namesOf]
  generalize q.components = parts at descending
  induction parts generalizing stack with
  | nil => rfl
  | cons part rest inductionHypothesis =>
    have later := fun stack => inductionHypothesis stack fun other member =>
      descending other (List.mem_cons_of_mem part member)
    cases part with
    | here => exact later stack
    | name s => simpa [push] using later (.name s :: stack)
    | root => exact absurd rfl (descending .root List.mem_cons_self).1
    | up => exact absurd rfl (descending .up List.mem_cons_self).2

/-- What a path that only goes down adds to the stack of a directory. -/
theorem stack_join (p q : Path) (descending : ∀ part ∈ q.components, part ≠ .root ∧ part ≠ .up) :
    (p.join q).components.foldl push [] =
      (q.namesOf.map .name).reverse ++ p.components.foldl push [] := by
  obtain ⟨relative, below⟩ := q.parts_descending descending
  by_cases empty : p.text = ""
  · have alone : p.join q = q := by simp [join, relative, empty]
    rw [alone, (text_empty_iff p).mp empty, stack_descending q descending]
    rfl
  · rw [components_join p q relative empty, below, List.foldl_append, push_names]

/-- A path that goes down to a directory and then by a name leads to the entry of that name. It is
written in the same way, unless the directory is a dot.

Proof: what is on the stack for the entry is its name and what is on the stack for the directory. -/
theorem clean_join_child (p q entry : Path)
    (dir : ∀ part ∈ q.components, part ≠ .root ∧ part ≠ .up)
    (descending : ∀ part ∈ entry.components, part ≠ .root ∧ part ≠ .up) {s : String}
    (name : IsName s) (names : entry.namesOf = q.namesOf ++ [s]) :
    (p.join entry).clean =
      if (p.join q).clean.text = "." then ⟨s⟩ else (p.join q).clean.child s := by
  have held := (p.join q).stack_components
  have goes : (p.join entry).components.foldl push [] =
      .name s :: (p.join q).components.foldl push [] := by
    rw [stack_join p entry descending, stack_join p q dir, names]
    simp
  have written : (p.join entry).clean =
      ofComponents (((p.join q).components.foldl push []).reverse ++ [.name s]) := by
    rw [clean, goes, List.reverse_cons]
    split
    · next none => simp at none
    · rfl
  rw [written]
  by_cases none : (p.join q).components.foldl push [] = []
  · have dot : (p.join q).clean.text = "." := by simp [clean, none]
    rw [if_pos dot, none]
    rfl
  · have parts : (p.join q).clean = ofComponents ((p.join q).components.foldl push []).reverse := by
      rw [clean]
      split
      · next empty => exact absurd (List.reverse_eq_nil_iff.mp empty) none
      · rfl
    have notDot : (p.join q).clean.text ≠ "." := by
      intro dot
      have components := (p.join q).clean_exact
      have here : (p.join q).clean.components = [.here] := by
        rw [← read_text, dot]
        rfl
      rw [if_neg none, here] at components
      refine stack_hereless held (List.mem_reverse.mp ?_)
      rw [← components]
      exact List.mem_cons_self
    rw [if_neg notDot, parts, child_ofComponents _ held none name]

end Entries

/-- A path that only goes down leads from a normal path to a normal path. -/
theorem clean_join (p q : Path) (names : List String)
    (normal : p.components = .root :: names.map .name)
    (descending : ∀ part ∈ q.components, part ≠ .root ∧ part ≠ .up) :
    (p.join q).clean.components = .root :: (names ++ q.namesOf).map .name := by
  obtain ⟨relative, below⟩ := q.parts_descending descending
  have nonempty : p.text ≠ "" := by
    intro empty
    rw [← read_text, empty] at normal
    cases normal
  apply clean_components
  rw [components_join p q relative nonempty, below, normal, List.map_append]
  rfl

section Counts

/-- How many names there are among components. -/
def nameCount (list : List Component) : Nat := list.countP fun part =>
  match part with
  | .name _ => true
  | _ => false

theorem nameCount_names (names : List String) : nameCount (names.map .name) = names.length := by
  simp [nameCount, List.countP_map, Function.comp_def]

/-- A step onto the stack either keeps what there is and adds itself, or a step up is lost. -/
theorem push_counts (stack : List Component) (part : Component) :
    (push stack part).count .up < stack.count .up + [part].count .up ∨
      ((push stack part).count .up = stack.count .up + [part].count .up ∧
        nameCount (push stack part) = nameCount stack + nameCount [part]) := by
  cases part with
  | up =>
    cases stack with
    | nil => simp [push, nameCount]
    | cons top rest => cases top <;> simp [push, nameCount]
  | _ => simp [push, nameCount]

/-- Names are lost on the way onto a stack only together with steps up.

Proof: by induction on the components. Once a step up is lost, it is missed in the end. -/
theorem stack_counts (list stack : List Component) :
    (list.foldl push stack).count .up < stack.count .up + list.count .up ∨
      ((list.foldl push stack).count .up = stack.count .up + list.count .up ∧
        nameCount (list.foldl push stack) = nameCount stack + nameCount list) := by
  induction list generalizing stack with
  | nil => simp [nameCount]
  | cons part rest inductionHypothesis =>
    have here := push_counts stack part
    have later := inductionHypothesis (push stack part)
    have split : part :: rest = [part] ++ rest := rfl
    have ups : (part :: rest).count .up = [part].count .up + rest.count .up := by
      rw [split, List.count_append]
    have names : nameCount (part :: rest) = nameCount [part] + nameCount rest := by
      rw [nameCount, split, List.countP_append]
      rfl
    rw [List.foldl_cons, ups, names]
    omega

/-- A path that goes down by a name leads elsewhere.

Proof: if it led to the same path, the same steps up would be on the stack as in the path, so no
name would be lost, and the names it goes down by would be too many. -/
theorem clean_join_elsewhere (p q : Path)
    (descending : ∀ part ∈ q.components, part ≠ .root ∧ part ≠ .up)
    (same : ((p.join q).clean == p) = true) : q.namesOf = [] := by
  have written := (beq_iff _ _).mp same
  rw [clean_exact, stack_join p q descending] at written
  split at written
  · next none => simpa using (List.append_eq_nil_iff.mp none).1
  · rw [List.reverse_append, List.reverse_reverse] at written
    have ups := congrArg (List.count .up) written
    have names := congrArg nameCount written
    have reversed : nameCount (p.components.foldl push []).reverse =
        nameCount (p.components.foldl push []) := List.countP_reverse
    have joined : nameCount ((p.components.foldl push []).reverse ++ q.namesOf.map .name) =
        nameCount (p.components.foldl push []).reverse + nameCount (q.namesOf.map .name) :=
      List.countP_append
    have none : (q.namesOf.map Component.name).count .up = 0 := by simp [List.count_eq_zero]
    rw [List.count_append, List.count_reverse, none] at ups
    rw [joined, reversed, nameCount_names] at names
    have empty : nameCount [] = 0 := rfl
    have counted := stack_counts p.components []
    rw [List.count_nil, empty] at counted
    exact List.eq_nil_of_length_eq_zero (by omega)

end Counts

/-!
## How far a relative path climbs

A relative path that is followed from a normal directory first climbs by some names and then goes
down by others. Both are read off its text, whatever directory it is followed from. The path leaves
the directory unless it goes down again by the very names that it climbed.
-/

/-- A way from a directory: by how many names it climbs, and the names by which it then goes down,
the last one first. -/
structure Way where
  ups : Nat := 0
  downs : List String := []
  deriving DecidableEq, Repr

namespace Way

/-- A way that goes on by a component. -/
def step (way : Way) : Component → Way
  | .up =>
    match way.downs with
    | [] => { way with ups := way.ups + 1 }
    | _ :: rest => { way with downs := rest }
  | .name s => { way with downs := s :: way.downs }
  | _ => way

/-- The names from which a way goes down, when it starts at some names. It climbs no further than
to the root. -/
def turn (way : Way) (names : List String) : List String := names.take (names.length - way.ups)

/-- The names that lead from the root to the end of a way. -/
def follow (way : Way) (names : List String) : List String := way.turn names ++ way.downs.reverse

/-- The stack of a way that started at some names. -/
def stack (way : Way) (names : List String) : List Component :=
  way.downs.map .name ++ ((way.turn names).reverse.map .name ++ [.root])

theorem stack_exact (way : Way) (names : List String) :
    (way.stack names).reverse = .root :: (way.follow names).map .name := by
  simp [stack, follow]

/-- A step on a way is a step on its stack. -/
theorem push_stack (way : Way) (names : List String) (part : Component) (plain : IsPart part) :
    push (way.stack names) part = (way.step part).stack names := by
  obtain ⟨ups, downs⟩ := way
  rcases plain with rfl | ⟨s, _, rfl⟩
  · cases downs with
    | cons s rest => rfl
    | nil =>
      simp only [stack, step, turn, List.map_nil, List.nil_append]
      cases kept : names.length - ups with
      | zero =>
        -- The way is at the root already, where a step up has no effect.
        have none : names.length - (ups + 1) = 0 := by omega
        simp [none, push]
      | succ k =>
        have fewer : names.length - (ups + 1) = k := by omega
        have inside : k < names.length := by omega
        have last : names.take (k + 1) = names.take k ++ [names[k]] :=
          (List.take_append_getElem inside).symm
        rw [fewer, last, List.reverse_append]
        rfl
  · rfl

theorem stack_parts (parts : List Component) (way : Way) (names : List String)
    (plain : ∀ part ∈ parts, IsPart part) :
    parts.foldl push (way.stack names) = (parts.foldl step way).stack names := by
  induction parts generalizing way with
  | nil => rfl
  | cons part rest inductionHypothesis =>
    rw [List.foldl_cons, List.foldl_cons, push_stack way names part (plain part List.mem_cons_self)]
    exact inductionHypothesis (way.step part) fun other member =>
      plain other (List.mem_cons_of_mem part member)

/-- A way ends inside the directory from which it starts exactly if it goes down again by the names
that it climbed. -/
theorem follow_inside (way : Way) (names : List String) :
    names <+: way.follow names ↔
      names.drop (names.length - way.ups) <+: way.downs.reverse := by
  have split : way.turn names ++ names.drop (names.length - way.ups) = names :=
    List.take_append_drop _ names
  calc names <+: way.follow names
      ↔ way.turn names ++ names.drop (names.length - way.ups) <+:
          way.turn names ++ way.downs.reverse := by rw [split, follow]
    _ ↔ names.drop (names.length - way.ups) <+: way.downs.reverse :=
      List.prefix_append_right_inj (way.turn names)

end Way

/-- The way that a relative path leads. -/
def way (p : Path) : Way := (parts p.text.toList).foldl Way.step {}

/-- The components of a text without a lead are names and steps up. -/
theorem parts_plain (body : List Char) : ∀ part ∈ parts body, IsPart part := by
  intro part member
  rcases part_form body part member with up | ⟨s, rfl⟩
  · exact Or.inl up
  · exact Or.inr ⟨s, part_name body s member, rfl⟩

/-- A relative path leads from a normal directory to the end of its way. -/
theorem clean_join_way (p q : Path) (names : List String)
    (normal : p.components = .root :: names.map .name) (relative : q.isAbsolute = false) :
    (p.join q).clean.components = .root :: (q.way.follow names).map .name := by
  have nonempty : p.text ≠ "" := p.normal_text ⟨names, normal⟩
  have start : p.components.foldl push [] = ({} : Way).stack names := by
    have bottom : push [] .root = [.root] := rfl
    rw [normal, List.foldl_cons, bottom, push_names]
    simp [Way.stack, Way.turn]
  have stack : (p.join q).components.foldl push [] = q.way.stack names := by
    rw [components_join p q relative nonempty, List.foldl_append, start]
    exact Way.stack_parts _ {} names (parts_plain _)
  have some : q.way.stack names ≠ [] := by simp [Way.stack]
  rw [clean_exact, stack, if_neg some, Way.stack_exact]

/-!
## The last name of a path

A path with its dots worked out is written in one way only. When it is followed from a directory, its
last name is one of its own names, unless nothing is left of them. Then it leads to the directory
itself or to one above it.
-/

/-- Paths with their dots worked out are written alike if they are the same path.

Proof: what is on the stack can be read off the components, because no dot is on it. -/
theorem clean_canonical {p q : Path} (same : (p.clean == q.clean) = true) : p.clean = q.clean := by
  have level : p.components.foldl push [] = q.components.foldl push [] := by
    have written := (beq_iff _ _).mp same
    rw [clean_exact, clean_exact] at written
    have dotless := stack_hereless p.stack_components
    have dotless' := stack_hereless q.stack_components
    split at written <;> split at written
    · next none none' => rw [none, none']
    · next =>
      refine absurd (List.mem_reverse.mp ?_) dotless'
      rw [← written]
      exact List.mem_cons_self
    · next =>
      refine absurd (List.mem_reverse.mp ?_) dotless
      rw [written]
      exact List.mem_cons_self
    · exact List.reverse_inj.mp written
  rw [clean, clean, level]

/-- A stack that came from another one by some components: what is left of the other one, and above it
some of the components and steps up. -/
def Over (list stack current : List Component) : Prop :=
  ∃ above below, current = above ++ below ∧ below <:+ stack ∧
    ∀ part ∈ above, part = .up ∨ part ∈ list

theorem over_push {list stack current : List Component} (came : Over list stack current)
    {part : Component} (member : part ∈ list) : Over list stack (push current part) := by
  obtain ⟨above, below, rfl, left, held⟩ := came
  cases part with
  | here => exact ⟨above, below, rfl, left, held⟩
  | root => exact ⟨.root :: above, below, rfl, left, List.forall_mem_cons.mpr ⟨Or.inr member, held⟩⟩
  | name s =>
    exact ⟨.name s :: above, below, rfl, left, List.forall_mem_cons.mpr ⟨Or.inr member, held⟩⟩
  | up =>
    -- A step up takes away a name from what is above, or else from what is left.
    have stays : ∀ part ∈ Component.up :: above, part = .up ∨ part ∈ list :=
      List.forall_mem_cons.mpr ⟨Or.inl rfl, held⟩
    cases above with
    | nil =>
      cases below with
      | nil => exact ⟨[.up], [], rfl, left, stays⟩
      | cons top rest =>
        cases top with
        | root => exact ⟨[], .root :: rest, rfl, left, held⟩
        | name s => exact ⟨[], rest, rfl, (List.suffix_cons _ _).trans left, held⟩
        | here => exact ⟨[.up], .here :: rest, rfl, left, stays⟩
        | up => exact ⟨[.up], .up :: rest, rfl, left, stays⟩
    | cons top rest =>
      cases top with
      | root => exact ⟨.root :: rest, below, rfl, left, held⟩
      | name s =>
        exact ⟨rest, below, rfl, left, fun part inside => held part (List.mem_cons_of_mem _ inside)⟩
      | here => exact ⟨.up :: .here :: rest, below, rfl, left, stays⟩
      | up => exact ⟨.up :: .up :: rest, below, rfl, left, stays⟩

theorem over_stack {list parts stack current : List Component} (inside : parts ⊆ list)
    (came : Over list stack current) : Over list stack (parts.foldl push current) := by
  induction parts generalizing current with
  | nil => exact came
  | cons part rest inductionHypothesis =>
    obtain ⟨member, later⟩ := List.cons_subset.mp inside
    exact inductionHypothesis later (over_push came member)

/-- A name on top of a stack is one of the components that came onto it, or the stack has lost
components only. -/
theorem top_of_stack {list stack : List Component} {s : String}
    (top : (list.foldl push stack).head? = some (.name s)) :
    .name s ∈ list ∨ list.foldl push stack <:+ stack := by
  have start : Over list stack stack := ⟨[], stack, rfl, List.suffix_rfl, by simp⟩
  obtain ⟨above, below, split, left, held⟩ := over_stack (List.Subset.refl list) start
  rw [split] at top ⊢
  cases above with
  | nil => exact Or.inr left
  | cons part rest =>
    obtain rfl : part = .name s := by simpa using top
    exact Or.inl ((held _ List.mem_cons_self).resolve_left (by simp))

/-- The last name of a path with its dots worked out is on top of the stack. -/
theorem top_of_clean {p : Path} {s : String} (named : p.clean.fileName? = some s) :
    (p.components.foldl push []).head? = some (.name s) := by
  unfold fileName? at named
  split at named
  · next text last =>
    obtain rfl := Option.some.inj named
    rw [clean_exact] at last
    split at last
    · cases last
    · rwa [List.getLast?_reverse] at last
  · cases named

/-- The components of a path that is followed from a directory come after those of the directory, or
stand alone. -/
theorem join_cases (p q : Path) :
    (p.join q).components = q.components ∨
      (p.join q).components = p.components ++ parts q.text.toList := by
  by_cases absolute : q.isAbsolute = true
  · exact Or.inl (by rw [join, if_pos absolute])
  · have relative : q.isAbsolute = false := Bool.eq_false_iff.mpr absolute
    by_cases empty : p.text = ""
    · exact Or.inl (by simp [join, relative, empty])
    · exact Or.inr (components_join p q relative empty)

/-- The last name of a path that is followed from a directory stands in the path, unless it leads to
the directory or to one above it. -/
theorem clean_join_name (p q : Path) {s : String} (named : (p.join q).clean.fileName? = some s) :
    s.toList ⊆ q.text.toList ∨ p.clean.isBelow (p.join q).clean = true := by
  have top := top_of_clean named
  have some : (p.join q).components.foldl push [] ≠ [] := by
    intro none
    rw [none] at top
    cases top
  rcases join_cases p q with alone | after
  · rw [alone] at top some
    rcases top_of_stack top with own | lost
    · exact Or.inl (q.component_letters s own).subset
    · exact absurd (List.suffix_nil.mp lost) some
  · have split : (p.join q).components.foldl push [] =
        (parts q.text.toList).foldl push (p.components.foldl push []) := by
      rw [after, List.foldl_append]
    rw [split] at top
    rcases top_of_stack top with own | lost
    · exact Or.inl (part_letters _ s own).subset
    · rw [← split] at lost
      have below : p.components.foldl push [] ≠ [] := by
        intro none
        rw [none] at lost
        exact some (List.suffix_nil.mp lost)
      refine Or.inr ((isBelow_iff _ _).mpr ?_)
      rw [clean_exact, clean_exact, if_neg some, if_neg below]
      exact List.reverse_prefix.mpr lost

end Pagefold.Path
