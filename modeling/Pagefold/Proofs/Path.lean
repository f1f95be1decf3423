import Mathlib
import Pagefold.Path
import Pagefold.Proofs.Text.Cut

/-!
# Paths by their components

A text that is written after a path and a separator adds its own components to those of the
path, whatever the path looks like. A plain name is one component, so the entries of a directory
are told apart by their names.
-/
namespace Pagefold

/-- A text that is one component below a directory, and is a name there. -/
structure IsName (s : String) : Prop where
  nonempty : s ≠ ""
  notHere : s ≠ "."
  notUp : s ≠ ".."
  whole : '/' ∉ s.toList

namespace Path

theorem beq_iff (p q : Path) : (p == q) = true ↔ p.components = q.components := by
  change (p.components == q.components) = true ↔ _
  exact beq_iff_eq

theorem beq_self (p : Path) : (p == p) = true := (beq_iff p p).mpr rfl

theorem beq_comm (p q : Path) : (p == q) = (q == p) := by
  change (p.components == q.components) = (q.components == p.components)
  exact BEq.comm

theorem beq_trans {p q r : Path} (first : (p == q) = true) (second : (q == r) = true) :
    (p == r) = true := by
  rw [beq_iff] at first second ⊢
  exact first.trans second

theorem isBelow_iff (p base : Path) :
    p.isBelow base = true ↔ base.components <+: p.components :=
  List.isPrefixOf_iff_prefix

theorem isBelow_self (p : Path) : p.isBelow p = true :=
  (isBelow_iff p p).mpr (List.prefix_refl _)

/-- Whether a path lies below another one does not depend on its spelling. -/
theorem isBelow_congr (p q base : Path) (same : (p == q) = true) :
    p.isBelow base = q.isBelow base := by
  rw [isBelow, isBelow, (beq_iff p q).mp same]

/-- The components that a text without a lead stands for. -/
def parts (body : List Char) : List Component :=
  ((Text.pieces (· == '/') body).filter (!isSilent ·)).map component

theorem parts_empty : parts [] = [] := rfl

/-- A separator between two texts separates their components. -/
theorem parts_append (first second : List Char) :
    parts (first ++ '/' :: second) = parts first ++ parts second := by
  simp [parts, Text.pieces_append]

/-- A name is a piece that is a component. -/
theorem component_of_name (s : String) (name : IsName s) :
    isSilent s.toList = false ∧ component s.toList = .name s := by
  have nonempty : s.toList ≠ [] := by simpa using name.nonempty
  have notHere : s.toList ≠ ['.'] := fun same => name.notHere (String.toList_injective same)
  have notUp : s.toList ≠ ['.', '.'] := fun same => name.notUp (String.toList_injective same)
  simp [isSilent, component, nonempty, notHere, notUp]

/-- Letters without a separator are one piece. -/
theorem pieces_slashless (letters : List Char) (whole : '/' ∉ letters) :
    Text.pieces (· == '/') letters = [letters] := by
  apply Text.pieces_whole
  intro c member
  rw [beq_eq_false_iff_ne]
  rintro rfl
  exact whole member

/-- A name stands for itself. -/
theorem parts_name (s : String) (name : IsName s) : parts s.toList = [.name s] := by
  obtain ⟨heard, same⟩ := component_of_name s name
  simp [parts, pieces_slashless s.toList name.whole, heard, same]

/-- The components of the path that is written with some letters. -/
def read (letters : List Char) : List Component := (⟨String.ofList letters⟩ : Path).components

theorem read_text (p : Path) : read p.text.toList = p.components := by
  simp [read]

theorem read_root (body : List Char) : read ('/' :: body) = .root :: parts body := by
  simp [read, components, split, parts]

theorem read_here : read ['.'] = [.here] := rfl

theorem read_below_here (body : List Char) : read ('.' :: '/' :: body) = .here :: parts body := by
  simp [read, components, split, parts, isSilent]

/-- Letters with neither a root nor a leading dot have no lead. -/
theorem read_plain (letters : List Char) (rootless : ∀ body, letters ≠ '/' :: body)
    (notHere : letters ≠ ['.']) (notBelow : ∀ body, letters ≠ '.' :: '/' :: body) :
    read letters = parts letters := by
  have plain : (⟨String.ofList letters⟩ : Path).split = (none, Text.pieces (· == '/') letters) := by
    unfold split
    split <;> simp_all
  simp [read, components, plain, parts]

/-- What is written after a path and a separator adds its components. -/
theorem read_append (first second : List Char) (nonempty : first ≠ []) :
    read (first ++ '/' :: second) = read first ++ parts second := by
  rcases first with _ | ⟨c, first⟩
  · exact absurd rfl nonempty
  · by_cases rooted : c = '/'
    · rw [rooted, List.cons_append, read_root, read_root, parts_append]
      rfl
    · by_cases dotted : c = '.'
      · subst dotted
        rcases first with _ | ⟨d, first⟩
        · exact read_below_here second
        · by_cases slashed : d = '/'
          · rw [slashed, List.cons_append, List.cons_append, read_below_here, read_below_here,
              parts_append]
            rfl
          · rw [read_plain ('.' :: d :: first) (by simp) (by simp) (by simp [slashed]),
              read_plain _ (by simp) (by simp) (by simp [slashed]), parts_append]
      · rw [read_plain (c :: first) (by simp [rooted]) (by simp [dotted]) (by simp [dotted]),
          read_plain _ (by simp [rooted]) (by simp [dotted]) (by simp [dotted]), parts_append]

/-- A name is a relative path of one component. -/
theorem read_name (s : String) (name : IsName s) : read s.toList = [.name s] := by
  rw [← parts_name s name]
  apply read_plain
  · rintro body same
    exact name.whole (by simp [same])
  · intro same
    exact name.notHere (String.toList_injective same)
  · rintro body same
    exact name.whole (by simp [same])

/-- A relative path adds its components to those of the directory that it is seen from. -/
theorem components_join (p q : Path) (relative : q.isAbsolute = false) (nonempty : p.text ≠ "") :
    (p.join q).components = p.components ++ parts q.text.toList := by
  simp only [join, relative, Bool.false_eq_true, if_false]
  split
  · next ended =>
    rw [← read_text, ← read_text, String.toList_append]
    rcases List.eq_nil_or_concat p.text.toList with empty | ⟨before, last, split⟩
    · exact absurd (by simpa using empty) nonempty
    · rw [split, List.concat_eq_append] at ended ⊢
      simp only [List.getLast?_concat, Option.all_some, beq_iff_eq] at ended
      rw [ended, List.append_assoc, List.singleton_append]
      rcases before with _ | ⟨c, before⟩
      · exact read_root _
      · rw [read_append _ _ (List.cons_ne_nil _ _), read_append _ _ (List.cons_ne_nil _ _),
          parts_empty, List.append_nil]
  · rw [← read_text, String.toList_append, String.toList_append]
    have slash : ("/" : String).toList ++ q.text.toList = '/' :: q.text.toList := rfl
    rw [List.append_assoc, slash, read_append _ _ (by simpa using nonempty), read_text]

/-- An entry of a directory has the name after the components of the directory. -/
theorem components_child (p : Path) (s : String) (name : IsName s) :
    (p.child s).components = p.components ++ [.name s] := by
  have relative : (⟨s⟩ : Path).isAbsolute = false := by
    simp only [isAbsolute, beq_eq_false_iff_ne]
    intro rooted
    exact name.whole (List.mem_of_head? rooted)
  by_cases empty : p.text = ""
  · have alone : p.child s = ⟨s⟩ := by simp [child, join, relative, empty]
    have none : p.components = [] := by rw [← read_text, empty]; rfl
    rw [alone, none, List.nil_append, ← read_text, read_name s name]
  · rw [child, components_join p ⟨s⟩ relative empty, parts_name s name]

/-- An entry of a directory has its own name. -/
theorem fileName_child (p : Path) (s : String) (name : IsName s) :
    (p.child s).fileName? = some s := by
  simp [fileName?, components_child p s name]

/-- Entries of one directory with different names are different, however the directory is
spelled. -/
theorem child_injective (p q : Path) (a b : String) (first : IsName a) (second : IsName b)
    (dirs : (p == q) = true) (same : (p.child a == q.child b) = true) : a = b := by
  rw [beq_iff] at dirs same
  rw [components_child p a first, components_child q b second, dirs] at same
  simpa using same

/-- A name among the components of a text is a plain name. -/
theorem part_name (body : List Char) (s : String) (member : .name s ∈ parts body) : IsName s := by
  simp only [parts, List.mem_map, List.mem_filter] at member
  obtain ⟨piece, ⟨inside, heard⟩, same⟩ := member
  have clear := Text.piece_unmarked _ body piece inside
  simp only [isSilent, Bool.not_eq_true', Bool.or_eq_false_iff, beq_eq_false_iff_ne] at heard
  simp only [component, beq_iff_eq] at same
  split at same
  · cases same
  · next notUp =>
    obtain rfl : String.ofList piece = s := by simpa using same
    refine ⟨?_, ?_, ?_, ?_⟩
    · simpa using heard.1
    · intro dot
      exact heard.2 (by simpa using congrArg String.toList dot)
    · intro dots
      exact notUp (by simpa using congrArg String.toList dots)
    · intro slash
      rw [String.toList_ofList] at slash
      simpa using clear '/' slash

/-- The letters of a name among the components of a text stand in the text. -/
theorem part_letters (body : List Char) (s : String) (member : .name s ∈ parts body) :
    s.toList <:+: body := by
  simp only [parts, List.mem_map, List.mem_filter] at member
  obtain ⟨piece, ⟨inside, _⟩, same⟩ := member
  simp only [component, beq_iff_eq] at same
  split at same
  · cases same
  · obtain rfl : String.ofList piece = s := by simpa using same
    rw [String.toList_ofList]
    have joined := Text.infix_joined '/' _ piece inside
    rwa [Text.pieces_joined] at joined

/-- The components of a path are a lead, if there is one, and those of a text at its end. -/
theorem components_form (p : Path) :
    ∃ lead body, p.components = lead ++ parts body ∧ body <:+ p.text.toList ∧
      ∀ s, .name s ∉ lead := by
  rw [← read_text]
  generalize p.text.toList = letters
  by_cases rooted : ∃ body, letters = '/' :: body
  · obtain ⟨body, rfl⟩ := rooted
    exact ⟨[.root], body, read_root body, List.suffix_cons _ _, by simp⟩
  · by_cases here : letters = ['.']
    · exact ⟨[.here], [], by rw [here, read_here, parts_empty]; rfl, List.nil_suffix, by simp⟩
    · by_cases below : ∃ body, letters = '.' :: '/' :: body
      · obtain ⟨body, rfl⟩ := below
        exact ⟨[.here], body, read_below_here body,
          (List.suffix_cons _ _).trans (List.suffix_cons _ _), by simp⟩
      · push Not at rooted below
        exact ⟨[], letters, read_plain letters rooted here below, List.suffix_rfl, by simp⟩

/-- A name among the components of a path is a plain name. -/
theorem component_name (p : Path) (s : String) (member : .name s ∈ p.components) : IsName s := by
  obtain ⟨lead, body, form, _, nameless⟩ := p.components_form
  rw [form, List.mem_append] at member
  rcases member with first | second
  · exact absurd first (nameless s)
  · exact part_name body s second

/-- The letters of a name among the components of a path stand in its text. -/
theorem component_letters (p : Path) (s : String) (member : .name s ∈ p.components) :
    s.toList <:+: p.text.toList := by
  obtain ⟨lead, body, form, inside, nameless⟩ := p.components_form
  rw [form, List.mem_append] at member
  exact (part_letters body s (member.resolve_left (nameless s))).trans inside.isInfix

/-- The name of the last component is a plain name. -/
theorem fileName_name (p : Path) (s : String) (named : p.fileName? = some s) : IsName s := by
  unfold fileName? at named
  split at named
  · next last =>
    rw [Option.some.injEq] at named
    exact named ▸ p.component_name _ (List.mem_of_getLast? last)
  · cases named

/-- The letters of an extension stand in the name of the last component. -/
theorem extension_name (p : Path) (s : String) (extended : p.extension? = some s) :
    ∃ name, p.fileName? = some name ∧ s.toList ⊆ name.toList := by
  simp only [extension?, Option.bind_eq_some_iff] at extended
  obtain ⟨name, named, ending⟩ := extended
  refine ⟨name, named, fun c member => ?_⟩
  unfold extensionOf at ending
  split at ending
  · cases ending
  · next after _ _ found =>
    rw [Option.some.injEq] at ending
    obtain ⟨_, split, _, _⟩ := Text.cut_split _ _ _ _ found
    rw [← ending, String.toList_ofList, List.mem_reverse] at member
    rw [← List.mem_reverse, split]
    exact List.mem_append_left _ member
  · cases ending

/-- An extension holds no separator. -/
theorem extension_whole (p : Path) (s : String) (extended : p.extension? = some s) :
    '/' ∉ s.toList := by
  obtain ⟨name, named, inside⟩ := p.extension_name s extended
  exact fun slash => (p.fileName_name name named).whole (inside slash)

/-- The letters of an extension stand in the text of the path. -/
theorem extension_letters (p : Path) (s : String) (extended : p.extension? = some s) :
    s.toList ⊆ p.text.toList := by
  obtain ⟨name, named, inside⟩ := p.extension_name s extended
  unfold fileName? at named
  split at named
  · next last =>
    obtain rfl := Option.some.inj named
    exact List.Subset.trans inside (p.component_letters _ (List.mem_of_getLast? last)).subset
  · cases named

end Path

end Pagefold
