import Mathlib
import Pagefold.Proofs.Path

/-!
# Parents of paths

The parent of a path has the same components but for the last one, whatever the path looks like;
only the root and the empty path have none. So two spellings of one path have one parent, and the
directories above a path are found by taking components away.
-/
namespace Pagefold.Path

/-- Pieces that are joined by separators are the pieces of the joined text. -/
theorem parts_joined (pieces : List (List Char)) (whole : ∀ piece ∈ pieces, '/' ∉ piece) :
    parts (['/'].intercalate pieces) = (pieces.filter (!isSilent ·)).map component := by
  by_cases none : pieces = []
  · rw [none]
    rfl
  · rw [parts, Text.pieces_of_joined '/' pieces none whole]

/-- The letters of pieces that are joined after a lead. -/
theorem joined_letters (lead : String) (pieces : List (List Char)) :
    (lead ++ "/".intercalate (pieces.map String.ofList)).toList =
      lead.toList ++ ['/'].intercalate pieces := by
  rw [String.toList_append, String.toList_intercalate, List.map_map]
  have same : pieces.map (String.toList ∘ String.ofList) = pieces := by
    simp [Function.comp_def]
  rw [same]
  rfl

section Split

variable (p : Path)

/-- What a path is written with before its first piece. -/
def leadText : String := (p.split.1.map Component.text).getD ""

/-- The components of a path are its lead, and its pieces but for the silent ones. -/
theorem components_split :
    p.components = p.split.1.toList ++ (p.split.2.filter (!isSilent ·)).map component := rfl

/-- A path has a root or a leading dot as its lead, or none. -/
theorem split_lead : p.split.1 = none ∨ p.split.1 = some .root ∨ p.split.1 = some .here := by
  unfold split
  split <;> simp

/-- A path without a lead does not start with a separator. -/
theorem split_rootless (plain : p.leadText = "") (body : List Char) :
    p.text.toList ≠ '/' :: body := by
  intro rooted
  simp [leadText, split, rooted, Component.text] at plain

/-- A path is written as its lead, and then its pieces with separators between them. -/
theorem split_letters : p.text.toList = p.leadText.toList ++ ['/'].intercalate p.split.2 := by
  unfold leadText split
  split
  · next body rooted =>
    simp [rooted, Text.pieces_joined, Component.text]
  · next here =>
    simp [here, Component.text]
  · next body below =>
    have more := Text.pieces_nonempty (· == '/') body
    simp [below, List.intercalate_cons_of_ne_nil more, Text.pieces_joined, Component.text]
  · simp [Text.pieces_joined]

/-- No piece of a path holds a separator. -/
theorem split_whole (piece : List Char) (member : piece ∈ p.split.2) : '/' ∉ piece := by
  intro slash
  have clear : ∀ body, piece ∈ Text.pieces (· == '/') body → False := fun body inside =>
    absurd (Text.piece_unmarked _ body piece inside '/' slash) (by simp)
  unfold split at member
  split at member
  · exact clear _ member
  · simp only [List.mem_singleton] at member
    simp [member] at slash
  · rcases List.mem_cons.mp member with rfl | inside
    · cases slash
    · exact clear _ inside
  · exact clear _ member

/-- The lead stands for itself. -/
theorem read_lead : read p.leadText.toList = p.split.1.toList := by
  rcases p.split_lead with plain | rooted | here
  · simp only [leadText, plain]
    rfl
  · simp only [leadText, rooted]
    rfl
  · simp only [leadText, here]
    rfl

end Split

/-- Pieces are those that are left when the silent ones at the start are dropped, and silent
ones. -/
theorem reverse_dropWhile (pieces : List (List Char)) :
    ∃ silent : List (List Char), (∀ s ∈ silent, isSilent s = true) ∧
      pieces.reverse = (pieces.dropWhile isSilent).reverse ++ silent := by
  refine ⟨(pieces.takeWhile isSilent).reverse, ?_, ?_⟩
  · intro s member
    exact List.mem_takeWhile_imp (List.mem_reverse.mp member)
  · rw [← List.reverse_append, List.takeWhile_append_dropWhile]

/-- Silent pieces stand for nothing. -/
theorem filter_silent (silent : List (List Char)) (all : ∀ s ∈ silent, isSilent s = true) :
    silent.filter (!isSilent ·) = [] := by
  rw [List.filter_eq_nil_iff]
  intro s member
  simp [all s member]

/-- What comes before the last piece that is heard: either nothing, or it is written before a
separator. -/
theorem last_heard (p : Path) (piece : List Char) (rest : List (List Char))
    (remaining : p.split.2.reverse.dropWhile isSilent = piece :: rest) :
    ∃ before after : List (List Char), before = (rest.dropWhile isSilent).reverse ∧
      p.split.2 = before ++ after ∧ after.filter (!isSilent ·) = [piece] ∧ piece ≠ [] := by
  obtain ⟨late, lateSilent, pieces⟩ := reverse_dropWhile p.split.2.reverse
  obtain ⟨early, earlySilent, kept⟩ := reverse_dropWhile rest
  rw [List.reverse_reverse, remaining, List.reverse_cons, kept] at pieces
  have speaks : isSilent piece = false := by
    have first := List.head?_dropWhile_not isSilent p.split.2.reverse
    simpa [remaining] using first
  refine ⟨_, early ++ piece :: late, rfl, by simpa using pieces, ?_, ?_⟩
  · simp [filter_silent early earlySilent, filter_silent late lateSilent, speaks]
  · rintro rfl
    cases speaks

/-- A path goes on after the path that is written with its first pieces.

Proof: either there are no first pieces, or a separator comes after them. -/
theorem components_before (p q : Path) (before after : List (List Char))
    (pieces : p.split.2 = before ++ after) (some : after ≠ [])
    (written : q.text.toList = p.leadText.toList ++ ['/'].intercalate before) :
    p.components = q.components ++ (after.filter (!isSilent ·)).map component := by
  by_cases first : before = []
  · rw [first, List.intercalate_nil, List.append_nil] at written
    rw [first, List.nil_append] at pieces
    rw [← read_text q, written, read_lead, ← pieces]
    rfl
  · have letters : p.text.toList = q.text.toList ++ '/' :: ['/'].intercalate after := by
      rw [written, p.split_letters, pieces, Text.joined_append '/' before after first some,
        List.append_assoc]
    have nonempty : q.text.toList ≠ [] := by
      intro empty
      rw [empty, List.nil_append] at letters
      refine p.split_rootless ?_ _ letters
      rw [written, List.append_eq_nil_iff] at empty
      simpa using empty.1
    rw [← read_text p, letters, read_append _ _ nonempty, read_text, parts_joined]
    intro piece member
    exact p.split_whole piece (pieces ▸ List.mem_append_right _ member)

/-- A path is written longer than with its first pieces, if one that follows has letters. -/
theorem letters_before (p q : Path) (before after : List (List Char))
    (pieces : p.split.2 = before ++ after) (piece : List Char) (member : piece ∈ after)
    (nonempty : piece ≠ [])
    (written : q.text.toList = p.leadText.toList ++ ['/'].intercalate before) :
    q.text.toList.length < p.text.toList.length := by
  have some := List.ne_nil_of_mem member
  rw [p.split_letters, pieces, written]
  by_cases first : before = []
  · have letters : ['/'].intercalate after ≠ [] := by
      intro empty
      exact nonempty (List.eq_nil_of_infix_nil (empty ▸ Text.infix_joined '/' after piece member))
    simpa [first] using List.length_pos_of_ne_nil letters
  · rw [Text.joined_append '/' before after first some]
    simp only [List.length_append, List.length_cons]
    omega

/-- A path with a parent has one component more than its parent, and is written longer. -/
theorem parent_some {p q : Path} (found : p.parent? = some q) :
    (∃ last, p.components = q.components ++ [last] ∧ last ≠ .root) ∧
      q.text.toList.length < p.text.toList.length := by
  simp only [parent?] at found
  split at found
  · next piece rest remaining =>
    obtain ⟨before, after, kept, pieces, heard, nonempty⟩ := p.last_heard piece rest remaining
    rw [← kept] at found
    have written : q.text.toList = p.leadText.toList ++ ['/'].intercalate before := by
      rw [← Option.some.inj found]
      exact joined_letters p.leadText before
    have member : piece ∈ after := (List.mem_filter.mp (heard ▸ List.mem_singleton_self piece)).1
    have named : component piece ≠ .root := by
      unfold component
      split <;> simp
    refine ⟨⟨component piece, ?_, named⟩, p.letters_before q before after pieces piece member
      nonempty written⟩
    rw [p.components_before q before after pieces (List.ne_nil_of_mem member) written, heard]
    rfl
  · next silent =>
    split at found
    · next here =>
      obtain rfl := Option.some.inj found
      rw [List.dropWhile_eq_nil_iff] at silent
      have unheard := filter_silent p.split.2 fun s member =>
        silent s (List.mem_reverse.mpr member)
      constructor
      · refine ⟨.here, ?_, by simp⟩
        rw [components_split, here, unheard]
        rfl
      · rw [p.split_letters, leadText, here]
        simp [Component.text]
    · cases found

/-- Only the empty path has no components.

Proof: a path without a lead starts with its first piece, and a silent one is empty or a dot. -/
theorem text_empty_iff (p : Path) : p.text = "" ↔ p.components = [] := by
  constructor
  · intro empty
    rw [← read_text, empty]
    rfl
  · intro short
    rw [components_split, List.append_eq_nil_iff, Option.toList_eq_nil_iff, List.map_eq_nil_iff,
      List.filter_eq_nil_iff] at short
    obtain ⟨plain, silent⟩ := short
    have unled : p.leadText = "" := by simp [leadText, plain]
    have rootless := p.split_rootless unled
    have letters := p.split_letters
    rw [unled] at letters
    cases pieces : p.split.2 with
    | nil => simpa [pieces] using letters
    | cons piece rest =>
      have first : piece = [] ∨ piece = ['.'] := by
        simpa [isSilent, or_iff_not_imp_left] using silent piece (pieces ▸ List.mem_cons_self)
      by_cases ended : rest = []
      · rcases first with rfl | rfl
        · simpa [pieces, ended] using letters
        · have here : p.text.toList = ['.'] := by simpa [pieces, ended] using letters
          simp [split, here] at plain
      · rw [pieces, List.intercalate_cons_of_ne_nil ended] at letters
        rcases first with rfl | rfl
        · exact absurd letters (rootless _)
        · have below : p.text.toList = '.' :: '/' :: ['/'].intercalate rest := letters
          simp [split, below] at plain

/-- The root and the empty path have no parent. -/
theorem parent_none_iff (p : Path) :
    p.parent? = none ↔ p.components = [] ∨ p.components = [.root] := by
  constructor
  · intro none
    simp only [parent?] at none
    split at none
    · cases none
    · next silent =>
      rw [List.dropWhile_eq_nil_iff] at silent
      have unheard := filter_silent p.split.2 fun s member =>
        silent s (List.mem_reverse.mpr member)
      have only : p.components = p.split.1.toList := by simp [components_split, unheard]
      rw [only]
      rcases p.split_lead with plain | rooted | here
      · exact Or.inl (by rw [plain]; rfl)
      · exact Or.inr (by rw [rooted]; rfl)
      · rw [here] at none
        cases none
  · intro short
    cases found : p.parent? with
    | none => rfl
    | some q =>
      obtain ⟨⟨last, ending, named⟩, _⟩ := parent_some found
      rw [ending] at short
      rcases short with empty | root
      · simp at empty
      · have apart : q.components ++ [last] = [] ++ [.root] := root
        obtain ⟨_, same⟩ := List.append_inj' apart rfl
        exact absurd (List.singleton_inj.mp same) named

/-- Paths with the same components have parents with the same components. -/
theorem parent_congr {p q above : Path} (same : p.components = q.components)
    (found : p.parent? = some above) :
    ∃ other, q.parent? = some other ∧ other.components = above.components := by
  obtain ⟨⟨last, ending, _⟩, _⟩ := parent_some found
  cases parent : q.parent? with
  | none =>
    rw [parent_none_iff, ← same, ← parent_none_iff, found] at parent
    cases parent
  | some other =>
    obtain ⟨⟨last', ending', _⟩, _⟩ := parent_some parent
    refine ⟨other, rfl, ?_⟩
    rw [same, ending'] at ending
    exact (List.append_inj' ending rfl).1

/-- What is above a path is above what lies below it, or is the path that is seen. -/
theorem parent_below {p above base : Path} (found : p.parent? = some above)
    (below : p.isBelow base = true) : (p == base) = true ∨ above.isBelow base = true := by
  obtain ⟨⟨last, ending, _⟩, _⟩ := parent_some found
  have start : base.components <+: above.components ++ [last] :=
    ending ▸ (p.isBelow_iff base).mp below
  rcases List.prefix_concat_iff.mp start with whole | shorter
  · exact Or.inl ((beq_iff p base).mpr (ending.trans whole.symm))
  · exact Or.inr ((above.isBelow_iff base).mpr shorter)

section Ancestors

/-- The parent of a path, and of each path above it, is above it. -/
theorem ancestorsFrom_closed (fuel : Nat) (p : Path) (enough : p.text.toList.length < fuel) :
    (∀ q, p.parent? = some q → q ∈ ancestorsFrom fuel p) ∧
      ∀ q ∈ ancestorsFrom fuel p, ∀ above, q.parent? = some above →
        above ∈ ancestorsFrom fuel p := by
  induction fuel generalizing p with
  | zero => omega
  | succ fuel inductionHypothesis =>
    simp only [ancestorsFrom]
    cases found : p.parent? with
    | none => simp
    | some parent =>
      obtain ⟨first, closed⟩ := inductionHypothesis parent
        (lt_of_lt_of_le (parent_some found).2 (Nat.le_of_lt_succ enough))
      refine ⟨fun q same => Option.some.inj same ▸ List.mem_cons_self, ?_⟩
      intro q member higher same
      rcases List.mem_cons.mp member with rfl | later
      · exact List.mem_cons_of_mem _ (first higher same)
      · exact List.mem_cons_of_mem _ (closed q later higher same)

theorem ancestors_closed (p : Path) :
    (∀ q, p.parent? = some q → q ∈ p.ancestors) ∧
      ∀ q ∈ p.ancestors, ∀ above, q.parent? = some above → above ∈ p.ancestors :=
  ancestorsFrom_closed _ p (by rw [String.length_toList]; exact Nat.lt_succ_self _)

/-- The walk upwards ends at the empty path, so nothing with a name is left out if it stops
there. -/
theorem ancestorsFrom_named (fuel : Nat) (p : Path) :
    (ancestorsFrom fuel p).takeWhile (·.text ≠ "") =
      (ancestorsFrom fuel p).filter (·.text ≠ "") := by
  induction fuel generalizing p with
  | zero => rfl
  | succ fuel inductionHypothesis =>
    simp only [ancestorsFrom]
    split
    · rfl
    · next parent found =>
      by_cases empty : parent.text = ""
      · have none : ancestorsFrom fuel parent = [] := by
          cases fuel with
          | zero => rfl
          | succ fuel =>
            simp [ancestorsFrom,
              (parent_none_iff parent).mpr (Or.inl ((text_empty_iff _).mp empty))]
        simp [empty, none]
      · simpa [empty] using inductionHypothesis parent

end Ancestors

/-!
## Normal paths

A normal path is absolute and has nothing but names after the root. Its parent is the path without
the last name, and what lies below it goes on with names.
-/

/-- The path is absolute and without dots. -/
def IsNormal (p : Path) : Prop := ∃ names : List String, p.components = .root :: names.map .name

/-- What lies below a normal path goes on with names. -/
theorem below_normal (p base : Path) (names : List String) (normal : p.IsNormal)
    (dir : base.components = .root :: names.map .name) (below : p.isBelow base = true) :
    ∃ more, p.components = .root :: (names ++ more).map .name := by
  obtain ⟨all, form⟩ := normal
  obtain ⟨rest, joined⟩ := (p.isBelow_iff base).mp below
  rw [dir, form, List.cons_append, List.cons.injEq] at joined
  obtain ⟨early, late, rfl, first, _⟩ := List.append_eq_map_iff.mp joined.2
  have same : early = names :=
    List.map_injective_iff.mpr (fun _ _ equal => Component.name.inj equal) first
  exact ⟨late, same ▸ form⟩

/-- A path with a root is written with a slash first. -/
theorem rooted_text (p : Path) (rest : List Component) (rooted : p.components = .root :: rest) :
    ∃ body, p.text.toList = '/' :: body ∧ parts body = rest := by
  rw [← read_text] at rooted
  generalize p.text.toList = letters at rooted
  by_cases slash : ∃ body, letters = '/' :: body
  · obtain ⟨body, rfl⟩ := slash
    rw [read_root, List.cons.injEq] at rooted
    exact ⟨body, rfl, rooted.2⟩
  · by_cases here : letters = ['.']
    · rw [here] at rooted
      cases rooted
    · by_cases below : ∃ body, letters = '.' :: '/' :: body
      · obtain ⟨body, rfl⟩ := below
        rw [read_below_here] at rooted
        cases rooted
      · push Not at slash below
        rw [read_plain letters slash here below] at rooted
        have member : Component.root ∈ parts letters := by simp [rooted]
        simp only [parts, List.mem_map, component] at member
        obtain ⟨piece, _, same⟩ := member
        split at same <;> cases same

/-- A path with a root is absolute. -/
theorem rooted_absolute (p : Path) (rest : List Component)
    (rooted : p.components = .root :: rest) : p.isAbsolute = true := by
  obtain ⟨body, text, _⟩ := p.rooted_text rest rooted
  simp [isAbsolute, text]

/-- The parent of a normal path is the path without the last name. -/
theorem parent_components (p : Path) (names : List String) (last : String)
    (normal : p.components = .root :: (names ++ [last]).map .name) :
    ∃ q, p.parent? = some q ∧ q.components = .root :: names.map .name := by
  cases found : p.parent? with
  | none => simpa [normal] using p.parent_none_iff.mp found
  | some q =>
    obtain ⟨⟨final, ending, _⟩, _⟩ := parent_some found
    rw [normal, List.map_append, ← List.cons_append] at ending
    exact ⟨q, rfl, (List.append_inj' ending rfl).1.symm⟩

/-- The root has no parent. -/
theorem parent_root (p : Path) (normal : p.components = [.root]) : p.parent? = none :=
  p.parent_none_iff.mpr (Or.inr normal)

/-- A normal path with a parent is a name below it. -/
theorem parent_last (p q : Path) (normal : p.IsNormal) (parent : p.parent? = some q) :
    ∃ last, p.components = q.components ++ [.name last] := by
  obtain ⟨names, components⟩ := normal
  rcases List.eq_nil_or_concat names with rfl | ⟨above, last, rfl⟩
  · rw [p.parent_root components] at parent
    cases parent
  · rw [List.concat_eq_append] at components
    obtain ⟨found, same, form⟩ := p.parent_components above last components
    obtain rfl : found = q := Option.some.inj (same.symm.trans parent)
    exact ⟨last, by rw [components, form]; simp⟩

/-- The parent of a normal path is normal. -/
theorem parent_normal (p q : Path) (normal : p.IsNormal) (parent : p.parent? = some q) :
    q.IsNormal := by
  obtain ⟨last, ending⟩ := p.parent_last q normal parent
  obtain ⟨names, components⟩ := normal
  rcases List.eq_nil_or_concat names with rfl | ⟨above, final, rfl⟩
  · rw [p.parent_root components] at parent
    cases parent
  · refine ⟨above, ?_⟩
    rw [components, List.concat_eq_append, List.map_append, ← List.cons_append] at ending
    exact (List.append_inj_left' ending rfl).symm

/-- A normal path is written with a text. -/
theorem normal_text (p : Path) (normal : p.IsNormal) : p.text ≠ "" := by
  obtain ⟨names, components⟩ := normal
  obtain ⟨body, text, _⟩ := p.rooted_text _ components
  intro empty
  rw [empty] at text
  cases text

/-- The paths above a normal path are normal. -/
theorem ancestors_normal (fuel : Nat) (p : Path) (normal : p.IsNormal) :
    ∀ q ∈ ancestorsFrom fuel p, q.IsNormal := by
  induction fuel generalizing p with
  | zero => exact fun _ member => absurd member List.not_mem_nil
  | succ fuel inductionHypothesis =>
    simp only [ancestorsFrom]
    intro q member
    split at member
    · cases member
    · next parent found =>
      have above := p.parent_normal parent normal found
      rcases List.mem_cons.mp member with rfl | later
      · exact above
      · exact inductionHypothesis parent above q later

/-- Entries of one directory are in the order of their names. -/
theorem le_child (p : Path) (a b : String) (first : IsName a) (second : IsName b) (order : a < b) :
    (p.child a).le (p.child b) = true := by
  rw [le, components_child p a first, components_child p b second]
  induction p.components with
  | nil =>
    have different : Component.name a ≠ .name b := by
      simpa using ne_of_lt order
    simp [leComponents, different, Component.before, order]
  | cons part rest inductionHypothesis => simpa [leComponents] using inductionHypothesis

end Pagefold.Path
