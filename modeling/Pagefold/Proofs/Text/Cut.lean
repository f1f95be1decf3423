import Mathlib
import Pagefold.Text.Cut

/-!
# The pieces and the words of a text

What the pieces between marks are when texts are joined, and when two texts have the same words.
-/
namespace Pagefold.Text

/-!
## The pieces of a text

What the pieces between marks are when texts are joined at a mark, and what the two sides of a
first mark are.
-/

/-- Every text has a piece. -/
theorem pieces_nonempty (mark : Char → Bool) (s : List Char) : pieces mark s ≠ [] := by
  cases s with
  | nil => simp [pieces]
  | cons c rest =>
    simp only [pieces]
    split
    · simp
    · split <;> simp

/-- A mark between two texts separates their pieces. -/
theorem pieces_append (mark : Char → Bool) (first second : List Char) (c : Char)
    (marked : mark c = true) :
    pieces mark (first ++ c :: second) = pieces mark first ++ pieces mark second := by
  induction first with
  | nil => simp [pieces, marked]
  | cons d rest inductionHypothesis =>
    simp only [List.cons_append, pieces, inductionHypothesis]
    split
    · rfl
    · cases split : pieces mark rest with
      | nil => exact absurd split (pieces_nonempty mark rest)
      | cons piece others => simp

/-- A text without marks is one piece. -/
theorem pieces_whole (mark : Char → Bool) (s : List Char) (none : ∀ c ∈ s, mark c = false) :
    pieces mark s = [s] := by
  induction s with
  | nil => rfl
  | cons c rest inductionHypothesis =>
    have here : mark c = false := none c List.mem_cons_self
    have later : pieces mark rest = [rest] :=
      inductionHypothesis fun d member => none d (List.mem_cons_of_mem c member)
    simp [pieces, here, later]

/-- No piece holds a mark. -/
theorem piece_unmarked (mark : Char → Bool) (s piece : List Char)
    (member : piece ∈ pieces mark s) : ∀ c ∈ piece, mark c = false := by
  induction s generalizing piece with
  | nil =>
    simp only [pieces, List.mem_singleton] at member
    simp [member]
  | cons c rest inductionHypothesis =>
    simp only [pieces] at member
    split at member
    · rcases List.mem_cons.mp member with rfl | later
      · simp
      · exact inductionHypothesis piece later
    · next unmarked =>
      split at member
      · simp only [List.mem_singleton] at member
        simpa [member] using unmarked
      · next first others split =>
        rw [split] at inductionHypothesis
        rcases List.mem_cons.mp member with rfl | later
        · intro d inside
          rcases List.mem_cons.mp inside with rfl | inside
          · simpa using unmarked
          · exact inductionHypothesis first List.mem_cons_self d inside
        · exact inductionHypothesis piece (List.mem_cons_of_mem _ later)

/-- Pieces that are joined by the mark give the text again. -/
theorem pieces_joined (c : Char) (s : List Char) : [c].intercalate (pieces (· == c) s) = s := by
  induction s with
  | nil => rfl
  | cons d rest inductionHypothesis =>
    have nonempty := pieces_nonempty (· == c) rest
    simp only [pieces]
    split
    · next marked =>
      rw [List.intercalate_cons_of_ne_nil nonempty, inductionHypothesis, beq_iff_eq.mp marked]
      rfl
    · cases split : pieces (· == c) rest with
      | nil => exact absurd split nonempty
      | cons first others =>
        rw [split] at inductionHypothesis
        rw [← inductionHypothesis]
        cases others with
        | nil => rfl
        | cons next more => rfl

/-- Two lists of pieces that are joined one after the other have a mark between them. -/
theorem joined_append (c : Char) (first second : List (List Char)) (some : first ≠ [])
    (more : second ≠ []) :
    [c].intercalate (first ++ second) = [c].intercalate first ++ c :: [c].intercalate second := by
  induction first with
  | nil => exact absurd rfl some
  | cons piece rest inductionHypothesis =>
    cases rest with
    | nil =>
      rw [List.singleton_append, List.intercalate_cons_of_ne_nil more, List.intercalate_singleton,
        List.append_assoc, List.singleton_append]
    | cons next others =>
      have joined := inductionHypothesis (List.cons_ne_nil _ _)
      simp only [List.cons_append] at joined ⊢
      rw [List.intercalate_cons_cons, joined, List.intercalate_cons_cons]
      simp only [List.append_assoc]

/-- Each piece stands somewhere in the joined text. -/
theorem infix_joined (c : Char) (pieces : List (List Char)) (piece : List Char)
    (member : piece ∈ pieces) : piece <:+: [c].intercalate pieces := by
  obtain ⟨before, after, rfl⟩ := List.append_of_mem member
  have here : piece <:+: [c].intercalate (piece :: after) := by
    cases after with
    | nil => rw [List.intercalate_singleton]
    | cons next others =>
      rw [List.intercalate_cons_cons, List.append_assoc]
      exact (List.prefix_append _ _).isInfix
  by_cases first : before = []
  · simpa [first] using here
  · rw [joined_append c before (piece :: after) first (List.cons_ne_nil _ _)]
    exact here.trans ((List.suffix_cons _ _).trans (List.suffix_append _ _)).isInfix

/-- A character other than the mark stands in a joined text if it stands in one of the pieces. -/
theorem mem_joined (mark c : Char) (apart : c ≠ mark) (pieces : List (List Char)) :
    c ∈ [mark].intercalate pieces ↔ ∃ piece ∈ pieces, c ∈ piece := by
  induction pieces with
  | nil => simp
  | cons piece rest inductionHypothesis =>
    by_cases last : rest = []
    · simp [last]
    · rw [List.intercalate_cons_of_ne_nil last]
      simp [apart, inductionHypothesis]

/-- A character other than the mark stands in a text if it stands in one of its pieces. -/
theorem mem_pieces (mark c : Char) (apart : c ≠ mark) (s : List Char) :
    c ∈ s ↔ ∃ piece ∈ pieces (· == mark) s, c ∈ piece := by
  rw [← mem_joined mark c apart, pieces_joined]

/-- Pieces without the mark are the pieces of the text that they are joined to. -/
theorem pieces_of_joined (mark : Char) (list : List (List Char)) (some : list ≠ [])
    (whole : ∀ piece ∈ list, mark ∉ piece) : pieces (· == mark) ([mark].intercalate list) = list := by
  have single : ∀ piece ∈ list, pieces (· == mark) piece = [piece] := by
    intro piece member
    refine pieces_whole _ piece fun c inside => ?_
    rw [beq_eq_false_iff_ne]
    rintro rfl
    exact whole piece member inside
  induction list with
  | nil => exact absurd rfl some
  | cons piece rest inductionHypothesis =>
    have here := single piece List.mem_cons_self
    by_cases last : rest = []
    · rw [last, List.intercalate_singleton, here]
    · have later := inductionHypothesis last
        (fun other member => whole other (List.mem_cons_of_mem piece member))
        (fun other member => single other (List.mem_cons_of_mem piece member))
      rw [List.intercalate_cons_of_ne_nil last, List.append_assoc, List.singleton_append,
        pieces_append (· == mark) _ _ _ (beq_self_eq_true mark), here, later, List.singleton_append]

/-- There is an empty piece between two marks. -/
theorem piece_between (mark : Char) (s : List Char) (twice : [mark, mark] <:+: s) :
    [] ∈ pieces (· == mark) s := by
  obtain ⟨before, after, rfl⟩ := twice
  have marked : (mark == mark) = true := beq_self_eq_true mark
  rw [List.append_assoc, List.cons_append, List.cons_append, List.nil_append,
    pieces_append (· == mark) _ _ _ marked]
  simp [pieces]

/-- The two sides of the first mark. -/
theorem cut_split (mark : Char → Bool) (s before rest : List Char)
    (found : cut mark s = some (before, rest)) :
    ∃ c, s = before ++ c :: rest ∧ mark c = true ∧ ∀ d ∈ before, mark d = false := by
  induction s generalizing before with
  | nil => simp [cut] at found
  | cons c tail inductionHypothesis =>
    simp only [cut] at found
    split at found
    · next marked =>
      simp only [Option.some.injEq, Prod.mk.injEq] at found
      obtain ⟨rfl, rfl⟩ := found
      exact ⟨c, rfl, marked, by simp⟩
    · next unmarked =>
      simp only [Option.map_eq_some_iff, Prod.exists, Prod.mk.injEq] at found
      obtain ⟨inner, rest', later, rfl, rfl⟩ := found
      obtain ⟨d, split, marked, clear⟩ := inductionHypothesis inner later
      refine ⟨d, by rw [split]; rfl, marked, ?_⟩
      intro e inside
      rcases List.mem_cons.mp inside with rfl | inside
      · simpa using unmarked
      · exact clear e inside

/-- A text that is not cut holds no mark. -/
theorem cut_none (mark : Char → Bool) (s : List Char) (whole : cut mark s = none) :
    ∀ c ∈ s, mark c = false := by
  induction s with
  | nil => simp
  | cons c rest inductionHypothesis =>
    simp only [cut] at whole
    split at whole
    · cases whole
    · next unmarked =>
      refine List.forall_mem_cons.mpr ⟨by simpa using unmarked, inductionHypothesis ?_⟩
      simpa using whole

/-- Lowering a letter gives no mark that was not there. -/
theorem lower_mark (c mark : Char) (notLetter : ¬ mark.isLower) (lowered : c.toLower = mark) :
    c = mark := by
  have small : c.isAlpha = false := by
    rw [← Char.isLower_toLower_eq_isAlpha, lowered]
    simpa using notLetter
  have upper : ¬ c.isUpper := by
    intro upper
    simp [Char.isAlpha, upper] at small
  rw [← lowered, Char.toLower_eq_of_not_isUpper upper]

/-!
## Replacing a word

What is seen of a text from one of its positions once a word has been replaced. The word starts
with a mark that it holds nowhere else, and so does what stands in its place; then each position
sees the same characters up to the next mark.
-/

/-- A text is cut at the first mark. -/
theorem cut_unmarked {mark : Char → Bool} {before : List Char} {c : Char} (rest : List Char)
    (each : ∀ d ∈ before, mark d = false) (marked : mark c = true) :
    cut mark (before ++ c :: rest) = some (before, rest) := by
  induction before with
  | nil => simp [cut, marked]
  | cons d before inductionHypothesis =>
    obtain ⟨first, others⟩ := List.forall_mem_cons.mp each
    simp [cut, first, inductionHypothesis others]

/-- A run of accepted characters ends at the first other one. -/
theorem run_ends {p : Char → Bool} {run : List Char} {c : Char} (rest : List Char)
    (each : ∀ d ∈ run, p d = true) (stops : p c = false) :
    (run ++ c :: rest).takeWhile p = run ∧ (run ++ c :: rest).dropWhile p = c :: rest := by
  rw [List.takeWhile_append_of_pos each, List.dropWhile_append_of_pos each]
  simp [stops]

/-- Something follows the opening of a text exactly when the text starts with it. -/
theorem after_isSome (p s : List Char) : (after? p s).isSome = true ↔ p <+: s := by
  constructor
  · intro found
    obtain ⟨rest, follows⟩ := Option.isSome_iff_exists.mp found
    exact ⟨rest, (eq_append_of_after? follows).symm⟩
  · rintro ⟨rest, rfl⟩
    simp [after?_append]

/-- What holds at every position of a text holds at its first and at every later one. -/
theorem positions_cons (P : List Char → Prop) (c : Char) (s : List Char) :
    (∀ t, t <:+ c :: s → P t) ↔ P (c :: s) ∧ ∀ t, t <:+ s → P t := by
  simp only [List.suffix_cons_iff, or_imp, forall_and, forall_eq]

/-- The characters that are left of an occurrence are passed over. -/
theorem replaceFrom_drop (p q : List Char) (skip : Nat) (s : List Char) :
    replaceFrom p q skip s = replace p q (s.drop skip) := by
  induction skip generalizing s with
  | zero => rfl
  | succ skip inductionHypothesis =>
    cases s with
    | nil => simp [replaceFrom, replace]
    | cons c rest => simpa [replaceFrom] using inductionHypothesis rest

/-- A character at which no occurrence starts is kept. -/
theorem replace_kept (p q : List Char) (c : Char) (s : List Char) (none : ¬ p <+: c :: s) :
    replace p q (c :: s) = c :: replace p q s := by
  simp [replace, replaceFrom, after_isSome, none]

section Marked

variable {mark : Char} {p q : List Char}

/-- An occurrence at the start is replaced, and the text goes on after it. -/
theorem replace_here (s : List Char) :
    replace (mark :: p) q (mark :: p ++ s) = q ++ replace (mark :: p) q s := by
  have here : (after? (mark :: p) (mark :: (p ++ s))).isSome = true :=
    (after_isSome _ _).mpr (List.prefix_append (mark :: p) s)
  rw [List.cons_append, replace, replaceFrom, if_pos here, replaceFrom_drop, List.length_cons,
    Nat.add_sub_cancel, List.drop_left]

/-- One character is replaced wherever it stands. -/
theorem replace_single (s : List Char) :
    replace [mark] q s = s.flatMap fun c => if c = mark then q else [c] := by
  induction s with
  | nil => rfl
  | cons c s inductionHypothesis =>
    rw [List.flatMap_cons, ← inductionHypothesis]
    by_cases same : c = mark
    · rw [if_pos same, same]
      exact replace_here s
    · rw [if_neg same]
      exact replace_kept [mark] q c s (by simpa [List.cons_prefix_cons] using Ne.symm same)

/-- Something is written of a text that is not empty. -/
theorem replace_nonempty (s : List Char) (nonempty : s ≠ []) :
    replace (mark :: p) (mark :: q) s ≠ [] := by
  obtain ⟨c, rest, rfl⟩ := List.exists_cons_of_ne_nil nonempty
  by_cases found : mark :: p <+: c :: rest
  · obtain ⟨after, split⟩ := found
    rw [← split, replace_here]
    exact List.cons_ne_nil _ _
  · rw [replace_kept _ _ c rest found]
    exact List.cons_ne_nil _ _

/-- Up to the next mark a text is as it was. -/
theorem replace_ahead (s : List Char) :
    (replace (mark :: p) (mark :: q) s).takeWhile (· != mark) = s.takeWhile (· != mark) := by
  induction s with
  | nil => rfl
  | cons c rest inductionHypothesis =>
    by_cases found : mark :: p <+: c :: rest
    · obtain ⟨after, split⟩ := found
      rw [← split, replace_here]
      simp
    · rw [replace_kept _ _ c rest found]
      by_cases marked : c = mark
      · simp [marked]
      · simp [marked, inductionHypothesis]

/-- What holds wherever no mark stands holds at all positions within a word without marks. -/
theorem positions_unmarked (P : List Char → Prop) (outside : ∀ s, s.head? ≠ some mark → P s)
    (word : mark ∉ p) (s : List Char) : (∀ t, t <:+ p ++ s → P t) ↔ ∀ t, t <:+ s → P t := by
  induction p with
  | nil => rfl
  | cons c rest inductionHypothesis =>
    obtain ⟨first, later⟩ := not_or.mp (mt List.mem_cons.mpr word)
    have here : P (c :: (rest ++ s)) := outside _ fun same => first (Option.some.inj same).symm
    rw [List.cons_append, positions_cons, inductionHypothesis later]
    exact and_iff_right here

/-- A test finds nothing in the text that is written exactly when all that it finds in the text
that was given is the word.

Proof: by induction on the text, an occurrence at a time. At a character that is kept, a test that
looks no further than the next mark sees what it saw before. Of an occurrence, and of what takes
its place, the first character alone is a mark, and there the test refuses what was put in. -/
theorem replace_positions (f : List Char → Bool)
    (outside : ∀ s, s.head? ≠ some mark → f s = false)
    (near : ∀ c s t, s.takeWhile (· != mark) = t.takeWhile (· != mark) → f (c :: s) = f (c :: t))
    (refused : ∀ s, f (mark :: q ++ s) = false) (word : mark ∉ p) (other : mark ∉ q)
    (s : List Char) :
    (∀ t, t <:+ replace (mark :: p) (mark :: q) s → f t = false) ↔
      ∀ t, t <:+ s → f t = true → mark :: p <+: t := by
  induction size : s.length using Nat.strong_induction_on generalizing s with
  | _ n inductionHypothesis =>
  cases s with
  | nil => simp [replace, replaceFrom]
  | cons c rest =>
    by_cases found : mark :: p <+: c :: rest
    · obtain ⟨after, split⟩ := found
      have shorter : after.length < n := by
        have lengths := congrArg List.length split
        simp only [List.length_append, List.length_cons] at lengths size
        omega
      have started : mark :: p <+: mark :: (p ++ after) := List.prefix_append (mark :: p) after
      have gone : f (mark :: (q ++ replace (mark :: p) (mark :: q) after)) = false := refused _
      rw [← split, replace_here, List.cons_append, List.cons_append, positions_cons, positions_cons,
        positions_unmarked _ outside other, inductionHypothesis _ shorter after rfl,
        positions_unmarked _ (fun t apart held => absurd held (by simp [outside t apart])) word]
      simp [started, gone]
    · rw [replace_kept _ _ c rest found, positions_cons, positions_cons,
        inductionHypothesis _ (by rw [← size]; exact Nat.lt_succ_self _) rest rfl,
        near c _ rest (replace_ahead rest)]
      simp [found]

end Marked

/-!
## The words of a text

The words between marks do not depend on how many marks stand between them, nor on which ones, nor
on marks at the ends. So one text can stand for another anywhere if they have the same words there.
-/

variable {mark : Char → Bool}

/-- A mark between two texts parts their words. -/
theorem words_break (first second : List Char) {c : Char} (marked : mark c = true) :
    words mark (first ++ c :: second) = words mark first ++ words mark second := by
  rw [words, pieces_append mark first second c marked, List.filter_append]
  rfl

/-- Marks in front of a text do not change its words. -/
theorem words_marks (marks s : List Char) (marked : ∀ c ∈ marks, mark c = true) :
    words mark (marks ++ s) = words mark s := by
  induction marks with
  | nil => rfl
  | cons c rest inductionHypothesis =>
    have here := words_break [] (rest ++ s) (marked c List.mem_cons_self)
    rw [List.nil_append] at here
    rw [List.cons_append, here]
    exact inductionHypothesis fun d member => marked d (List.mem_cons_of_mem c member)

/-- Marks between two texts part their words, however many they are. -/
theorem words_between (first marks second : List Char) (some : marks ≠ [])
    (marked : ∀ c ∈ marks, mark c = true) :
    words mark (first ++ marks ++ second) = words mark first ++ words mark second := by
  obtain ⟨c, rest, rfl⟩ := List.exists_cons_of_ne_nil some
  rw [List.append_assoc, List.cons_append, words_break first _ (marked c List.mem_cons_self),
    words_marks rest second fun d member => marked d (List.mem_cons_of_mem c member)]

/-- Marks at both ends of a text do not change its words. -/
theorem words_ends (before s after : List Char) (marked : ∀ c ∈ before ++ after, mark c = true) :
    words mark (before ++ s ++ after) = words mark s := by
  obtain ⟨early, late⟩ := List.forall_mem_append.mp marked
  rw [List.append_assoc, words_marks before _ early]
  cases after with
  | nil => rw [List.append_nil]
  | cons c rest =>
    have none : words mark rest = [] := by
      have whole := words_marks rest [] fun d member => late d (List.mem_cons_of_mem c member)
      rw [List.append_nil] at whole
      exact whole
    rw [words_break s rest (late c List.mem_cons_self), none, List.append_nil]

/-- Words depend on the marks in the text alone. -/
theorem words_congr {other : Char → Bool} (s : List Char) (same : ∀ c ∈ s, mark c = other c) :
    words mark s = words other s := by
  have equal : pieces mark s = pieces other s := by
    induction s with
    | nil => rfl
    | cons c rest inductionHypothesis =>
      obtain ⟨here, later⟩ := List.forall_mem_cons.mp same
      rw [pieces, pieces, here, inductionHypothesis later]
  rw [words, words, equal]

/-- The words of a text hold its characters but for the marks. -/
theorem words_flatten (s : List Char) : (words mark s).flatten = s.filter (!mark ·) := by
  have pieces : (pieces mark s).flatten = s.filter (!mark ·) := by
    induction s with
    | nil => rfl
    | cons c rest inductionHypothesis =>
      have nonempty := pieces_nonempty mark rest
      simp only [Text.pieces]
      split
      · next marked => simp [marked, inductionHypothesis]
      · next unmarked =>
        split
        · next none => exact absurd none nonempty
        · next p ps found =>
          rw [found] at inductionHypothesis
          simp_all
  have filled : ∀ list : List (List Char), (list.filter (· ≠ [])).flatten = list.flatten := by
    intro list
    induction list with
    | nil => rfl
    | cons word rest inductionHypothesis =>
      cases word with
      | nil => simpa using inductionHypothesis
      | cons c word => simpa using inductionHypothesis
  rw [words, filled, pieces]

/-- Two texts give the same words wherever one stands for the other. -/
def Alike (mark : Char → Bool) (s t : List Char) : Prop :=
  ∀ before after, words mark (before ++ s ++ after) = words mark (before ++ t ++ after)

namespace Alike

variable {s s' t t' : List Char}

theorem refl (s : List Char) : Alike mark s s := fun _ _ => rfl

theorem trans (first : Alike mark s s') (second : Alike mark s' t) : Alike mark s t :=
  fun before after => (first before after).trans (second before after)

theorem append (first : Alike mark s s') (second : Alike mark t t') :
    Alike mark (s ++ t) (s' ++ t') := by
  intro before after
  have early := first before (t ++ after)
  have late := second (before ++ s') after
  simp only [List.append_assoc] at early late ⊢
  exact early.trans late

/-- Marks can stand for marks. -/
theorem marks (some : s ≠ []) (more : t ≠ []) (marked : ∀ c ∈ s, mark c = true)
    (marked' : ∀ c ∈ t, mark c = true) : Alike mark s t := by
  intro before after
  rw [words_between before s after some marked, words_between before t after more marked']

/-- Texts that can stand for each other have the same words. -/
theorem words_eq (alike : Alike mark s t) : words mark s = words mark t := by
  simpa using alike [] []

end Alike

end Pagefold.Text
