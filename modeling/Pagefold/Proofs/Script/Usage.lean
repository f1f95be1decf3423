import Mathlib
import Pagefold.Proofs.Script.Renaming
import Pagefold.Proofs.Store.WellFormed

/-!
# Uses of class constants

A script falls into words, the longest runs of letters, digits, underscores and dollar signs. Uses of a
name are counted in another way: its occurrences are searched from the left, each search starts where
the last occurrence ended, and an occurrence counts if no such character stands on either side of it.
Both ways give the same number. An occurrence that does not count lies inside of one word together with
all that is passed over for it, so it hides no word that is the name.
-/
namespace Pagefold.Script

open Text ClassConstant

/-- The words of a text: the longest runs of characters of identifiers. -/
def identifiers (s : List Char) : List (List Char) := words (!isIdentifierChar ·) s

/-! ## Counting a name -/

/-- A run of characters of identifiers ends here. -/
def Stops (rest : List Char) : Prop := rest.head?.any isIdentifierChar = false

theorem stops_cons {c : Char} {rest : List Char} :
    Stops (c :: rest) ↔ isIdentifierChar c = false := by
  simp [Stops]

/-- A text starts with a run, which may be empty. -/
theorem run_split (s : List Char) : ∃ run rest, s = run ++ rest ∧
    (∀ c ∈ run, isIdentifierChar c = true) ∧ Stops rest := by
  refine ⟨s.takeWhile isIdentifierChar, s.dropWhile isIdentifierChar,
    List.takeWhile_append_dropWhile.symm, fun _ => List.mem_takeWhile_imp, ?_⟩
  have ended := List.head?_dropWhile_not isIdentifierChar s
  rw [Stops]
  cases found : (s.dropWhile isIdentifierChar).head? with
  | none => rfl
  | some c =>
    rw [found] at ended
    simpa using ended

section Named

variable {name run rest : List Char} (filled : name ≠ [])
  (chars : ∀ c ∈ name, isIdentifierChar c = true)

include chars in
/-- A name that starts with a run ends in it. -/
theorem name_inside (stops : Stops rest) {left : List Char} (split : run ++ rest = name ++ left) :
    ∃ more, run = name ++ more ∧ left = more ++ rest := by
  rcases List.append_eq_append_iff.mp split with ⟨past, longer, follows⟩ | inside
  · cases past with
    | nil => exact ⟨[], by simpa using longer.symm, by simpa using follows.symm⟩
    | cons c past =>
      have later := chars c (by simp [longer])
      rw [follows, List.cons_append, stops_cons, later] at stops
      cases stops
  · exact inside

include filled chars in
/-- No name starts where a run ends. -/
theorem name_absent (stops : Stops rest) : after? name rest = none := by
  rw [Option.eq_none_iff_forall_not_mem]
  intro left found
  have split : [] ++ rest = name ++ left := eq_append_of_after? found
  obtain ⟨more, empty, _⟩ := name_inside chars stops split
  exact filled (List.append_eq_nil_iff.mp empty.symm).1

include chars in
/-- Nothing is counted inside of a word. What is passed over for an occurrence ends in the word. -/
theorem countFrom_inside (each : ∀ c ∈ run, isIdentifierChar c = true) (stops : Stops rest)
    {skip : Nat} (passed : skip ≤ run.length) :
    countFrom name true skip (run ++ rest) = countFrom name true 0 rest := by
  induction run generalizing skip with
  | nil =>
    obtain rfl : skip = 0 := Nat.le_zero.mp passed
    rfl
  | cons c run inductionHypothesis =>
    obtain ⟨here, later⟩ := List.forall_mem_cons.mp each
    cases skip with
    | succ skip =>
      rw [List.cons_append, countFrom, here]
      exact inductionHypothesis later (Nat.le_of_succ_le_succ passed)
    | zero =>
      rw [List.cons_append, countFrom, here]
      split
      · next left found =>
        have split : c :: run ++ rest = name ++ left := eq_append_of_after? found
        obtain ⟨more, whole, _⟩ := name_inside chars stops split
        have length := congrArg List.length whole
        rw [List.length_cons, List.length_append] at length
        rw [inductionHypothesis later (by omega)]
        simp
      · exact inductionHypothesis later (Nat.zero_le _)

include filled chars in
/-- The count goes on in the same way behind a character that is none of a word. -/
theorem countFrom_outside {c : Char} (other : isIdentifierChar c = false) (inside : Bool) :
    countFrom name inside 0 (c :: rest) = countFrom name false 0 rest := by
  rw [countFrom, name_absent filled chars (stops_cons.mpr other), other]

include filled chars in
/-- A word is counted if it is the name. -/
theorem countFrom_word (each : ∀ c ∈ run, isIdentifierChar c = true) (some : run ≠ [])
    (stops : Stops rest) :
    countFrom name false 0 (run ++ rest) =
      (if run = name then 1 else 0) + countFrom name true 0 rest := by
  obtain ⟨c, others, rfl⟩ := List.exists_cons_of_ne_nil some
  obtain ⟨here, later⟩ := List.forall_mem_cons.mp each
  rw [List.cons_append, countFrom, here]
  split
  · next left found =>
    have split : c :: others ++ rest = name ++ left := eq_append_of_after? found
    obtain ⟨more, whole, rfl⟩ := name_inside chars stops split
    have length := congrArg List.length whole
    rw [List.length_cons, List.length_append] at length
    rw [countFrom_inside chars later stops (by omega)]
    congr 1
    cases more with
    | nil => simp [whole, show rest.head?.any isIdentifierChar = false from stops]
    | cons d more =>
      have inner := each d (by simp [whole])
      simp [whole, inner]
  · next absent =>
    have other : c :: others ≠ name := by
      rintro rfl
      rw [← List.cons_append, after?_append] at absent
      cases absent
    rw [countFrom_inside chars later stops (Nat.zero_le _), if_neg other, Nat.zero_add]

include filled chars in
/-- The number of times that a name stands in a text as a whole identifier is the number of words of
the text that are the name. -/
theorem countFrom_words (s : List Char) :
    countFrom name false 0 s = (identifiers s).count name := by
  induction length : s.length using Nat.strongRecOn generalizing s with
  | _ n inductionHypothesis =>
    obtain ⟨run, rest, rfl, each, stops⟩ := run_split s
    have unmarked : ∀ c ∈ run, (!isIdentifierChar c) = false := fun c member => by
      simp [each c member]
    have first : identifiers run = if run = [] then [] else [run] := by
      rw [identifiers, words, pieces_whole _ _ unmarked]
      split <;> simp [*]
    cases rest with
    | nil =>
      by_cases empty : run = []
      · subst empty
        rfl
      · rw [countFrom_word filled chars each empty stops, List.append_nil, first, if_neg empty,
          List.count_singleton]
        simp [countFrom]
    | cons c rest =>
      have mark := stops_cons.mp stops
      have later := inductionHypothesis rest.length (by rw [← length]; simp; omega) rest rfl
      have parted : identifiers (run ++ c :: rest) = identifiers run ++ identifiers rest :=
        words_break run rest (by simp [mark])
      by_cases empty : run = []
      · subst empty
        rw [List.nil_append, countFrom_outside filled chars mark, later, ← List.nil_append (c :: rest),
          parted, first, if_pos rfl, List.nil_append]
      · rw [countFrom_word filled chars each empty stops, countFrom_outside filled chars mark, later,
          parted, first, if_neg empty, List.count_append, List.count_singleton]
        simp

end Named

/-! ## Declared names -/

/-- In an ASCII text the characters of a declared name are those of identifiers. -/
theorem isIdentifierChar_of_isNameChar {c : Char} (ascii : c.toNat < 128)
    (valid : isNameChar c = true) : isIdentifierChar c = true := by
  simp only [isNameChar, isLetterOrDigit, Bool.or_eq_true, beq_iff_eq] at valid
  rcases valid with (((plain | rfl) | rfl) | rfl) | rfl
  · simp [isIdentifierChar, plain]
  · exact absurd ascii (by decide)
  · exact absurd ascii (by decide)
  · decide
  · decide

/-- A blank is no character of an identifier. -/
theorem blank_apart {c : Char} (blank : isBlank c = true) : isIdentifierChar c = false := by
  by_contra valid
  have named : isNameChar c = true := by
    simp only [isIdentifierChar, Bool.not_eq_false, Bool.or_eq_true, beq_iff_eq] at valid
    rcases valid with (plain | rfl) | rfl
    · simp [isNameChar, isLetterOrDigit, plain]
    · decide
    · decide
  rw [isBlank_of_isNameChar named] at blank
  cases blank

/-- A name that stands between two characters that are none of identifiers is a word. -/
theorem mem_identifiers {name : List Char} (filled : name ≠ [])
    (chars : ∀ c ∈ name, isIdentifierChar c = true) {left right : Char}
    (outside : isIdentifierChar left = false) (outside' : isIdentifierChar right = false)
    (before after : List Char) :
    name ∈ identifiers (before ++ left :: (name ++ right :: after)) := by
  have whole : identifiers name = [name] := by
    rw [identifiers, words, pieces_whole _ _ fun c member => by simp [chars c member]]
    simp [filled]
  rw [identifiers, words_break before _ (by simp [outside]), words_break name after (by simp [outside'])]
  refine List.mem_append_right _ (List.mem_append_left _ ?_)
  change name ∈ identifiers name
  rw [whole]
  exact List.mem_singleton_self name

/-- In an ASCII text the name of a declaration is a word. -/
theorem Declaration.name_mem {s front rest : List Char} (d : Declaration)
    (ascii : ∀ c ∈ s, c.toNat < 128) (split : s = front ++ d.text ++ rest) :
    d.name ≠ [] ∧ (∀ c ∈ d.name, isIdentifierChar c = true) ∧ d.name ∈ identifiers s := by
  have chars : ∀ c ∈ d.name, isIdentifierChar c = true := fun c member =>
    isIdentifierChar_of_isNameChar (ascii c (by simp [split, text, member])) (d.name_chars c member)
  obtain ⟨k, more, named, _⟩ := d.name_letter
  have filled : d.name ≠ [] := named ▸ List.cons_ne_nil k more
  refine ⟨filled, chars, ?_⟩
  -- A blank stands before the name, and a blank or the equals sign after it.
  obtain ⟨blanks, left, gap⟩ := List.eq_nil_or_concat d.gap |>.resolve_left d.gap_filled
  obtain ⟨right, tail, follows, ends⟩ : ∃ right tail,
      d.before ++ '=' :: (d.after ++ d.opening :: '.' :: d.cls ++ [d.closing] ++ rest) =
        right :: tail ∧ isIdentifierChar right = false := by
    cases before : d.before with
    | nil => exact ⟨'=', _, rfl, by decide⟩
    | cons c others => exact ⟨c, _, rfl, blank_apart (d.before_blank c (by simp [before]))⟩
  have shape : s = (front ++ d.keyword ++ blanks) ++ left :: (d.name ++ right :: tail) := by
    rw [split, text, gap, ← follows]
    simp
  rw [shape]
  exact mem_identifiers filled chars (blank_apart (d.gap_blank left (by simp [gap]))) ends _ _

/-- The declarations of a script stand in it. -/
theorem constants_declared {source : String} {c : ClassConstant} (declared : c ∈ constants source) :
    ∃ (d : Declaration) (front rest : List Char), d.constant = c ∧
      source.toList = front ++ d.text ++ rest := by
  obtain ⟨parts, _, whole, scanned⟩ := Part.scan_parts source.toList
  rw [constants, scanned, List.filterMap_map, List.mem_filterMap] at declared
  obtain ⟨part, member, found⟩ := declared
  obtain ⟨early, late, rfl⟩ := List.append_of_mem member
  cases part with
  | copied c => cases found
  | declared d =>
    cases found
    refine ⟨d, early.flatMap Part.text, late.flatMap Part.text, rfl, ?_⟩
    rw [← whole, List.flatMap_append, List.flatMap_cons, Part.text, List.append_assoc]

/-- The unused constants of an ASCII script are the declared names that are a single one of its words.
They are given in ascending order, each once. A name that is only a part of another word is not used
there, and no use is missed where occurrences of a name meet.

Proof: a declared name is a word where it is declared, so it is counted once at least. -/
theorem unusedConstants_words (source : String) (ascii : ∀ c ∈ source.toList, c.toNat < 128) :
    (unusedConstants source).Pairwise (· < ·) ∧
      ∀ name, name ∈ unusedConstants source ↔
        (∃ d ∈ constants source, d.name = name) ∧
          (identifiers source.toList).count name.toList = 1 := by
  refine ⟨Memory.ascending_sorted _, fun name => ?_⟩
  rw [unusedConstants, List.mem_eraseDups, (List.mergeSort_perm _ _).mem_iff, List.mem_filter,
    List.mem_map]
  refine and_congr_right ?_
  rintro ⟨c, declared, rfl⟩
  obtain ⟨d, front, rest, rfl, split⟩ := constants_declared declared
  obtain ⟨filled, chars, word⟩ := d.name_mem ascii split
  have named : d.constant.name.toList = d.name := String.toList_ofList
  have counted : count d.constant.name source.toList = (identifiers source.toList).count d.name := by
    rw [count, named, countFrom_words filled chars]
  have once : 0 < (identifiers source.toList).count d.name := List.count_pos_iff.mpr word
  rw [named, counted, decide_eq_true_eq]
  omega

/-- A name that starts another one and ends a third is not used by either of them. -/
theorem unusedConstants_words_nested :
    let source := "const CSS_A = '.a'; let CSS_AB = '.b', x = CSS_CSS_A; f(CSS_AB)"
    (∀ c ∈ source.toList, c.toNat < 128) ∧
      (unusedConstants source).Pairwise (· < ·) ∧ "CSS_A" ∈ unusedConstants source ∧
        "CSS_AB" ∉ unusedConstants source := by
  intro source
  have ascii : ∀ c ∈ source.toList, c.toNat < 128 := by simp [source]
  obtain ⟨ascending, unused⟩ := unusedConstants_words source ascii
  refine ⟨ascii, ascending, (unused _).mpr ⟨?_, by decide +kernel⟩, fun member => ?_⟩
  · exact ⟨⟨"const", "CSS_A", ".a"⟩, by decide +kernel, rfl⟩
  · have words := ((unused _).mp member).2
    revert words
    decide +kernel

end Pagefold.Script
