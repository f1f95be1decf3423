import Mathlib
import Pagefold.Script.ClassConstant
import Pagefold.Proofs.Localization
import Pagefold.Proofs.Text.Cut

/-!
# Declarations of class constants in a text

A declaration is told here part by part: the keyword, the name, the quotes around the class, and the
blanks between them. The reader finds a declaration at the start of a text exactly if the text begins
with the parts of one. No declaration reaches into another one that starts later at the start of a
word.
-/
namespace Pagefold.Script

open Text

namespace ClassConstant

/-! ## The characters of a declaration -/

/-- A text is a word, whatever the case in which it is written. -/
def Spells (word s : List Char) : Prop := List.Forall₂ (fun a c => sameLetter a c = true) word s

theorem afterWord_iff (word s rest : List Char) :
    afterWord? word s = some rest ↔ ∃ spelled, Spells word spelled ∧ s = spelled ++ rest := by
  induction word generalizing s with
  | nil =>
    rw [afterWord?]
    constructor
    · rintro ⟨⟩
      exact ⟨[], .nil, rfl⟩
    · rintro ⟨_, ⟨⟩, rfl⟩
      rfl
  | cons a word inductionHypothesis =>
    cases s with
    | nil => simp [afterWord?, Spells, List.forall₂_cons_left_iff]
    | cons c s =>
      by_cases same : sameLetter a c = true
      · rw [afterWord?, if_pos same, inductionHypothesis]
        constructor
        · rintro ⟨spelled, each, rfl⟩
          exact ⟨c :: spelled, .cons same each, rfl⟩
        · rintro ⟨spelled, each, split⟩
          cases each with
          | cons _ each =>
            obtain ⟨rfl, rfl⟩ := List.cons.inj split
            exact ⟨_, each, rfl⟩
      · rw [afterWord?, if_neg same]
        refine ⟨nofun, ?_⟩
        rintro ⟨spelled, each, split⟩
        cases each with
        | cons here _ =>
          obtain ⟨rfl, rfl⟩ := List.cons.inj split
          exact absurd here same

/-- What holds of all forms of the letters of a word holds of all characters of its spellings. -/
theorem Spells.chars {P : Char → Prop} {word s : List Char} (each : Spells word s)
    (known : ∀ a ∈ word, ∀ c, sameLetter a c = true → P c) : ∀ c ∈ s, P c := by
  induction each with
  | nil => nofun
  | cons same _ inductionHypothesis =>
    intro c member
    rcases List.mem_cons.mp member with rfl | later
    · exact known _ List.mem_cons_self c same
    · exact inductionHypothesis (fun a inside => known a (List.mem_cons_of_mem _ inside)) c later

/-- A character is a form of one small letter only. -/
theorem sameLetter_unique {a b c : Char} (small : a.isLower = true) (small' : b.isLower = true)
    (same : sameLetter a c = true) (same' : sameLetter b c = true) : a = b := by
  simp only [sameLetter, Bool.or_eq_true, beq_iff_eq, Bool.and_eq_true] at same same'
  rcases same with (lowered | ⟨rfl, rfl⟩) | ⟨rfl, rfl⟩ <;>
    rcases same' with (lowered' | ⟨rfl, other⟩) | ⟨rfl, other⟩
  · exact lowered.symm.trans lowered'
  · subst other lowered
    exact absurd small (by decide)
  · subst other lowered
    exact absurd small (by decide)
  · subst lowered'
    exact absurd small' (by decide)
  · rfl
  · exact absurd other (by decide)
  · subst lowered'
    exact absurd small' (by decide)
  · exact absurd other (by decide)
  · rfl

/-- A letter is a letter in every form. -/
theorem isLetterOrDigit_of_sameLetter {a c : Char} (small : a.isLower = true)
    (same : sameLetter a c = true) : isLetterOrDigit c = true := by
  simp only [sameLetter, Bool.or_eq_true, beq_iff_eq, Bool.and_eq_true] at same
  rcases same with (lowered | ⟨_, rfl⟩) | ⟨_, rfl⟩
  · have alphabetic : c.isAlpha = true := by
      by_cases capital : c.isUpper = true
      · simp [Char.isAlpha, capital]
      · rw [Char.toLower_eq_of_not_isUpper capital] at lowered
        simp [Char.isAlpha, lowered, small]
    simp [isLetterOrDigit, Char.isAlphanum, alphabetic]
  all_goals decide

/-- An ASCII letter or digit is a character of keys. -/
theorem isKeyChar_of_isAlphanum {c : Char} (plain : c.isAlphanum = true) :
    Segment.isKeyChar c = true := by
  simp [Segment.isKeyChar, plain]

/-- Letters and digits are characters of words. -/
theorem isWordChar_of_isLetterOrDigit {c : Char} (letter : isLetterOrDigit c = true) :
    isWordChar c = true := by
  simp only [isLetterOrDigit, Bool.or_eq_true, beq_iff_eq] at letter
  rcases letter with (plain | rfl) | rfl
  · have range := Segment.isKeyChar_range c (isKeyChar_of_isAlphanum plain)
    exact isWordChar_of_isAlphanum (by omega) plain
  · decide +kernel
  · decide +kernel

/-- No letter is a blank. -/
theorem isBlank_of_isLetterOrDigit {c : Char} (letter : isLetterOrDigit c = true) :
    isBlank c = false := by
  simp only [isLetterOrDigit, Bool.or_eq_true, beq_iff_eq] at letter
  rcases letter with (plain | rfl) | rfl
  · exact Segment.not_blank_of_isKeyChar c (isKeyChar_of_isAlphanum plain)
  · decide
  · decide

theorem isBlank_of_isNameChar {c : Char} (valid : isNameChar c = true) : isBlank c = false := by
  simp only [isNameChar, Bool.or_eq_true, beq_iff_eq] at valid
  rcases valid with (letter | rfl) | rfl
  · exact isBlank_of_isLetterOrDigit letter
  · decide
  · decide

theorem isBlank_of_isClassChar {c : Char} (valid : isClassChar c = true) : isBlank c = false := by
  simp only [isClassChar, Bool.or_eq_true, beq_iff_eq] at valid
  rcases valid with (letter | rfl) | rfl
  · exact isBlank_of_isLetterOrDigit letter
  · decide
  · decide

theorem keywords_eq : keywords = [['v', 'a', 'r'], ['l', 'e', 't'], ['c', 'o', 'n', 's', 't']] := by
  simp [keywords]

/-- A quote of either kind. -/
def isQuote (c : Char) : Bool := c == '\'' || c == '"'

theorem isQuote_iff (c : Char) : isQuote c = true ↔ c = '\'' ∨ c = '"' := by
  simp [isQuote]

/-- A quote is none of the other characters of a declaration. -/
theorem isQuote_apart {c : Char} (quote : isQuote c = true) :
    isBlank c = false ∧ isClassChar c = false ∧ isLetterOrDigit c = false := by
  rcases (isQuote_iff c).mp quote with rfl | rfl <;> decide

end ClassConstant

open ClassConstant

/-- A declaration of a class constant as it stands in a script, part by part. The dot of the class
is left out. -/
structure Declaration where
  keyword : List Char
  gap : List Char
  name : List Char
  before : List Char
  after : List Char
  opening : Char
  cls : List Char
  closing : Char
  keyword_known : ∃ word ∈ keywords, Spells word keyword
  gap_filled : gap ≠ []
  gap_blank : ∀ c ∈ gap, isBlank c = true
  name_known : ∃ start body, name = start ++ body ∧ Spells "css_".toList start ∧ body ≠ [] ∧
    ∀ c ∈ body, isNameChar c = true
  before_blank : ∀ c ∈ before, isBlank c = true
  after_blank : ∀ c ∈ after, isBlank c = true
  opening_quote : isQuote opening = true
  cls_filled : cls ≠ []
  cls_chars : ∀ c ∈ cls, isClassChar c = true
  closing_quote : isQuote closing = true

namespace Declaration

/-- The text of a declaration. -/
def text (d : Declaration) : List Char :=
  d.keyword ++ d.gap ++ d.name ++ d.before ++ '=' :: d.after ++
    d.opening :: '.' :: d.cls ++ [d.closing]

/-- What is read from a declaration. -/
def constant (d : Declaration) : ClassConstant :=
  ⟨String.ofList d.keyword, String.ofList d.name, String.ofList ('.' :: d.cls)⟩

/-- A keyword is made of letters. -/
theorem keyword_letters (d : Declaration) :
    d.keyword ≠ [] ∧ ∀ c ∈ d.keyword, isLetterOrDigit c = true := by
  obtain ⟨word, known, each⟩ := d.keyword_known
  have small : word ≠ [] ∧ ∀ a ∈ word, a.isLower = true := by
    rw [keywords_eq] at known
    simp only [List.mem_cons, List.not_mem_nil, or_false] at known
    rcases known with rfl | rfl | rfl <;> exact ⟨by simp, List.all_eq_true.mp (by decide)⟩
  refine ⟨?_, each.chars fun a member c => isLetterOrDigit_of_sameLetter (small.2 a member)⟩
  intro empty
  rw [empty] at each
  exact small.1 (List.forall₂_nil_right_iff.mp each)

/-- A keyword starts with a letter. -/
theorem keyword_letter (d : Declaration) :
    ∃ k more, d.keyword = k :: more ∧ isLetterOrDigit k = true := by
  obtain ⟨k, more, keyword⟩ := List.exists_cons_of_ne_nil d.keyword_letters.1
  exact ⟨k, more, keyword, d.keyword_letters.2 k (by simp [keyword])⟩

/-- A declaration ends with its closing quote. -/
theorem text_ends (d : Declaration) : ∃ first passed, d.text = first :: passed ++ [d.closing] := by
  obtain ⟨k, more, keyword, _⟩ := d.keyword_letter
  exact ⟨k, _, by rw [Declaration.text, keyword]; rfl⟩

/-- A name starts with a letter. -/
theorem name_letter (d : Declaration) : ∃ k more, d.name = k :: more ∧ isLetterOrDigit k = true := by
  obtain ⟨start, body, name, spelled, _, _⟩ := d.name_known
  obtain ⟨first, others, letter, _, rfl⟩ := List.forall₂_cons_left_iff.mp spelled
  exact ⟨first, others ++ body, name, isLetterOrDigit_of_sameLetter (by decide) letter⟩

/-- What follows a name is no character of names. -/
theorem name_ends (d : Declaration) (quoted : List Char) :
    ∃ mark tail, d.before ++ '=' :: quoted = mark :: tail ∧ isNameChar mark = false := by
  cases before : d.before with
  | nil => exact ⟨'=', quoted, rfl, by decide⟩
  | cons mark tail =>
    refine ⟨mark, tail ++ '=' :: quoted, rfl, ?_⟩
    have blank := d.before_blank mark (by simp [before])
    by_contra valid
    rw [isBlank_of_isNameChar (by simpa using valid)] at blank
    cases blank

/-- What follows a keyword is a blank. -/
theorem keyword_ends (d : Declaration) (named : List Char) :
    ∃ mark tail, d.gap ++ named = mark :: tail ∧ isBlank mark = true := by
  obtain ⟨mark, tail, gap⟩ := List.exists_cons_of_ne_nil d.gap_filled
  exact ⟨mark, tail ++ named, by rw [gap]; rfl, d.gap_blank mark (by simp [gap])⟩

/-- A name is made of the characters of names. -/
theorem name_chars (d : Declaration) : ∀ c ∈ d.name, isNameChar c = true := by
  obtain ⟨start, body, name, spelled, _, chars⟩ := d.name_known
  have known : ∀ a ∈ "css_".toList, ∀ c, sameLetter a c = true → isNameChar c = true := by
    intro a member c same
    have small : a.isLower = true ∨ a = '_' := by
      simp at member
      rcases member with rfl | rfl | rfl <;> decide
    rcases small with letter | rfl
    · simp [isNameChar, isLetterOrDigit_of_sameLetter letter same]
    · have lowered : c.toLower = '_' := by simpa [sameLetter] using same
      rw [lower_mark c '_' (by decide) lowered]
      decide
  intro c member
  rw [name] at member
  rcases List.mem_append.mp member with inside | inside
  · exact spelled.chars known c inside
  · exact chars c inside

end Declaration

/-! ## Reading a declaration -/

/-- A word with another first letter does not start the text. -/
theorem afterWord_none {a b c : Char} {word s : List Char} (small : a.isLower = true)
    (small' : b.isLower = true) (apart : a ≠ b) (same : sameLetter a c = true) :
    afterWord? (b :: word) (c :: s) = none := by
  rw [afterWord?, if_neg]
  exact fun same' => apart (sameLetter_unique small small' same same')

/-- The keywords have different first letters, so a text starts with one of them at most. -/
theorem keyword_iff (s keyword rest : List Char) :
    keyword? s = some (keyword, rest) ↔
      (∃ word ∈ keywords, Spells word keyword) ∧ s = keyword ++ rest := by
  rw [keyword?, Option.map_eq_some_iff]
  constructor
  · rintro ⟨left, found, same⟩
    obtain ⟨rfl, rfl⟩ := Prod.mk.inj same
    obtain ⟨word, known, after⟩ := List.exists_of_findSome?_eq_some found
    obtain ⟨spelled, each, rfl⟩ := (afterWord_iff _ _ _).mp after
    have taken : (spelled ++ left).take ((spelled ++ left).length - left.length) = spelled := by
      simp
    rw [taken]
    exact ⟨⟨word, known, each⟩, rfl⟩
  · rintro ⟨⟨word, known, each⟩, rfl⟩
    refine ⟨rest, ?_, by simp⟩
    have here := (afterWord_iff word (keyword ++ rest) rest).mpr ⟨keyword, each, rfl⟩
    rw [keywords_eq] at known ⊢
    simp only [List.mem_cons, List.not_mem_nil, or_false] at known
    rcases known with rfl | rfl | rfl <;>
      obtain ⟨c, spelled, same, _, rfl⟩ := List.forall₂_cons_left_iff.mp each <;>
      rw [List.cons_append] at here ⊢
    · simp [here]
    · simp [here,
        afterWord_none (by decide) (by decide) (by decide : 'l' ≠ 'v') same]
    · simp [here,
        afterWord_none (by decide) (by decide) (by decide : 'c' ≠ 'v') same,
        afterWord_none (by decide) (by decide) (by decide : 'c' ≠ 'l') same]

theorem quotedClass_iff (s dotted rest : List Char) :
    quotedClass? s = some (dotted, rest) ↔
      ∃ opening cls closing, isQuote opening = true ∧ isQuote closing = true ∧ cls ≠ [] ∧
        (∀ c ∈ cls, isClassChar c = true) ∧ dotted = '.' :: cls ∧
        s = opening :: '.' :: cls ++ closing :: rest := by
  constructor
  · intro found
    unfold quotedClass? at found
    split at found
    · next q r =>
      split at found
      · next quote =>
        split at found
        · next c cls q' rest' taken left =>
          split at found
          · next quote' =>
            cases found
            refine ⟨q, c :: cls, q', (isQuote_iff q).mpr quote, (isQuote_iff q').mpr quote', by simp,
              fun d member => ?_, rfl, ?_⟩
            · rw [← taken] at member
              exact List.mem_takeWhile_imp member
            · rw [← taken, ← left, List.cons_append, List.cons_append,
                List.takeWhile_append_dropWhile]
          · cases found
        · cases found
      · cases found
    · cases found
  · rintro ⟨opening, cls, closing, quote, quote', filled, chars, rfl, rfl⟩
    obtain ⟨c, others, rfl⟩ := List.exists_cons_of_ne_nil filled
    obtain ⟨taken, left⟩ := run_ends rest chars (isQuote_apart quote').2.1
    rw [List.cons_append, List.cons_append, quotedClass?, if_pos ((isQuote_iff _).mp quote), taken,
      left]
    exact if_pos ((isQuote_iff _).mp quote')

/-- The parts of a declaration are read one after the other. -/
theorem at_parts (s rest : List Char) (c : ClassConstant) :
    at? s = some (c, rest) ↔ ∃ keyword r body quoted cls,
      keyword? s = some (keyword, r) ∧ r.head?.any isBlank = true ∧
      afterWord? "css_".toList (r.dropWhile isBlank) = some body ∧
      body.head?.any isNameChar = true ∧
      (body.dropWhile isNameChar).dropWhile isBlank = '=' :: quoted ∧
      quotedClass? (quoted.dropWhile isBlank) = some (cls, rest) ∧
      c = ⟨String.ofList keyword,
        String.ofList ((r.dropWhile isBlank).take
          ((r.dropWhile isBlank).length - (body.dropWhile isNameChar).length)),
        String.ofList cls⟩ := by
  constructor
  · intro found
    obtain ⟨⟨keyword, r⟩, known, read⟩ := Option.bind_eq_some_iff.mp found
    change (if (!r.head?.any isBlank) = true then none else _) = _ at read
    split at read
    · cases read
    · next spaced =>
      obtain ⟨body, named, read⟩ := Option.bind_eq_some_iff.mp read
      split at read
      · cases read
      · next filled =>
        dsimp only at read
        split at read
        · next quoted equals =>
          obtain ⟨⟨cls, left⟩, quotes, read⟩ := Option.bind_eq_some_iff.mp read
          cases read
          exact ⟨keyword, r, body, quoted, cls, known, by simpa using spaced, named,
            by simpa using filled, equals, quotes, rfl⟩
        · cases read
  · rintro ⟨keyword, r, body, quoted, cls, known, spaced, named, filled, equals, quotes, rfl⟩
    simp only [at?, known, spaced, named, filled, equals, quotes, Option.bind_eq_bind,
      Option.bind_some, Bool.not_true, Bool.false_eq_true, if_false]
    rfl

/-- A declaration is found at the start of a text exactly if the text begins with its parts.

Proof: each part ends where the next one begins, because blanks, the characters of names, those of
classes and quotes are told apart there. -/
theorem at_iff (s rest : List Char) (c : ClassConstant) :
    at? s = some (c, rest) ↔ ∃ d : Declaration, d.constant = c ∧ s = d.text ++ rest := by
  rw [at_parts]
  constructor
  · rintro ⟨keyword, r, body, quoted, dotted, known, spaced, named, filled, equals, quotes, rfl⟩
    obtain ⟨keywordKnown, rfl⟩ := (keyword_iff _ _ _).mp known
    obtain ⟨start, spelled, whole⟩ := (afterWord_iff _ _ _).mp named
    obtain ⟨opening, cls, closing, quote, quote', clsFilled, chars, rfl, split⟩ :=
      (quotedClass_iff _ _ _).mp quotes
    have name : (r.dropWhile isBlank).take
        ((r.dropWhile isBlank).length - (body.dropWhile isNameChar).length) =
          start ++ body.takeWhile isNameChar := by
      have shape : r.dropWhile isBlank =
          (start ++ body.takeWhile isNameChar) ++ body.dropWhile isNameChar := by
        rw [whole, List.append_assoc, List.takeWhile_append_dropWhile]
      conv_lhs => rw [shape]
      rw [List.length_append, Nat.add_sub_cancel, List.take_left']
      rfl
    refine ⟨⟨keyword, r.takeWhile isBlank, start ++ body.takeWhile isNameChar,
      (body.dropWhile isNameChar).takeWhile isBlank, quoted.takeWhile isBlank, opening, cls, closing,
      keywordKnown, ?_, fun _ => List.mem_takeWhile_imp,
      ⟨start, body.takeWhile isNameChar, rfl, spelled, ?_, fun _ => List.mem_takeWhile_imp⟩,
      fun _ => List.mem_takeWhile_imp, fun _ => List.mem_takeWhile_imp, quote, clsFilled, chars,
      quote'⟩, ?_, ?_⟩
    · cases r with
      | nil => cases spaced
      | cons c r => simpa using spaced
    · cases body with
      | nil => cases filled
      | cons c r => simpa using filled
    · rw [Declaration.constant, name]
    · have blanks := List.takeWhile_append_dropWhile (p := isBlank) (l := r)
      have chars := List.takeWhile_append_dropWhile (p := isNameChar) (l := body)
      have equal := List.takeWhile_append_dropWhile (p := isBlank) (l := body.dropWhile isNameChar)
      have quotes := List.takeWhile_append_dropWhile (p := isBlank) (l := quoted)
      rw [split] at quotes
      rw [equals] at equal
      rw [whole] at blanks
      rw [Declaration.text]
      conv_lhs => rw [← blanks, ← chars, ← equal, ← quotes]
      simp only [List.append_assoc, List.cons_append, List.nil_append]
  · rintro ⟨d, rfl, rfl⟩
    obtain ⟨start, body, name, spelled, bodyFilled, bodyChars⟩ := d.name_known
    obtain ⟨first, others, letter, _, rfl⟩ := List.forall₂_cons_left_iff.mp spelled
    have letterBlank : isBlank first = false :=
      isBlank_of_isLetterOrDigit (isLetterOrDigit_of_sameLetter (by decide) letter)
    have quoteBlank := (isQuote_apart d.opening_quote).1
    let quoted := d.after ++ d.opening :: ('.' :: d.cls ++ d.closing :: rest)
    obtain ⟨mark, tail, equals, ends⟩ := d.name_ends quoted
    have spaced := run_ends (others ++ body ++ mark :: tail) d.gap_blank letterBlank
    have named := run_ends tail bodyChars ends
    have assigned := run_ends quoted d.before_blank (by decide : isBlank '=' = false)
    have opened := run_ends ('.' :: d.cls ++ d.closing :: rest) d.after_blank quoteBlank
    refine ⟨d.keyword, d.gap ++ first :: (others ++ body ++ mark :: tail), body ++ mark :: tail,
      quoted, '.' :: d.cls, (keyword_iff _ _ _).mpr ⟨d.keyword_known, ?_⟩, ?_,
      (afterWord_iff _ _ _).mpr ⟨first :: others, spelled, ?_⟩, ?_, ?_,
      (quotedClass_iff _ _ _).mpr ⟨d.opening, d.cls, d.closing, d.opening_quote, d.closing_quote,
        d.cls_filled, d.cls_chars, rfl, opened.2⟩, ?_⟩
    · rw [Declaration.text, name, ← equals]
      simp [quoted]
    · obtain ⟨c, more, gap⟩ := List.exists_cons_of_ne_nil d.gap_filled
      simpa [gap] using d.gap_blank c (by simp [gap])
    · rw [spaced.2]
      simp
    · obtain ⟨c, more, rfl⟩ := List.exists_cons_of_ne_nil bodyFilled
      simpa using bodyChars c List.mem_cons_self
    · rw [named.2, ← equals, assigned.2]
    · rw [spaced.2, named.2, Declaration.constant, name]
      have shape : first :: (others ++ body ++ mark :: tail) =
          (first :: others ++ body) ++ mark :: tail := by simp
      rw [shape, List.length_append, Nat.add_sub_cancel, List.take_left']
      rfl

/-! ## A declaration before other text -/

/-- The characters of a declaration. -/
theorem Declaration.text_chars (d : Declaration) : ∀ c ∈ d.text,
    isNameChar c = true ∨ isBlank c = true ∨ isClassChar c = true ∨ isQuote c = true ∨ c = '=' ∨
      c = '.' := by
  intro c member
  simp only [Declaration.text, List.cons_append, List.append_assoc, List.mem_append, List.mem_cons,
    List.not_mem_nil, or_false] at member
  rcases member with keyword | gap | name | before | rfl | after | rfl | rfl | cls | rfl
  · simp [isNameChar, d.keyword_letters.2 c keyword]
  · simp [d.gap_blank c gap]
  · simp [d.name_chars c name]
  · simp [d.before_blank c before]
  · simp
  · simp [d.after_blank c after]
  · simp [d.opening_quote]
  · simp
  · simp [d.cls_chars c cls]
  · simp [d.closing_quote]

/-- No declaration holds a semicolon, so one that starts before it ends before it. -/
theorem at_parted {front : List Char} (none : at? front = none) (back : List Char) :
    at? (front ++ ';' :: back) = Option.none := by
  rw [Option.eq_none_iff_forall_not_mem] at none ⊢
  rintro ⟨c, left⟩ found
  obtain ⟨d, named, split⟩ := (at_iff _ _ _).mp found
  rcases List.append_eq_append_iff.mp split with ⟨more, longer, later⟩ | ⟨more, shorter, _⟩
  · cases more with
    | nil => exact none (c, []) ((at_iff _ _ _).mpr ⟨d, named, by simpa using longer.symm⟩)
    | cons mark more =>
      obtain ⟨rfl, _⟩ := List.cons.inj later
      have inside := d.text_chars ';' (by simp [longer])
      revert inside
      decide
  · exact none (c, more) ((at_iff _ _ _).mpr ⟨d, named, shorter⟩)

namespace Declaration

variable {first second front tail : List Char} {k : Char}

/-- What follows a run of accepted characters is the same, however the text is divided. -/
theorem runs_end {p : Char → Bool} {c d : Char} (each : ∀ e ∈ first, p e = true)
    (each' : ∀ e ∈ second, p e = true) (stops : p c = false) (stops' : p d = false)
    (same : first ++ c :: front = second ++ d :: tail) : c :: front = d :: tail := by
  rw [← (run_ends front each stops).2, same, (run_ends tail each' stops').2]

/-- A letter comes after a part that holds no letters. -/
theorem letter_passes (apart : ∀ c ∈ first, isLetterOrDigit c = false)
    (letter : isLetterOrDigit k = true) (split : first ++ second = front ++ k :: tail) :
    ∃ more, front = first ++ more ∧ second = more ++ k :: tail := by
  rcases List.append_eq_append_iff.mp split with ⟨more, longer, rest⟩ | ⟨more, shorter, rest⟩
  · exact ⟨more, longer, rest⟩
  · cases more with
    | nil => exact ⟨[], by simpa using shorter.symm, by simpa using rest.symm⟩
    | cons c more =>
      obtain ⟨rfl, _⟩ := List.cons.inj rest
      rw [apart k (by simp [shorter])] at letter
      cases letter

/-- A letter is in a part or comes after it. -/
theorem letter_splits (split : first ++ second = front ++ k :: tail) :
    (∃ run, first = front ++ k :: run ∧ tail = run ++ second) ∨
      ∃ more, front = first ++ more ∧ second = more ++ k :: tail := by
  rcases List.append_eq_append_iff.mp split with ⟨more, longer, rest⟩ | ⟨more, shorter, rest⟩
  · exact Or.inr ⟨more, longer, rest⟩
  · cases more with
    | nil => exact Or.inr ⟨[], by simpa using shorter.symm, by simpa using rest.symm⟩
    | cons c more =>
      obtain ⟨rfl, rfl⟩ := List.cons.inj rest
      exact Or.inl ⟨more, shorter, rfl⟩

/-- A letter of a declaration is in its keyword, in its name or in its class. -/
theorem letter_inside (d : Declaration) (letter : isLetterOrDigit k = true)
    (split : d.text = front ++ k :: tail) :
    (∃ run, d.keyword = front ++ k :: run) ∨
      (∃ run quoted, (∀ c ∈ k :: run, isNameChar c = true) ∧
        tail = run ++ d.before ++ '=' :: quoted) ∨
      ∃ run, (∀ c ∈ k :: run, isClassChar c = true) ∧ tail = run ++ [d.closing] := by
  have blank : ∀ {s : List Char}, (∀ c ∈ s, isBlank c = true) → ∀ c ∈ s, isLetterOrDigit c = false := by
    intro s each c member
    by_contra valid
    have other := isBlank_of_isLetterOrDigit (by simpa using valid)
    rw [each c member] at other
    cases other
  have shape : d.text = d.keyword ++ (d.gap ++ (d.name ++ (d.before ++ (['='] ++ (d.after ++
      ([d.opening, '.'] ++ (d.cls ++ [d.closing]))))))) := by
    simp [text]
  rw [shape] at split
  rcases letter_splits split with ⟨run, keyword, _⟩ | ⟨_, _, split⟩
  · exact Or.inl ⟨run, keyword⟩
  obtain ⟨_, _, split⟩ := letter_passes (blank d.gap_blank) letter split
  rcases letter_splits split with ⟨run, name, rest⟩ | ⟨_, _, split⟩
  · refine Or.inr (Or.inl ⟨run, d.after ++ ([d.opening, '.'] ++ (d.cls ++ [d.closing])),
      fun c member => d.name_chars c ?_, ?_⟩)
    · rw [name]
      exact List.mem_append_right _ member
    · rw [rest, List.append_assoc]
      rfl
  obtain ⟨_, _, split⟩ := letter_passes (blank d.before_blank) letter split
  obtain ⟨_, _, split⟩ := letter_passes (List.forall_mem_singleton.mpr (by decide)) letter split
  obtain ⟨_, _, split⟩ := letter_passes (blank d.after_blank) letter split
  obtain ⟨_, _, split⟩ := letter_passes (by
    intro c member
    rcases List.mem_cons.mp member with rfl | dot
    · exact (isQuote_apart d.opening_quote).2.2
    · rw [List.mem_singleton.mp dot]
      decide) letter split
  rcases letter_splits split with ⟨run, cls, rest⟩ | ⟨more, _, split⟩
  · refine Or.inr (Or.inr ⟨run, fun c member => d.cls_chars c ?_, rest⟩)
    rw [cls]
    exact List.mem_append_right _ member
  · exfalso
    have last : k ∈ [d.closing] := by simp [split]
    rw [List.mem_singleton.mp last, (isQuote_apart d.closing_quote).2.2] at letter
    cases letter

/-- A declaration does not reach into another one that starts later at the start of a word: what
follows the keyword there is neither the equals sign after a name nor the quote after a class.

Proof: the keyword starts with a letter. In the keyword of the first declaration it would be inside
a word. In its name or its class it would end with them, at a blank. Then the equals sign of the first
declaration would come before the name of the second one, or its quote would be a blank. -/
theorem text_apart {d other : Declaration} {front rest left : List Char} (some : front ≠ [])
    (boundary : ∀ c ∈ front.getLast?, isWordChar c = false)
    (split : front ++ (other.text ++ rest) = d.text ++ left) : d.text <+: front := by
  rcases List.append_eq_append_iff.mp split with ⟨more, longer, later⟩ | ⟨more, shorter, _⟩
  · cases more with
    | nil => exact ⟨[], by simpa using longer⟩
    | cons c more =>
      exfalso
      obtain ⟨k, letters, keyword, letter⟩ := other.keyword_letter
      have parts : other.text ++ rest = other.keyword ++ (other.gap ++ (other.name ++
          (other.before ++ '=' :: other.after ++ other.opening :: '.' :: other.cls ++
            [other.closing] ++ rest))) := by
        simp [text]
      generalize other.before ++ '=' :: other.after ++ other.opening :: '.' :: other.cls ++
        [other.closing] ++ rest = quoted at parts
      obtain ⟨mark, tail, gap, blank⟩ := other.keyword_ends (other.name ++ quoted)
      have head : k = c := by
        rw [parts, keyword] at later
        exact (List.cons.inj later).1
      rw [parts] at later
      rw [head] at letter
      have letters' := other.keyword_letters.2
      rcases d.letter_inside letter longer with ⟨run, inside⟩ | ⟨run, assigned, chars, whole⟩ |
          ⟨run, chars, whole⟩
      · -- The keyword would start inside a word.
        have last : front.getLast some ∈ d.keyword := by simp [inside]
        have word := isWordChar_of_isLetterOrDigit (d.keyword_letters.2 _ last)
        rw [boundary _ (by simp [List.getLast?_eq_getLast_of_ne_nil some])] at word
        cases word
      · obtain ⟨mark', tail', equals, ends⟩ := d.name_ends (assigned ++ left)
        have left' : c :: more ++ left = (c :: run) ++ mark' :: tail' := by
          rw [whole, ← equals]
          simp
        rw [left', gap] at later
        have names := runs_end (fun e member => by simp [isNameChar, letters' e member]) chars
          (by
            by_contra valid
            rw [isBlank_of_isNameChar (by simpa using valid)] at blank
            cases blank) ends later
        obtain ⟨l, others, name, nameLetter⟩ := other.name_letter
        rw [← gap, ← equals, name] at names
        have same := runs_end other.gap_blank d.before_blank (isBlank_of_isLetterOrDigit nameLetter)
          (by decide) names
        rw [(List.cons.inj same).1] at nameLetter
        exact absurd nameLetter (by decide)
      · have left' : c :: more ++ left = (c :: run) ++ d.closing :: left := by
          rw [whole]
          simp
        rw [left', gap] at later
        have classes := runs_end (fun e member => by simp [isClassChar, letters' e member]) chars
          (by
            by_contra valid
            rw [isBlank_of_isClassChar (by simpa using valid)] at blank
            cases blank) (isQuote_apart d.closing_quote).2.1 later
        rw [(List.cons.inj classes).1, (isQuote_apart d.closing_quote).1] at blank
        cases blank
  · exact ⟨more, shorter.symm⟩

end Declaration

/-- No declaration starts with an empty text or with a character that is no letter. -/
theorem at_none {c : Char} (other : isLetterOrDigit c = false) (s : List Char) :
    at? (c :: s) = none := by
  rw [Option.eq_none_iff_forall_not_mem]
  rintro ⟨read, rest⟩ found
  obtain ⟨d, _, split⟩ := (at_iff _ _ _).mp found
  obtain ⟨k, more, keyword, letter⟩ := d.keyword_letter
  rw [Declaration.text, keyword] at split
  obtain ⟨rfl, _⟩ := List.cons.inj split
  rw [other] at letter
  cases letter

end Pagefold.Script
