import Mathlib
import Pagefold.Html.Parse
import Pagefold.Proofs.Html.Lexemes
import Pagefold.Proofs.Html.Partition
import Pagefold.Proofs.Html.Pieces

/-!
# Text that is read again

A written document may be read again. Text that has been escaped holds neither `<` nor `>`, so no tag
begins or ends in it, whatever has been read before it. Text of a raw element is written as it is: it
is read as text where the element is raw for the reader, too, and holds no end tag of it.
-/
namespace Pagefold.Html

/-! ## What the reader sees of a part -/

/-- What the reader sees of a part of a text: all line ends are line feeds, and a byte order mark or
the second half of a line end may be missing at its start. -/
def Seen (part seen : List Char) : Prop :=
  seen = normalizeLines part ∨
    ∃ c rest, part = c :: rest ∧ (c = '\ufeff' ∨ c = '\n') ∧ seen = normalizeLines rest

/-- The characters that are seen are those of the part and line feeds. -/
theorem mem_normalizeLines {c : Char} {s : List Char} (member : c ∈ normalizeLines s) :
    c ∈ s ∨ c = '\n' := by
  fun_induction normalizeLines s <;> grind

/-- What is seen holds no characters that the part does not hold, line feeds apart. -/
theorem Seen.mem {part seen : List Char} (seen_of : Seen part seen) {c : Char} (member : c ∈ seen) :
    c ∈ part ∨ c = '\n' := by
  rcases seen_of with rfl | ⟨first, rest, rfl, _, rfl⟩
  · exact mem_normalizeLines member
  · exact (mem_normalizeLines member).imp_left (List.mem_cons_of_mem first)

/-- Line ends are seen part by part. Only a line end that two parts share is seen in the first. -/
theorem normalizeLines_append (first second : List Char) :
    ∃ seen, normalizeLines (first ++ second) = normalizeLines first ++ seen ∧
      Seen second seen := by
  fun_induction normalizeLines first with
  | case1 rest inductionHypothesis =>
    obtain ⟨seen, whole, later⟩ := inductionHypothesis
    exact ⟨seen, by simp [normalizeLines, whole], later⟩
  | case2 rest lone inductionHypothesis =>
    cases rest with
    | cons c others =>
      obtain ⟨seen, whole, later⟩ := inductionHypothesis
      refine ⟨seen, ?_, later⟩
      have apart : c ≠ '\n' := by
        rintro rfl
        exact lone others rfl
      rw [List.cons_append, List.cons_append, normalizeLines, ← List.cons_append, whole]
      · rfl
      · intro r same
        exact apart (List.cons.inj same).1
    | nil =>
      -- The line end that starts here may end in the second part.
      by_cases shared : second.head? = some '\n'
      · obtain ⟨others, rfl⟩ := List.head?_eq_some_iff.mp shared
        exact ⟨normalizeLines others, rfl, Or.inr ⟨'\n', others, rfl, Or.inr rfl, rfl⟩⟩
      · refine ⟨normalizeLines second, ?_, Or.inl rfl⟩
        rw [List.singleton_append, normalizeLines]
        · rfl
        · rintro r rfl
          exact shared rfl
  | case3 c rest _ other inductionHypothesis =>
    obtain ⟨seen, whole, later⟩ := inductionHypothesis
    refine ⟨seen, ?_, later⟩
    have apart : c ≠ '\r' := other
    rw [List.cons_append, normalizeLines, whole]
    · rfl
    all_goals
      intros
      simp_all
  | case4 => exact ⟨normalizeLines second, rfl, Or.inl rfl⟩

/-- What is seen of two parts is what is seen of each of them. -/
theorem Seen.append {first second seen : List Char} (whole : Seen (first ++ second) seen) :
    ∃ seen₁ seen₂, seen = seen₁ ++ seen₂ ∧ Seen first seen₁ ∧ Seen second seen₂ := by
  rcases whole with rfl | ⟨c, rest, split, start, rfl⟩
  · obtain ⟨seen, joined, later⟩ := normalizeLines_append first second
    exact ⟨_, seen, joined, Or.inl rfl, later⟩
  · cases first with
    | nil => exact ⟨[], _, rfl, Or.inl rfl, Or.inr ⟨c, rest, split, start, rfl⟩⟩
    | cons d others =>
      obtain ⟨rfl, rfl⟩ := List.cons.inj split
      obtain ⟨seen, joined, later⟩ := normalizeLines_append others second
      exact ⟨_, seen, joined, Or.inr ⟨d, others, rfl, start, rfl⟩, later⟩

/-- What is read of a document. -/
theorem seen_whole (s : List Char) : Seen s (normalizeLines (dropMark s)) := by
  unfold dropMark
  split
  · next marked =>
    obtain ⟨rest, rfl⟩ := List.head?_eq_some_iff.mp marked
    exact Or.inr ⟨_, rest, rfl, Or.inl rfl, rfl⟩
  · exact Or.inl rfl

/-! ## Text in which no tag begins or ends -/

/-- No tag begins or ends in the middle of a text. What is read before does not matter: a step of the
reader may start anywhere and in any way of reading. -/
def Inert (before text after : List Char) : Prop :=
  ∀ (reading : Reading) (inForeign : Bool) (passed ahead : List Char),
    before ++ text ++ after = passed ++ ahead → ahead ≠ [] →
    (∃ token ∈ (Lexer.next reading inForeign ahead).1, token.isTag = true) →
      (passed.length < before.length ∨ before.length + text.length ≤ passed.length) ∧
      ((Lexer.next reading inForeign ahead).2.length < after.length ∨
        after.length + text.length ≤ (Lexer.next reading inForeign ahead).2.length)

/-- A character that is not in the middle of a text is before or after it. -/
theorem outside_middle {before text after passed rest : List Char} {c : Char}
    (same : before ++ text ++ after = passed ++ c :: rest) (absent : c ∉ text) :
    passed.length < before.length ∨ before.length + text.length ≤ passed.length := by
  by_contra inside
  have here : (before ++ text ++ after)[passed.length]? = some c := by
    rw [same, List.getElem?_append_right (Nat.le_refl _), Nat.sub_self]
    rfl
  rw [List.append_assoc, List.getElem?_append_right (by omega),
    List.getElem?_append_left (by omega)] at here
  exact absent (List.mem_of_getElem? here)

/-- A text without the marks of tags is inert. -/
theorem inert_of_unmarked (before : List Char) {text : List Char} (after : List Char)
    (unmarked : '<' ∉ text ∧ '>' ∉ text) : Inert before text after := by
  intro reading inForeign passed ahead same some tag
  obtain ⟨inner, split⟩ := (Lexer.next_takes reading inForeign some).tag tag
  generalize (Lexer.next reading inForeign ahead).2 = rest at split ⊢
  subst split
  refine ⟨outside_middle same unmarked.1, ?_⟩
  have closing : before ++ text ++ after = (passed ++ '<' :: inner) ++ '>' :: rest := by
    rw [same]
    simp
  have place := outside_middle closing unmarked.2
  have length := congrArg List.length closing
  simp only [List.length_append, List.length_cons] at place length
  omega

/-! ## Written text -/

/-- Escaped text holds no marks of tags. -/
theorem escapeText_unmarked (s : List Char) : '<' ∉ escapeText s ∧ '>' ∉ escapeText s := by
  fun_induction escapeText s <;> simp_all [eq_comm]

/-- Text that is not raw is written without the marks of tags. -/
theorem Emitter.text_unmarked (e : Emitter) {mode : TextMode} (escaped : mode ≠ .raw)
    (content : String) :
    '<' ∉ (e.text mode content).toList ∧ '>' ∉ (e.text mode content).toList := by
  cases mode with
  | raw => exact absurd rfl escaped
  | preserve | collapse =>
    rw [Emitter.text, String.toList_ofList]
    exact escapeText_unmarked _

/-- The names of raw elements are read as they are written. -/
theorem small_raw : ∀ name ∈ rawElements, Lexer.Small name := by
  intro name member
  have checked : ∀ name ∈ rawElements,
      name.toList ≠ [] ∧ name.toList.all Char.isLower = true := by decide
  obtain ⟨nonempty, letters⟩ := checked name member
  exact ⟨nonempty, List.all_eq_true.mp letters⟩

/-- When a written document is read again, no tag begins or ends in a text, unless the text has been
written raw and holds a mark of a tag. Raw text of an element that is raw for the reader, too, is read
as text up to the end tag of the element exactly if it holds no such end tag itself.

Proof: the pieces of the document are written one after the other, so that what is read is what is
seen of the pieces before the text, of the text, and of those after it. A step of the reader that
yields a tag starts at a `<` and ends after a `>`, neither of which is seen in the text. -/
theorem texts_reread (source : String) (e : Emitter) (classes : Class.Table) :
    ∃ parts, (e.emit (parse source) classes).1 = String.join parts ∧
      List.Forall₂ e.Writes parts ((parse source).pieces .collapse) ∧
      (∀ first mode content last,
        (parse source).pieces .collapse = first ++ .text mode content :: last →
        (mode = .raw → '<' ∉ (e.text mode content).toList ∧ '>' ∉ (e.text mode content).toList) →
        ∃ left right before text after,
          parts = left ++ e.text mode content :: right ∧ left.length = first.length ∧
          normalizeLines (dropMark (String.join parts).toList) = before ++ text ++ after ∧
          Seen (String.join left).toList before ∧ Seen (e.text mode content).toList text ∧
          Seen (String.join right).toList after ∧ Inert before text after) ∧
      ∀ name ∈ rawElements, ∀ content after, e.text .raw content ≠ "" →
        (Lexer.Encloses (.raw name) name (e.text .raw content).toList after ↔
          ∀ t, t <:+ (e.text .raw content).toList → Lexer.atEndTag name t = false) := by
  obtain ⟨parts, written, each⟩ := e.emit_pieces (parse source) classes
  refine ⟨parts, written, each, ?_, ?_⟩
  · intro first mode content last pieces unmarked
    rw [pieces] at each
    have later := List.forall₂_drop_append parts first _ each
    obtain ⟨part, right, here, _, split⟩ := List.forall₂_cons_right_iff.mp later
    obtain rfl : part = e.text mode content := here
    have length := (List.forall₂_take_append parts first _ each).length_eq
    have whole : parts = parts.take first.length ++ e.text mode content :: right := by
      rw [← split, List.take_append_drop]
    have joined : (String.join parts).toList = (String.join (parts.take first.length)).toList ++
        ((e.text mode content).toList ++ (String.join right).toList) := by
      conv_lhs => rw [whole]
      simp [String.join_append, String.join_cons]
    have read := seen_whole (String.join parts).toList
    rw [joined] at read
    obtain ⟨before, others, sum, seenBefore, seenOthers⟩ := read.append
    obtain ⟨text, after, rest, seenText, seenAfter⟩ := seenOthers.append
    refine ⟨_, right, before, text, after, whole, length, ?_, seenBefore, seenText, seenAfter,
      inert_of_unmarked before after ?_⟩
    · rw [joined, sum, rest, List.append_assoc]
    · have free : '<' ∉ (e.text mode content).toList ∧ '>' ∉ (e.text mode content).toList := by
        by_cases raw : mode = .raw
        · exact unmarked raw
        · exact e.text_unmarked raw content
      constructor
      · intro member
        exact (seenText.mem member).elim free.1 (by decide)
      · intro member
        exact (seenText.mem member).elim free.2 (by decide)
  · intro name member content after nonempty
    apply Lexer.raw_encloses (small_raw name member)
    simpa using nonempty

/-- Where SVG is read the element is not raw, and its text becomes an element. -/
theorem foreign_raw_reread :
    ∃ around, (parse "<svg><xmp>&#60;b&#62;</xmp></svg>").texts [] = [⟨around, "<b>"⟩] ∧
      (Emitter.emit {} (parse "<svg><xmp>&#60;b&#62;</xmp></svg>") {}).1 =
        "<html><head></head><body><svg><xmp><b></xmp></svg></body></html>" ∧
      (parse "<html><head></head><body><svg><xmp><b></xmp></svg></body></html>").texts [] = [] := by
  refine ⟨[("html", []), ("body", []), ("svg", []), ("xmp", [])], ?_⟩
  decide +kernel

end Pagefold.Html
