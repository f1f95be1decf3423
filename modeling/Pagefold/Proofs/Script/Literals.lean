import Mathlib
import Pagefold.Proofs.Script.Renaming
import Pagefold.Script.Lexeme

/-!
# String literals of renamed scripts

A renamed declaration is written with single quotes. Whether the literals around it stay what they
are is told here by a reader of scripts that knows comments, string literals and templates with their
placeholders, but not regular expressions. After a declaration the reader is where it was in the
original text exactly if both quotes of the declaration are the same, or if quotes mean nothing there.
-/
namespace Pagefold.Script

open ClassConstant

/-- What a script is read as. -/
inductive Mode where
  | code
  /-- Code, after a slash. -/
  | slash
  | lineComment
  | blockComment
  /-- A comment, after an asterisk. -/
  | star
  | literal (q : Quote)
  /-- A literal, after a backslash. -/
  | escaped (q : Quote)
  /-- A template, after a dollar sign. -/
  | dollar
  deriving DecidableEq, Repr

/-- A position in a script: what is read there, and the braces that are open in each placeholder of a
template around it, the innermost placeholder first. -/
structure Position where
  mode : Mode := .code
  braces : List Nat := []
  deriving DecidableEq, Repr

namespace Position

/-- The position after a character of code other than a slash. -/
def inCode (braces : List Nat) (c : Char) : Position :=
  match Quote.ofChar? c with
  | some q => ⟨.literal q, braces⟩
  | none =>
    match c, braces with
    | '{', depth :: outer => ⟨.code, (depth + 1) :: outer⟩
    | '}', 0 :: outer => ⟨.literal .grave, outer⟩
    | '}', (depth + 1) :: outer => ⟨.code, depth :: outer⟩
    | _, _ => ⟨.code, braces⟩

/-- The position after a character of a literal. -/
def inLiteral (q : Quote) (braces : List Nat) (c : Char) : Position :=
  if c = '\\' then ⟨.escaped q, braces⟩
  else if Quote.ofChar? c = some q then ⟨.code, braces⟩
  else if q = .grave ∧ c = '$' then ⟨.dollar, braces⟩
  else ⟨.literal q, braces⟩

/-- The position after a character. -/
def next (p : Position) (c : Char) : Position :=
  match p.mode with
  | .code => if c = '/' then ⟨.slash, p.braces⟩ else inCode p.braces c
  | .slash =>
    if c = '/' then ⟨.lineComment, p.braces⟩
    else if c = '*' then ⟨.blockComment, p.braces⟩
    else inCode p.braces c
  | .lineComment => if Lexeme.endsLine c then ⟨.code, p.braces⟩ else p
  | .blockComment => if c = '*' then ⟨.star, p.braces⟩ else p
  | .star =>
    if c = '/' then ⟨.code, p.braces⟩
    else if c = '*' then p
    else ⟨.blockComment, p.braces⟩
  | .literal q => inLiteral q p.braces c
  | .escaped q => ⟨.literal q, p.braces⟩
  | .dollar => if c = '{' then ⟨.code, 0 :: p.braces⟩ else inLiteral .grave p.braces c

/-- The position after a text. -/
def after (p : Position) (s : List Char) : Position := s.foldl next p

theorem after_append (p : Position) (s t : List Char) : p.after (s ++ t) = (p.after s).after t :=
  List.foldl_append

/-! ## Characters that mean nothing by themselves -/

/-- The characters that can change what is read, line breaks and dollar signs apart. -/
def marks : List Char := ['\\', '/', '*', '{', '}', '\'', '"', '`']

/-- A character that is neither a quote nor another mark. -/
def Quiet (c : Char) : Prop := c ∉ marks

instance (c : Char) : Decidable (Quiet c) := inferInstanceAs (Decidable (c ∉ marks))

theorem quiet_of {p : Char → Bool} (apart : marks.any p = false) {c : Char} (valid : p c = true) :
    Quiet c :=
  fun mark => Bool.false_ne_true (apart.symm.trans (List.any_eq_true.mpr ⟨c, mark, valid⟩))

theorem Quiet.quote {c : Char} (quiet : Quiet c) : Quote.ofChar? c = none := by
  simp only [Quiet, marks, List.mem_cons, not_or] at quiet
  simp [Quote.ofChar?, quiet]

theorem Quiet.inCode {c : Char} (quiet : Quiet c) (braces : List Nat) :
    Position.inCode braces c = ⟨.code, braces⟩ := by
  unfold Position.inCode
  simp only [quiet.quote]
  split <;> first | rfl | exact absurd (by decide) quiet

/-- Positions where characters that are no marks mean nothing: code and literals, but not templates. -/
def Plain (p : Position) : Prop :=
  p.mode = .code ∨ p.mode = .literal .single ∨ p.mode = .literal .double

theorem Plain.next_quiet {p : Position} (plain : p.Plain) {c : Char} (quiet : Quiet c) :
    p.next c = p := by
  obtain ⟨mode, braces⟩ := p
  have slash : c ≠ '/' := by
    rintro rfl
    exact quiet (by decide)
  have backslash : c ≠ '\\' := by
    rintro rfl
    exact quiet (by decide)
  rcases plain with rfl | rfl | rfl
  · simp [next, slash, quiet.inCode]
  all_goals simp [next, inLiteral, backslash, quiet.quote]

theorem Plain.after_quiet {p : Position} (plain : p.Plain) {s : List Char}
    (quiet : ∀ c ∈ s, Quiet c) : p.after s = p := by
  induction s with
  | nil => rfl
  | cons c s inductionHypothesis =>
    obtain ⟨first, others⟩ := List.forall_mem_cons.mp quiet
    rw [after, List.foldl_cons, plain.next_quiet first]
    exact inductionHypothesis others

/-- Code and literals end in code and literals at a quote. -/
theorem Plain.next_quote {p : Position} (plain : p.Plain) {c : Char} (quote : isQuote c = true) :
    (p.next c).Plain := by
  obtain ⟨mode, braces⟩ := p
  rcases plain with rfl | rfl | rfl <;> rcases (isQuote_iff c).mp quote with rfl | rfl <;>
    simp [Plain, next, inCode, inLiteral, Quote.ofChar?]

/-- After two quotes a reader of code or of a literal is where it would be after two single ones exactly
if they are the same. -/
theorem Plain.quotes {p : Position} (plain : p.Plain) {opening closing : Char}
    (quote : isQuote opening = true) (quote' : isQuote closing = true) :
    (p.next '\'').next '\'' = (p.next opening).next closing ↔ opening = closing := by
  obtain ⟨mode, braces⟩ := p
  rcases plain with rfl | rfl | rfl <;>
    rcases (isQuote_iff _).mp quote with rfl | rfl <;>
    rcases (isQuote_iff _).mp quote' with rfl | rfl <;>
    simp [next, inCode, inLiteral, Quote.ofChar?]

end Position

open Position

/-! ## The position after a declaration -/

namespace Declaration

/-- A declaration up to its first quote. -/
def lead (d : Declaration) : List Char :=
  d.keyword ++ d.gap ++ d.name ++ d.before ++ '=' :: d.after

theorem text_lead (d : Declaration) :
    d.text = d.lead ++ d.opening :: '.' :: d.cls ++ [d.closing] := by
  simp [text, lead]

theorem lead_quiet (d : Declaration) : ∀ c ∈ d.lead, Quiet c := by
  have letter : ∀ c, isLetterOrDigit c = true → Quiet c := fun _ => quiet_of (by decide)
  have blank : ∀ c, Text.isBlank c = true → Quiet c := fun _ => quiet_of (by decide)
  have name : ∀ c, isNameChar c = true → Quiet c := fun _ => quiet_of (by decide)
  intro c member
  simp only [lead, List.append_assoc, List.mem_append, List.mem_cons] at member
  rcases member with inside | inside | inside | inside | rfl | inside
  · exact letter c (d.keyword_letters.2 c inside)
  · exact blank c (d.gap_blank c inside)
  · exact name c (d.name_chars c inside)
  · exact blank c (d.before_blank c inside)
  · decide
  · exact blank c (d.after_blank c inside)

theorem cls_quiet (d : Declaration) : ∀ c ∈ '.' :: d.cls, Quiet c := by
  intro c member
  rcases List.mem_cons.mp member with rfl | inside
  · decide
  · exact quiet_of (by decide) (d.cls_chars c inside)

/-- In code and in literals only the quotes of a declaration matter. -/
theorem after_plain (d : Declaration) {p : Position} (plain : p.Plain) {s : List Char}
    (quiet : ∀ c ∈ s, Quiet c) :
    p.after (s ++ d.opening :: '.' :: d.cls ++ [d.closing]) =
      (p.next d.opening).next d.closing := by
  have opened := plain.next_quote d.opening_quote
  rw [List.append_assoc, Position.after_append, plain.after_quiet quiet, List.cons_append,
    Position.after, List.foldl_cons, ← Position.after, Position.after_append, opened.after_quiet d.cls_quiet]
  rfl

/-- A declaration consists of quotes and of characters that are no marks. -/
theorem text_quiet (d : Declaration) : ∀ c ∈ d.text, Quiet c ∨ isQuote c = true := by
  intro c member
  rw [text_lead, List.append_assoc, List.mem_append, List.cons_append, List.mem_cons,
    List.mem_append, List.mem_singleton] at member
  rcases member with inside | rfl | inside | rfl
  · exact Or.inl (d.lead_quiet c inside)
  · exact Or.inr d.opening_quote
  · exact Or.inl (d.cls_quiet c inside)
  · exact Or.inr d.closing_quote

/-- After its first letter a declaration is read from code or from a literal. -/
theorem after_letter (d : Declaration) {p : Position} {q : Position} (plain : q.Plain)
    (starts : ∀ k, Quiet k → p.next k = q) : p.after d.text = (q.next d.opening).next d.closing := by
  obtain ⟨k, more, keyword, letter⟩ := d.keyword_letter
  obtain ⟨others, lead⟩ : ∃ others, d.lead = k :: others :=
    ⟨_, by rw [Declaration.lead, keyword]; rfl⟩
  have quiet := lead ▸ d.lead_quiet
  rw [text_lead, lead, List.cons_append, List.cons_append, Position.after, List.foldl_cons,
    starts k (quiet k List.mem_cons_self), ← Position.after]
  exact d.after_plain plain fun c member => quiet c (List.mem_cons_of_mem _ member)

end Declaration

namespace Position

/-- What is neither a mark nor more than a quote does not end a comment. -/
theorem after_comment {s : List Char} (each : ∀ c ∈ s, Quiet c ∨ isQuote c = true) (some : s ≠ [])
    {mode : Mode} (comment : mode = .blockComment ∨ mode = .star) (braces : List Nat) :
    (⟨mode, braces⟩ : Position).after s = ⟨.blockComment, braces⟩ := by
  induction s generalizing mode with
  | nil => exact absurd rfl some
  | cons c s inductionHypothesis =>
    obtain ⟨first, others⟩ := List.forall_mem_cons.mp each
    have apart : c ≠ '/' ∧ c ≠ '*' := by
      constructor <;> rintro rfl <;> revert first <;> decide
    have here : (⟨mode, braces⟩ : Position).next c = ⟨.blockComment, braces⟩ := by
      rcases comment with rfl | rfl <;> simp [next, apart]
    rw [after, List.foldl_cons, here]
    by_cases last : s = []
    · rw [last]
      rfl
    · exact inductionHypothesis others last (Or.inl rfl)

/-- A template goes on after a character other than its marks. -/
theorem next_template {c : Char} (other : Quiet c ∨ isQuote c = true) {mode : Mode}
    (template : mode = .literal .grave ∨ mode = .dollar) (braces : List Nat) :
    (⟨mode, braces⟩ : Position).next c = ⟨if c = '$' then .dollar else .literal .grave, braces⟩ := by
  have apart : c ≠ '\\' ∧ c ≠ '{' ∧ Quote.ofChar? c ≠ some .grave := by
    refine ⟨?_, ?_, ?_⟩
    · rintro rfl
      revert other
      decide
    · rintro rfl
      revert other
      decide
    · rcases other with quiet | quote
      · rw [quiet.quote]
        nofun
      · rcases (isQuote_iff c).mp quote with rfl | rfl <;> decide
  rcases template with rfl | rfl <;> simp only [next, inLiteral, apart, if_false, true_and] <;>
    split <;> rfl

/-- A template goes on after a text without its marks. -/
theorem after_template {s : List Char} {last : Char}
    (each : ∀ c ∈ s, Quiet c ∨ isQuote c = true) (quote : isQuote last = true) {mode : Mode}
    (template : mode = .literal .grave ∨ mode = .dollar) (braces : List Nat) :
    (⟨mode, braces⟩ : Position).after (s ++ [last]) = ⟨.literal .grave, braces⟩ := by
  induction s generalizing mode with
  | nil =>
    have apart : last ≠ '$' := by
      rintro rfl
      revert quote
      decide
    rw [List.nil_append, after, List.foldl_cons, next_template (Or.inr quote) template,
      if_neg apart]
    rfl
  | cons c s inductionHypothesis =>
    obtain ⟨first, others⟩ := List.forall_mem_cons.mp each
    rw [List.cons_append, after, List.foldl_cons, next_template first template]
    exact inductionHypothesis others (by split <;> simp)

/-- A line comment goes on without line breaks. -/
theorem after_line {s : List Char} (each : ∀ c ∈ s, Lexeme.endsLine c = false) (braces : List Nat) :
    (⟨.lineComment, braces⟩ : Position).after s = ⟨.lineComment, braces⟩ := by
  induction s with
  | nil => rfl
  | cons c s inductionHypothesis =>
    obtain ⟨first, others⟩ := List.forall_mem_cons.mp each
    rw [after, List.foldl_cons, next]
    simp only [first, Bool.false_eq_true, if_false]
    exact inductionHypothesis others

/-- Without slashes no comment begins. -/
theorem Plain.after_plain {p : Position} (plain : p.Plain) {s : List Char}
    (each : ∀ c ∈ s, Quiet c ∨ isQuote c = true) : (p.after s).Plain := by
  induction s generalizing p with
  | nil => exact plain
  | cons c s inductionHypothesis =>
    obtain ⟨first, others⟩ := List.forall_mem_cons.mp each
    refine inductionHypothesis ?_ others
    rcases first with quiet | quote
    · rwa [plain.next_quiet quiet]
    · exact plain.next_quote quote

/-- A line comment ends at a line break, and none begins after it. -/
theorem after_line_ends {s : List Char} (each : ∀ c ∈ s, Quiet c ∨ isQuote c = true)
    {mark : Char} (member : mark ∈ s) (ends : Lexeme.endsLine mark = true) (braces : List Nat) :
    ((⟨.lineComment, braces⟩ : Position).after s).mode ≠ .lineComment := by
  induction s with
  | nil => cases member
  | cons c s inductionHypothesis =>
    obtain ⟨first, others⟩ := List.forall_mem_cons.mp each
    rw [after, List.foldl_cons, ← after]
    by_cases here : Lexeme.endsLine c = true
    · have code : (⟨.lineComment, braces⟩ : Position).next c = ⟨.code, braces⟩ := if_pos here
      rw [code]
      rcases Plain.after_plain (Or.inl rfl : (⟨.code, braces⟩ : Position).Plain) others with
        same | same | same <;> rw [same] <;> nofun
    · have line : (⟨.lineComment, braces⟩ : Position).next c = ⟨.lineComment, braces⟩ := if_neg here
      rw [line]
      refine inductionHypothesis others ?_
      rcases List.mem_cons.mp member with rfl | later
      · exact absurd ends here
      · exact later

end Position

namespace Declaration

/-- The reader does not notice that a declaration is written anew: where quotes mean something, those
of the declaration are the same, and in a line comment it stands on one line. -/
def Kept (d : Declaration) (p : Position) : Prop :=
  match p.mode with
  | .lineComment => ∀ c ∈ d.gap ++ d.before ++ d.after, Lexeme.endsLine c = false
  | .blockComment | .star | .dollar | .literal .grave | .escaped .grave => True
  | .code | .slash | .literal _ | .escaped _ => d.opening = d.closing

/-- A declaration with line breaks in none of its gaps stands on one line. -/
theorem text_line (d : Declaration)
    (each : ∀ c ∈ d.gap ++ d.before ++ d.after, Lexeme.endsLine c = false) :
    ∀ c ∈ d.text, Lexeme.endsLine c = false := by
  have filled : ∀ c, Text.isBlank c = false → Lexeme.endsLine c = false := by
    intro c filled
    by_contra ends
    simp only [Lexeme.endsLine, Bool.not_eq_false, Bool.or_eq_true, beq_iff_eq] at ends
    rcases ends with ((rfl | rfl) | rfl) | rfl <;> exact absurd filled (by decide)
  simp only [List.mem_append, or_imp, forall_and] at each
  obtain ⟨⟨gap, before⟩, later⟩ := each
  intro c member
  simp only [text, List.append_assoc, List.cons_append, List.mem_append, List.mem_cons,
    List.not_mem_nil, or_false] at member
  rcases member with keyword | blank | name | blank | rfl | blank | rfl | rfl | cls | rfl
  · exact filled c (isBlank_of_isLetterOrDigit (d.keyword_letters.2 c keyword))
  · exact gap c blank
  · exact filled c (isBlank_of_isNameChar (d.name_chars c name))
  · exact before c blank
  · decide
  · exact later c blank
  · exact filled _ (isQuote_apart d.opening_quote).1
  · decide
  · exact filled c (isBlank_of_isClassChar (d.cls_chars c cls))
  · exact filled _ (isQuote_apart d.closing_quote).1

theorem text_template (d : Declaration) {mode : Mode}
    (template : mode = .literal .grave ∨ mode = .dollar) (braces : List Nat) :
    (⟨mode, braces⟩ : Position).after d.text = ⟨.literal .grave, braces⟩ := by
  obtain ⟨first, passed, ends⟩ := d.text_ends
  have quiet := d.text_quiet
  rw [ends] at quiet ⊢
  exact after_template (fun c member => quiet c (List.mem_append_left _ member)) d.closing_quote
    template braces

/-- After a backslash in a template a declaration is text as well. -/
theorem text_template_escaped (d : Declaration) (braces : List Nat) :
    (⟨.escaped .grave, braces⟩ : Position).after d.text = ⟨.literal .grave, braces⟩ := by
  obtain ⟨first, passed, ends⟩ := d.text_ends
  have quiet := d.text_quiet
  rw [ends] at quiet ⊢
  exact after_template (fun c member => quiet c (by simp [member])) d.closing_quote (Or.inl rfl)
    braces

variable (d : Declaration) {token : List Char} (filled : token ≠ [])
  (chars : ∀ c ∈ token, isClassChar c = true)

/-- In code and in literals a declaration that is written anew is not noticed if its quotes are the
same. -/
theorem renamed_plain {p q : Position} (plain : q.Plain) (starts : ∀ k, Quiet k → p.next k = q) :
    p.after (d.renamed token filled chars).text = p.after d.text ↔ d.opening = d.closing := by
  rw [d.after_letter plain starts, (d.renamed token filled chars).after_letter plain starts]
  exact plain.quotes d.opening_quote d.closing_quote

/-- In a line comment it is not noticed if it stands on one line. -/
theorem renamed_line (braces : List Nat) :
    (⟨.lineComment, braces⟩ : Position).after (d.renamed token filled chars).text =
        (⟨.lineComment, braces⟩ : Position).after d.text ↔
      ∀ c ∈ d.gap ++ d.before ++ d.after, Lexeme.endsLine c = false := by
  have blanks : ∀ c ∈ [' ', ' ', ' '], Lexeme.endsLine c = false := by
    intro c member
    rw [show c = ' ' by simpa using member]
    decide
  have anew := after_line ((d.renamed token filled chars).text_line blanks) braces
  rw [anew]
  refine ⟨fun same => ?_, fun each => (after_line (d.text_line each) braces).symm⟩
  intro c member
  by_contra ends
  have inside : c ∈ d.text := by
    simp only [List.append_assoc, List.mem_append] at member
    rcases member with inside | inside | inside <;> simp [text, inside]
  exact after_line_ends d.text_quiet inside (by simpa using ends) braces (by rw [← same])

/-- After a declaration that is written anew the reader is where it was exactly if it does not notice
the difference. -/
theorem kept_iff (p : Position) :
    p.after (d.renamed token filled chars).text = p.after d.text ↔ d.Kept p := by
  obtain ⟨mode, braces⟩ := p
  cases mode with
  | code =>
    exact d.renamed_plain filled chars (q := ⟨.code, braces⟩) (Or.inl rfl) fun k quiet =>
      Plain.next_quiet (Or.inl rfl) quiet
  | slash =>
    refine d.renamed_plain filled chars (q := ⟨.code, braces⟩) (Or.inl rfl) fun k quiet => ?_
    have apart : k ≠ '/' ∧ k ≠ '*' := by constructor <;> rintro rfl <;> exact quiet (by decide)
    simp [next, apart, quiet.inCode]
  | lineComment => exact d.renamed_line filled chars braces
  | blockComment | star =>
    have comment : ∀ other : Declaration, other.text ≠ [] := by
      intro other
      obtain ⟨first, passed, ends⟩ := other.text_ends
      simp [ends]
    refine iff_of_true ?_ trivial
    rw [after_comment d.text_quiet (comment d) (by simp),
      after_comment (d.renamed token filled chars).text_quiet (comment _) (by simp)]
  | literal q =>
    cases q with
    | single =>
      exact d.renamed_plain filled chars (q := ⟨.literal .single, braces⟩) (by simp [Plain])
        fun k quiet => Plain.next_quiet (by simp [Plain]) quiet
    | double =>
      exact d.renamed_plain filled chars (q := ⟨.literal .double, braces⟩) (by simp [Plain])
        fun k quiet => Plain.next_quiet (by simp [Plain]) quiet
    | grave =>
      refine iff_of_true ?_ trivial
      rw [text_template _ (Or.inl rfl), text_template _ (Or.inl rfl)]
  | escaped q =>
    cases q with
    | single =>
      exact d.renamed_plain filled chars (q := ⟨.literal .single, braces⟩) (by simp [Plain])
        fun _ _ => rfl
    | double =>
      exact d.renamed_plain filled chars (q := ⟨.literal .double, braces⟩) (by simp [Plain])
        fun _ _ => rfl
    | grave =>
      refine iff_of_true ?_ trivial
      rw [text_template_escaped, text_template_escaped]
  | dollar =>
    refine iff_of_true ?_ trivial
    rw [text_template _ (Or.inr rfl), text_template _ (Or.inr rfl)]

end Declaration

/-! ## Scripts -/

/-- The question that a part asks. -/
def Part.call? : Part → Option (String × Class.Usage)
  | copied _ => none
  | declared d => some (d.constant.cls, .js)

/-- The classes of all declarations are asked for in order. -/
theorem written_calls (parts : List Part) (t : Class.Table) :
    (written (parts.map Part.piece) t).2 = (t.associateAll (parts.filterMap Part.call?)).2 := by
  induction parts generalizing t with
  | nil => rfl
  | cons part parts inductionHypothesis =>
    cases part with
    | copied c =>
      rw [List.map_cons, Part.piece, written_literal, inductionHypothesis]
      rfl
    | declared d =>
      rw [List.map_cons, Part.piece, written_constant, inductionHypothesis, List.filterMap_cons,
        Part.call?, Class.Table.associateAll_cons]

namespace Part

/-- The position where a part starts. -/
def positionAt (parts : List Part) (n : Nat) : Position :=
  Position.after {} ((parts.take n).flatMap text)

theorem positionAt_succ {parts : List Part} {n : Nat} (bound : n < parts.length) :
    positionAt parts (n + 1) = (positionAt parts n).after parts[n].text := by
  rw [positionAt, List.take_add_one, List.getElem?_eq_getElem bound, List.flatMap_append,
    Position.after_append, positionAt]
  simp

/-- A part that is written anew is not noticed where its declaration is kept. -/
theorem Renamed.after_eq {part anew : Part} (renamed : Renamed part anew) {p : Position}
    (kept : ∀ d : Declaration, part = Part.declared d → d.Kept p) :
    p.after anew.text = p.after part.text := by
  cases renamed with
  | copied c => rfl
  | declared d filled chars => exact (d.kept_iff filled chars p).mpr (kept d rfl)

/-- Where all declarations are kept, every part starts in the same position as before. -/
theorem positionAt_renamed {parts new : List Part} (each : List.Forall₂ Renamed parts new)
    (kept : ∀ (n : Nat) (d : Declaration), parts[n]? = some (.declared d) →
      d.Kept (positionAt parts n)) (n : Nat) :
    positionAt new n = positionAt parts n := by
  induction n with
  | zero => rfl
  | succ n inductionHypothesis =>
    have lengths := each.length_eq
    by_cases bound : n < parts.length
    · rw [positionAt_succ bound, positionAt_succ (lengths ▸ bound), inductionHypothesis]
      refine (each.get bound (lengths ▸ bound)).after_eq fun d same => kept n d ?_
      rw [List.getElem?_eq_getElem bound, ← same]
      rfl
    · have before := inductionHypothesis
      rw [positionAt, positionAt, List.take_of_length_le (by omega), List.take_of_length_le (by omega)]
        at before ⊢
      exact before

end Part

/-- A script is made of copied characters and declarations, and exactly the declarations are written
anew, whatever their quotes are. After one of them a reader of the script is where it was exactly if
it does not notice the difference, which in code means that both quotes are the same. If that holds of
every declaration where it stands, all that is copied is read as it was. -/
theorem literals_renamed (calls : List (String × Class.Usage)) (source : String) :
    let table := (({} : Class.Table).associateAll calls).2
    ∃ parts new : List Part,
      Part.Canonical false parts ∧ parts.flatMap Part.text = source.toList ∧
      (renameConstants source).run table = (String.ofList (new.flatMap Part.text),
        (table.associateAll (parts.filterMap Part.call?)).2) ∧
      List.Forall₂ Part.Renamed parts new ∧
      (∀ (n : Nat) (d anew : Declaration), parts[n]? = some (.declared d) →
        new[n]? = some (.declared anew) → ∀ position : Position,
          position.after anew.text = position.after d.text ↔ d.Kept position) ∧
      ((∀ (n : Nat) (d : Declaration), parts[n]? = some (.declared d) →
          d.Kept (Part.positionAt parts n)) →
        ∀ n, Part.positionAt new n = Part.positionAt parts n) := by
  intro table
  obtain ⟨parts, canonical, whole, scanned⟩ := Part.scan_parts source.toList
  obtain ⟨new, later, each, _, same⟩ := written_parts parts (spelled_calls calls)
  have asked := written_calls parts table
  refine ⟨parts, new, canonical, whole, ?_, each, ?_, Part.positionAt_renamed each⟩
  · rw [renameConstants_run, scanned, ← asked]
    exact congrArg (fun w => (String.ofList w, (written (parts.map Part.piece) table).2))
      (congrArg Prod.fst same)
  · intro n d anew here here' position
    obtain ⟨bound, found⟩ := List.getElem?_eq_some_iff.mp here
    obtain ⟨bound', found'⟩ := List.getElem?_eq_some_iff.mp here'
    have renamed := each.get bound bound'
    rw [List.get_eq_getElem, List.get_eq_getElem, found, found'] at renamed
    cases renamed with
    | declared _ filled chars => exact d.kept_iff filled chars position

theorem written_literals (cs : List Char) (t : Class.Table) :
    written (cs.map .literal) t = (cs, t) := by
  induction cs with
  | nil => rfl
  | cons c cs inductionHypothesis => rw [List.map_cons, written_literal, inductionHypothesis]

/-- With two kinds of quotes a literal is cut: what the script had in a literal becomes code, and what
it had as code is in a literal that is not closed. -/
theorem mixed_quotes_renamed :
    (renameConstants "var CSS_FOO = \".bar' + x + 'z\";").run {} =
        ("var CSS_FOO = '._' + x + 'z\";", (({} : Class.Table).associate ".bar" .js).2) ∧
      Position.after {} "var CSS_FOO = \".bar' + ".toList = ⟨.literal .double, []⟩ ∧
      Position.after {} "var CSS_FOO = '._' + ".toList = ⟨.code, []⟩ ∧
      Position.after {} "var CSS_FOO = \".bar' + x + 'z\";".toList = ⟨.code, []⟩ ∧
      Position.after {} "var CSS_FOO = '._' + x + 'z\";".toList = ⟨.literal .single, []⟩ := by
  refine ⟨?_, by decide +kernel, by decide +kernel, by decide +kernel, by decide +kernel⟩
  have scanned : Piece.scan "var CSS_FOO = \".bar' + x + 'z\";".toList =
      .constant ⟨"var", "CSS_FOO", ".bar"⟩ :: " + x + 'z\";".toList.map .literal := by
    decide +kernel
  have token : (({} : Class.Table).associate ".bar" .js).1 = "._" := by
    have first : (Class.generate 0).1 = "_" := by decide +kernel
    have bare : Class.undot ".bar" = (true, "bar") := by decide +kernel
    simp [Class.Table.associate, Class.Table.assign, bare, first]
  rw [renameConstants_run, scanned, written_constant, token, written_literals]
  exact congrArg (·, _) (by decide +kernel)

end Pagefold.Script
