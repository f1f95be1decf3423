import Mathlib
import Pagefold.Proofs.Localization.Joined
import Pagefold.Script.Lexeme
import Pagefold.Toolchain

/-!
# Scripts as separate statements

The scripts of a document are joined with a semicolon and a line end between them, and are put inside of
one function. Whether the semicolon is a token depends on what the script before it ends in: a comment
that ends with its line takes the semicolon as well, and the line end after it comes too late.

This is told here by a reader of scripts, character by character. It knows strings, templates with their
placeholders, regular expressions and all comments, those in the manner of markup too. Whether a slash
divides or starts a regular expression is a matter of grammar, which is left open: it may depend on all
of the text before the slash.
-/
namespace Pagefold

namespace Script

/-- The first characters of a comment in the manner of markup. -/
inductive Markup where
  /-- After the less-than sign of an opening mark. -/
  | less
  /-- After the exclamation mark of an opening mark. -/
  | bang
  /-- After the first hyphen of an opening mark. -/
  | hyphen
  /-- After the first hyphen of a closing mark, which starts a comment as well. -/
  | minus
  /-- After the second hyphen of a closing mark. -/
  | minuses
  deriving DecidableEq, Repr

namespace Markup

/-- The character that goes on with it. -/
def awaited : Markup → Char
  | less => '!'
  | bang => '-'
  | hyphen => '-'
  | minus => '-'
  | minuses => '>'

/-- What it goes on to; nothing if the comment starts. -/
def further : Markup → Option Markup
  | less => some bang
  | bang => some hyphen
  | hyphen => none
  | minus => some minuses
  | minuses => none

end Markup

/-- What the next character of a script is read as. -/
inductive Zone where
  /-- Code. In its line may be nothing but blanks and comments so far. -/
  | code (fresh : Bool)
  /-- Code, where a comment in the manner of markup may start. -/
  | markup (seen : Markup)
  /-- Code, after a slash that divides or starts a regular expression, unless it starts a comment. -/
  | slash (fresh starts : Bool)
  /-- A comment that ends with its line. -/
  | lineComment
  /-- A comment that ends with an asterisk and a slash. -/
  | blockComment (fresh star : Bool)
  | literal (q : Quote)
  /-- A literal, after a backslash. -/
  | escaped (q : Quote)
  /-- A template, after a dollar sign. -/
  | dollar
  /-- A regular expression, maybe inside of brackets. -/
  | regular (inside : Bool)
  /-- A regular expression, after a backslash. -/
  | regularEscaped (inside : Bool)
  deriving DecidableEq, Repr

/-- Whether a semicolon that comes next is a token. -/
def Zone.isCode : Zone → Bool
  | code _ => true
  | markup _ => true
  | slash _ starts => !starts
  | _ => false

/-- A place in a script: what is read there, and the braces that are open in each placeholder of a
template around it, the innermost placeholder first. -/
structure Reading where
  zone : Zone := .code true
  braces : List Nat := []
  deriving DecidableEq, Repr

namespace Reading

/-- The place after a character of code. -/
def inCode (regular fresh : Bool) (braces : List Nat) (c : Char) : Reading :=
  if c = '/' then ⟨.slash fresh regular, braces⟩
  else if c = '<' then ⟨.markup .less, braces⟩
  else if c = '-' ∧ fresh then ⟨.markup .minus, braces⟩
  else if Lexeme.endsLine c then ⟨.code true, braces⟩
  else if Lexeme.isBlank c then ⟨.code fresh, braces⟩
  else
    match Quote.ofChar? c, c, braces with
    | some q, _, _ => ⟨.literal q, braces⟩
    | none, '{', depth :: outer => ⟨.code false, (depth + 1) :: outer⟩
    | none, '}', 0 :: outer => ⟨.literal .grave, outer⟩
    | none, '}', (depth + 1) :: outer => ⟨.code false, depth :: outer⟩
    | none, _, _ => ⟨.code false, braces⟩

/-- The place after a character of a literal. -/
def inLiteral (q : Quote) (braces : List Nat) (c : Char) : Reading :=
  if c = '\\' then ⟨.escaped q, braces⟩
  else if Quote.ofChar? c = some q then ⟨.code false, braces⟩
  else if q = .grave ∧ c = '$' then ⟨.dollar, braces⟩
  else ⟨.literal q, braces⟩

/-- The place after a character of a regular expression. -/
def inRegular (inside : Bool) (braces : List Nat) (c : Char) : Reading :=
  if c = '\\' then ⟨.regularEscaped inside, braces⟩
  else if c = '[' then ⟨.regular true, braces⟩
  else if c = ']' then ⟨.regular false, braces⟩
  else if c = '/' ∧ !inside then ⟨.code false, braces⟩
  else ⟨.regular inside, braces⟩

/-- The place after a character, at which a slash would start a regular expression or divide. -/
def next (regular : Bool) (p : Reading) (c : Char) : Reading :=
  match p.zone with
  | .code fresh => inCode regular fresh p.braces c
  | .markup seen =>
    if c = seen.awaited then
      match seen.further with
      | some more => ⟨.markup more, p.braces⟩
      | none => ⟨.lineComment, p.braces⟩
    else inCode regular false p.braces c
  | .slash fresh starts =>
    if c = '/' then ⟨.lineComment, p.braces⟩
    else if c = '*' then ⟨.blockComment fresh false, p.braces⟩
    else if starts then inRegular false p.braces c
    else inCode regular false p.braces c
  | .lineComment => if Lexeme.endsLine c then ⟨.code true, p.braces⟩ else p
  | .blockComment fresh star =>
    if c = '/' ∧ star then ⟨.code fresh, p.braces⟩
    else ⟨.blockComment (fresh || Lexeme.endsLine c) (c == '*'), p.braces⟩
  | .literal q => inLiteral q p.braces c
  | .escaped q => ⟨.literal q, p.braces⟩
  | .dollar => if c = '{' then ⟨.code false, 0 :: p.braces⟩ else inLiteral .grave p.braces c
  | .regular inside => inRegular inside p.braces c
  | .regularEscaped inside => ⟨.regular inside, p.braces⟩

/-- The reader is outside of strings, templates, regular expressions and comments that do not end with
their lines. -/
def Outside (p : Reading) : Prop :=
  p.braces = [] ∧ (p.zone.isCode = true ∨ p.zone = .lineComment)

instance (p : Reading) : Decidable p.Outside := inferInstanceAs (Decidable (_ ∧ _))

/-- In code, a character is read as a character of code unless it is a part of a mark of comments. -/
theorem next_code {p : Reading} (code : p.zone.isCode = true) {c : Char}
    (other : c ∉ ['/', '*', '!', '-', '>']) (regular : Bool) :
    ∃ fresh, p.next regular c = inCode regular fresh p.braces c := by
  simp only [List.mem_cons, List.not_mem_nil, or_false, not_or] at other
  obtain ⟨slash, star, bang, hyphen, greater⟩ := other
  obtain ⟨zone, braces⟩ := p
  cases zone with
  | code fresh => exact ⟨fresh, rfl⟩
  | markup seen =>
    have apart : c ≠ seen.awaited := by cases seen <;> assumption
    exact ⟨false, if_neg apart⟩
  | slash fresh starts =>
    cases starts with
    | false => exact ⟨false, (if_neg slash).trans (if_neg star)⟩
    | true => cases code
  | _ => cases code

/-- After a semicolon and a line end, a reader that was outside of everything is where it was at the
start. -/
theorem Outside.separated {p : Reading} (outside : p.Outside) (first second : Bool) :
    (p.next first ';').next second '\n' = {} := by
  obtain ⟨braces, code | comment⟩ := outside
  · obtain ⟨fresh, read⟩ := next_code code (show ';' ∉ _ by decide) first
    rw [read, braces]
    rfl
  · obtain ⟨zone, _⟩ := p
    obtain rfl := braces
    obtain rfl := comment
    rfl

/-- So it is after a line end alone. -/
theorem Outside.broken {p : Reading} (outside : p.Outside) (regular : Bool) :
    p.next regular '\n' = {} := by
  obtain ⟨braces, code | comment⟩ := outside
  · obtain ⟨fresh, read⟩ := next_code code (show '\n' ∉ _ by decide) regular
    rw [read, braces]
    rfl
  · obtain ⟨zone, _⟩ := p
    obtain rfl := braces
    obtain rfl := comment
    rfl

/-- What a slash would do matters to slashes only. -/
theorem next_slashless {c : Char} (other : c ≠ '/') (p : Reading) (first second : Bool) :
    p.next first c = p.next second c := by
  unfold next inCode
  simp only [other, if_false]

end Reading

/-- The place after a text, where a reader went on from a place behind another text. What the slashes in
code are is told by the text before them. -/
def readFrom (starts : List Char → Bool) : List Char → Reading → List Char → Reading
  | _, p, [] => p
  | before, p, c :: rest => readFrom starts (before ++ [c]) (p.next (starts before) c) rest

/-- The place after a text that stands alone. -/
def read (starts : List Char → Bool) (s : List Char) : Reading := readFrom starts [] {} s

section Reading

variable (starts : List Char → Bool)

theorem readFrom_append (before s t : List Char) (p : Reading) :
    readFrom starts before p (s ++ t) =
      readFrom starts (before ++ s) (readFrom starts before p s) t := by
  induction s generalizing before p with
  | nil => rw [List.nil_append, List.append_nil, readFrom]
  | cons c rest inductionHypothesis =>
    rw [List.cons_append, readFrom, inductionHypothesis, readFrom, List.append_assoc,
      List.singleton_append]

theorem read_append (s t : List Char) :
    read starts (s ++ t) = readFrom starts s (read starts s) t := by
  rw [read, readFrom_append, List.nil_append, read]

/-- What is read does not depend on the text before if the slashes do not. -/
theorem readFrom_alike {starts : List Char → Bool} {before front s : List Char} (p : Reading)
    (alike : ∀ t, t <+: s → starts (before ++ t) = starts (front ++ t)) :
    readFrom starts before p s = readFrom starts front p s := by
  induction s generalizing before front p with
  | nil => rfl
  | cons c rest inductionHypothesis =>
    have here : starts before = starts front := by simpa using alike [] List.nil_prefix
    rw [readFrom, readFrom, here]
    refine inductionHypothesis _ fun t initial => ?_
    have later := alike (c :: t) (List.cons_prefix_cons.mpr ⟨rfl, initial⟩)
    rwa [List.append_assoc, List.append_assoc, List.singleton_append]

/-- A text without slashes is read in one way. -/
theorem readFrom_slashless {before s : List Char} (other : '/' ∉ s) (p : Reading) :
    readFrom starts before p s = s.foldl (Reading.next false) p := by
  induction s generalizing before p with
  | nil => rfl
  | cons c rest inductionHypothesis =>
    rw [List.mem_cons, not_or] at other
    obtain ⟨here, later⟩ := other
    rw [readFrom, inductionHypothesis later, List.foldl_cons,
      p.next_slashless (Ne.symm here) (starts before) false]

end Reading

end Script

namespace Bundle

open Script

/-- The wrapper of a script up to the script. -/
def wrapperHead : List Char := "(function(window,document)\x7b'use strict';\n".toList

/-- The wrapper of a script after the line end that follows the script. -/
def wrapperTail : List Char := "\x7d)(window,document);".toList

theorem wrapScript_text (script : String) :
    (wrapScript script).toList = wrapperHead ++ script.toList ++ '\n' :: wrapperTail := by
  have parts : ∀ a b c : String, (a ++ b ++ c).toList = a.toList ++ b.toList ++ c.toList := by
    intro a b c
    rw [String.toList_append, String.toList_append]
  have tail : "\n\x7d)(window,document);".toList = '\n' :: wrapperTail := by decide +kernel
  exact (parts _ script _).trans (congrArg (wrapperHead ++ script.toList ++ ·) tail)

/-- A bundle of scripts up to the script that follows some others. -/
def front (early : List String) : List Char :=
  wrapperHead ++ early.flatMap fun chunk => chunk.toList ++ ";\n".toList

theorem front_concat (early : List String) (chunk : String) :
    front (early ++ [chunk]) = front early ++ chunk.toList ++ [';', '\n'] := by
  simp [front]

/-- The text of a bundle, seen from one of its scripts. -/
theorem wrapped_split (early : List String) {late : List String} (some : late ≠ []) :
    (wrapScript (";\n".intercalate (early ++ late))).toList =
      front early ++ (";\n".intercalate late).toList ++ '\n' :: wrapperTail := by
  have joined : (";\n".intercalate (early ++ late)).toList =
      early.flatMap (fun chunk => chunk.toList ++ ";\n".toList) ++ (";\n".intercalate late).toList := by
    induction early with
    | nil => rfl
    | cons first others inductionHypothesis =>
      rw [List.cons_append, String.intercalate_cons_of_ne_nil (by simp [some]), String.toList_append,
        inductionHypothesis]
      simp
  rw [wrapScript_text, joined, front]
  simp only [List.append_assoc]

/-- A script that is not the last one is followed by a separator. -/
theorem wrapped_before (early : List String) (chunk next : String) (late : List String) :
    ∃ rest, (wrapScript (";\n".intercalate (early ++ chunk :: next :: late))).toList =
      front early ++ chunk.toList ++ ';' :: rest := by
  refine ⟨'\n' :: ((";\n".intercalate (next :: late)).toList ++ '\n' :: wrapperTail), ?_⟩
  rw [wrapped_split early (List.cons_ne_nil _ _)]
  simp

/-- The last script is followed by a line end. -/
theorem wrapped_last (early : List String) (chunk : String) :
    (wrapScript (";\n".intercalate (early ++ [chunk]))).toList =
      front early ++ chunk.toList ++ '\n' :: wrapperTail := by
  rw [wrapped_split early (List.cons_ne_nil _ _), String.intercalate_singleton]

section Chunks

variable (starts : List Char → Bool)

/-- A script ends in a comment that ends with its line. -/
def EndsInLine (chunk : String) : Prop := (read starts chunk.toList).zone = .lineComment

/-- The slashes of a script are told as if the script stood alone, as long as no script before it ends
in a comment that ends with its line: what stands before it then ends with a semicolon that is a token,
or with the head of the wrapper, and a statement starts. -/
def Independent (chunks : List String) : Prop :=
  ∀ early chunk late, chunks = early ++ chunk :: late → (∀ e ∈ early, ¬ EndsInLine starts e) →
    ∀ s, s <+: chunk.toList → starts (front early ++ s) = starts s

variable {starts} {chunks : List String}
  (outside : ∀ chunk ∈ chunks, (read starts chunk.toList).Outside)
  (independent : Independent starts chunks)

/-- The head of the wrapper leaves a reader where it started. -/
theorem read_head : read starts wrapperHead = {} := by
  rw [Script.read, readFrom_slashless starts (by decide)]
  decide +kernel

/-- The rest of the wrapper is code that is no comment. -/
theorem read_tail {before s : List Char} (initial : s <+: wrapperTail) :
    (readFrom starts before {} s).zone.isCode = true := by
  have other : ∀ t ∈ wrapperTail.inits, '/' ∉ t ∧
      (t.foldl (Reading.next false) {}).zone.isCode = true := by
    decide +kernel
  obtain ⟨slashless, code⟩ := other s ((List.mem_inits s wrapperTail).mpr initial)
  rw [readFrom_slashless starts slashless, code]

include independent

/-- A script is read as if it stood alone, if it is read from where a reader starts. -/
theorem read_chunk {early late : List String} {chunk : String}
    (split : chunks = early ++ chunk :: late) (apart : ∀ e ∈ early, ¬ EndsInLine starts e)
    (start : read starts (front early) = {}) :
    read starts (front early ++ chunk.toList) = read starts chunk.toList := by
  rw [read_append, start]
  exact readFrom_alike {} fun s initial => by
    rw [independent early chunk late split apart s initial, List.nil_append]

include outside

/-- Behind each separator a reader is where it started, if all separators so far are tokens.

Proof: by induction on the scripts before. The last one of them is read as if it stood alone, so a
semicolon and a line end after it lead back to the start. -/
theorem read_front {early late : List String} (split : chunks = early ++ late)
    (apart : ∀ e ∈ early, ¬ EndsInLine starts e) : read starts (front early) = {} := by
  induction early using List.reverseRecOn generalizing late with
  | nil => exact read_head
  | append_singleton early chunk inductionHypothesis =>
    rw [List.append_assoc, List.singleton_append] at split
    obtain ⟨before, _⟩ := List.forall_mem_append.mp apart
    have start := inductionHypothesis split before
    have here := read_chunk independent split before start
    have ended : (read starts chunk.toList).Outside := outside chunk (split ▸ by simp)
    rw [front_concat, read_append, here]
    exact ended.separated _ _

/-- A script is read as if it stood alone, if all separators before it are tokens. -/
theorem read_inside {early late : List String} {chunk : String}
    (split : chunks = early ++ chunk :: late) (apart : ∀ e ∈ early, ¬ EndsInLine starts e) :
    read starts (front early ++ chunk.toList) = read starts chunk.toList :=
  read_chunk independent split apart (read_front outside independent split apart)

/-- The rest of the wrapper follows a line end behind which a reader is where it started. -/
theorem read_last (apart : ∀ chunk ∈ chunks.dropLast, ¬ EndsInLine starts chunk) :
    ∃ before, (wrapScript (";\n".intercalate chunks)).toList = before ++ wrapperTail ∧
      read starts before = {} := by
  rcases List.eq_nil_or_concat chunks with rfl | ⟨early, chunk, rfl⟩
  · refine ⟨wrapperHead ++ ['\n'], ?_, ?_⟩
    · rw [wrapScript_text]
      simp
    · rw [read_append, read_head]
      rfl
  · rw [List.concat_eq_append, List.dropLast_concat] at apart
    rw [List.concat_eq_append] at outside independent ⊢
    refine ⟨front early ++ chunk.toList ++ ['\n'], ?_, ?_⟩
    · rw [wrapped_last, List.append_assoc _ ['\n'], List.singleton_append]
    · rw [read_append, read_inside outside independent rfl apart]
      exact (outside chunk (by simp)).broken _

end Chunks

/-- Whether the scripts of a document stay separate statements.

The scripts are those of a bundle after localization, and each of them ends outside of strings,
templates, regular expressions and block comments if it stands alone. As long as no script before it
ends in a comment that ends with its line, each script is read as if it stood alone, and the semicolon
after it is a token exactly if the script does not end in such a comment either. If none but the last
one does, the rest of the wrapper is code that is in no comment.

Proof: a semicolon and a line end lead a reader that is outside of everything back to where it started,
and so does the line end before the rest of the wrapper. -/
theorem scripts_separate (starts : List Char → Bool) (l : Localizer) (p : Parts)
    (outside : ∀ chunk ∈ p.scripts.map (localized l), (read starts chunk.toList).Outside)
    (independent : Independent starts (p.scripts.map (localized l))) :
    let chunks := p.scripts.map (localized l)
    let text := (wrapScript (localized l p.joinedScripts)).toList
    (∀ early chunk next late, chunks = early ++ chunk :: next :: late →
      (∀ e ∈ early, ¬ EndsInLine starts e) →
      ∃ rest, text = front early ++ chunk.toList ++ ';' :: rest ∧
        (EndsInLine starts chunk →
          (read starts (front early ++ chunk.toList)).zone = .lineComment) ∧
        (¬ EndsInLine starts chunk →
          (read starts (front early ++ chunk.toList)).zone.isCode = true)) ∧
    ((∀ chunk ∈ chunks.dropLast, ¬ EndsInLine starts chunk) →
      ∃ before, text = before ++ wrapperTail ∧
        ∀ s, s <+: wrapperTail → (read starts (before ++ s)).zone.isCode = true) := by
  intro chunks text
  have joined : localized l p.joinedScripts = ";\n".intercalate chunks := (scripts_localized l p).1
  constructor
  · intro early chunk next late split apart
    obtain ⟨rest, whole⟩ := wrapped_before early chunk next late
    have alone := read_inside outside independent split apart
    refine ⟨rest, ?_, fun ends => ?_, fun other => ?_⟩
    · rw [← whole, ← split, ← joined]
    · rw [alone]
      exact ends
    · rw [alone]
      have member : chunk ∈ chunks := split ▸ by simp
      exact (outside chunk member).2.resolve_right other
  · intro apart
    obtain ⟨before, whole, start⟩ := read_last outside independent apart
    refine ⟨before, ?_, fun s initial => ?_⟩
    · rw [← whole, ← joined]
    · rw [read_append, start]
      exact read_tail initial

/-- A regular expression and a division, a comment that a line ends, and a comment at the very end. -/
theorem scripts_separate_two :
    let starts (before : List Char) : Bool :=
      (before.reverse.dropWhile Text.isBlank).head?.all fun c => !(Lexeme.isNameChar c || c == ')')
    let p : Parts := ⟨.document [], [], ["x = /[/*]/; y / 2 // half\n", "f() / 3 // third"], []⟩
    let text := (wrapScript (localized {} p.joinedScripts)).toList
    (∃ rest, text = front [] ++ "x = /[/*]/; y / 2 // half\n".toList ++ ';' :: rest ∧
      (read starts (front [] ++ "x = /[/*]/; y / 2 // half\n".toList)).zone.isCode = true) ∧
    ∃ before, text = before ++ wrapperTail ∧
      ∀ s, s <+: wrapperTail → (read starts (before ++ s)).zone.isCode = true := by
  intro starts p text
  have chunks : p.scripts.map (localized {}) = p.scripts := by decide +kernel
  have first : ¬ EndsInLine starts "x = /[/*]/; y / 2 // half\n" := by
    unfold EndsInLine
    decide +kernel
  have outside : ∀ chunk ∈ p.scripts.map (localized {}), (read starts chunk.toList).Outside := by
    decide +kernel
  have independent : Independent starts (p.scripts.map (localized {})) := by
    rw [chunks]
    intro early chunk late split _ s initial
    have told : (∀ s ∈ "x = /[/*]/; y / 2 // half\n".toList.inits,
          starts (front [] ++ s) = starts s) ∧
        ∀ s ∈ "f() / 3 // third".toList.inits,
          starts (front ["x = /[/*]/; y / 2 // half\n"] ++ s) = starts s := by
      decide +kernel
    rcases early with _ | ⟨e, _ | ⟨e', others⟩⟩
    · obtain ⟨same, _⟩ := List.cons.inj split
      rw [← same] at initial
      exact told.1 s ((List.mem_inits s _).mpr initial)
    · obtain ⟨head, split⟩ := List.cons.inj split
      obtain ⟨same, _⟩ := List.cons.inj split
      rw [← same] at initial
      rw [← head]
      exact told.2 s ((List.mem_inits s _).mpr initial)
    · simp [p] at split
  obtain ⟨separators, rest⟩ := scripts_separate starts {} p outside independent
  obtain ⟨more, whole, _, code⟩ := separators [] _ _ [] chunks (by simp)
  refine ⟨⟨more, whole, code first⟩, rest ?_⟩
  rw [chunks]
  intro chunk member
  obtain rfl := List.mem_singleton.mp member
  exact first

/-- A comment at the end of a script takes the separator with it. The next script, in parentheses, is
then read as the arguments of a call. A next script that starts with a regular expression is read as a
division, by a grammar in which a slash divides after a call, and its characters may start a comment
that takes the rest of the wrapper with it. -/
theorem separator_swallowed :
    let called := wrapScript (";\n".intercalate ["a() // first", "(b)()"])
    let divided := wrapScript (";\n".intercalate ["a() // first", "/[/*]/.test(y)"])
    (∀ starts : List Char → Bool,
      (∀ chunk ∈ ["a() // first", "(b)()"], (read starts chunk.toList).Outside) ∧
        called.toList = wrapperHead ++ "a() // first".toList ++ ";\n(b)()\n".toList ++ wrapperTail ∧
        (read starts (wrapperHead ++ "a() // first".toList)).zone = .lineComment) ∧
      Lexeme.skip? called.length false " // first;\n(b)()".toList = some (true, "(b)()".toList) ∧
    ∃ before, divided.toList = before ++ wrapperTail ∧
      ∀ starts : List Char → Bool, starts (wrapperHead ++ "a() // first;\n".toList) = false →
        ∃ fresh star, (read starts before).zone = .blockComment fresh star := by
  intro called divided
  refine ⟨fun starts => ⟨?_, ?_, by cbv⟩, by decide +kernel, ?_⟩
  · have first : read starts "a() // first".toList = ⟨.lineComment, []⟩ := by cbv
    have second : read starts "(b)()".toList = ⟨.code false, []⟩ := by cbv
    refine List.forall_mem_cons.mpr ⟨?_, List.forall_mem_singleton.mpr ?_⟩
    · rw [first]
      decide
    · rw [second]
      decide
  · decide +kernel
  · refine ⟨wrapperHead ++ "a() // first;\n".toList ++ "/[/*]/.test(y)\n".toList, by decide +kernel, ?_⟩
    intro starts divides
    have comment : read starts (wrapperHead ++ "a() // first;\n".toList) = {} := by cbv
    refine ⟨true, false, ?_⟩
    have slash : "/[/*]/.test(y)\n".toList = '/' :: "[/*]/.test(y)\n".toList := by decide +kernel
    rw [read_append, comment, slash, readFrom, Reading.next]
    simp only [Reading.inCode, if_true, divides]
    cbv

end Bundle

end Pagefold
