import Mathlib
import Pagefold.Html.Emit
import Pagefold.Html.Parse
import Pagefold.Proofs.Html.Escaping
import Pagefold.Proofs.Html.RawText

/-!
# Encoded values and texts

The emitter writes the marks of HTML as references. A reader replaces each of them by the mark, because
no name of a character goes on after its semicolon, and it finds the end of a value where the emitter
put it, because what would end the value earlier is either quoted or written as a reference.
-/
namespace Pagefold.Html

open Text

namespace Reference

/-! ## The names of marks -/

theorem markNames_read : (words markNames).map entry =
    [("amp".toList, ['&']), ("gt".toList, ['>']), ("lt".toList, ['<']), ("quot".toList, ['"'])] := by
  decide +kernel

/-- A spelling is a run of letters and digits, possibly with a semicolon at its end. -/
def IsSpelling (spelling : List Char) : Prop :=
  ∃ word, (∀ c ∈ word, c.isAlphanum = true) ∧ (spelling = word ∨ spelling = word ++ [';'])

/-- The spellings of marks come first. -/
theorem spellings_marks : ∃ others : List (List Char × List Char),
    spellings = ("amp;".toList, ['&']) :: ("gt;".toList, ['>']) :: ("lt;".toList, ['<']) ::
      ("quot;".toList, ['"']) :: others ∧ ∀ spelling ∈ others, IsSpelling spelling.1 := by
  have named : ∀ name ∈ names, ∀ c ∈ name.1, c.isAlphanum = true := by
    intro name member c inside
    obtain ⟨text, _, rfl⟩ := List.mem_map.mp member
    exact List.mem_takeWhile_imp inside
  have first : names = [("amp".toList, ['&']), ("gt".toList, ['>']), ("lt".toList, ['<']),
      ("quot".toList, ['"'])] ++ (words nameTable).map entry := by
    rw [names, words, List.flatMap_append, List.map_append, ← words, ← words, markNames_read]
  refine ⟨((words nameTable).map entry).map (fun name => (name.1 ++ [';'], name.2)) ++
    names.filter ((words briefNames).contains ·.1), ?_, ?_⟩
  · conv_lhs => rw [spellings, first]
    rw [List.map_append, List.append_assoc, ← first]
    rfl
  · intro spelling member
    rcases List.mem_append.mp member with closed | brief
    · obtain ⟨name, inside, rfl⟩ := List.mem_map.mp closed
      exact ⟨name.1, named name (by rw [first]; exact List.mem_append_right _ inside), Or.inr rfl⟩
    · exact ⟨spelling.1, named spelling (List.mem_filter.mp brief).1, Or.inl rfl⟩

/-- A spelling at the start of a text ends with the first semicolon of the text or before it. -/
theorem IsSpelling.length_le {spelling word rest : List Char} (valid : IsSpelling spelling)
    (starts : spelling <+: word ++ ';' :: rest) : spelling.length ≤ word.length + 1 := by
  by_contra longer
  have opens : word ++ [';'] <+: spelling :=
    List.prefix_of_prefix_length_le ⟨rest, by simp⟩ starts (by simp; omega)
  obtain ⟨more, rfl⟩ := opens
  have later : more ≠ [] := by
    rintro rfl
    simp at longer
  obtain ⟨name, chars, same⟩ := valid
  have closed : ';' ∈ name := by
    rcases same with same | same
    · rw [← same]
      simp
    · rw [← List.dropLast_append_getLast later, ← List.append_assoc] at same
      rw [← (List.append_inj' same rfl).1]
      simp
  exact absurd (chars ';' closed) (by decide)

/-- No later spelling is longer than one that ends with the first semicolon. -/
theorem longest_kept {word characters : List Char}
    (entries : List (List Char × List Char))
    (each : ∀ entry ∈ entries, entry.1.length ≤ word.length + 1) :
    entries.foldl
      (fun best entry =>
        match best with
        | some (_, n) => if n < entry.1.length then some (entry.2, entry.1.length) else best
        | none => some (entry.2, entry.1.length))
      (some (characters, word.length + 1)) = some (characters, word.length + 1) := by
  induction entries with
  | nil => rfl
  | cons entry entries inductionHypothesis =>
    obtain ⟨first, others⟩ := List.forall_mem_cons.mp each
    rw [List.foldl_cons]
    simp only [Nat.not_lt.mpr first, if_false]
    exact inductionHypothesis others

/-- The name of a mark. -/
def markName? : Char → Option (List Char)
  | '&' => some "amp".toList
  | '<' => some "lt".toList
  | '>' => some "gt".toList
  | '"' => some "quot".toList
  | _ => none

/-- The name of a mark is read whatever follows its semicolon. -/
theorem named_mark {c : Char} {name : List Char} (mark : markName? c = some name)
    (rest : List Char) : named? (name ++ ';' :: rest) = some ([c], name.length + 1) := by
  obtain ⟨others, spelled, valid⟩ := spellings_marks
  have later : ∀ entry ∈ others.filter (fun entry => entry.1.isPrefixOf (name ++ ';' :: rest)),
      entry.1.length ≤ name.length + 1 := by
    intro entry member
    obtain ⟨inside, starts⟩ := List.mem_filter.mp member
    exact (valid entry inside).length_le (List.isPrefixOf_iff_prefix.mp starts)
  have first : (spellings.filter fun entry => entry.1.isPrefixOf (name ++ ';' :: rest)) =
      (name ++ [';'], [c]) :: others.filter fun entry => entry.1.isPrefixOf (name ++ ';' :: rest) := by
    rw [spelled]
    unfold markName? at mark
    split at mark <;> cases mark <;> simp [List.isPrefixOf]
  rw [named?, first, List.foldl_cons]
  simp only [List.length_append, List.length_singleton]
  exact longest_kept _ later

theorem read_mark (inAttribute : Bool) {c : Char} {name : List Char} (mark : markName? c = some name)
    (rest : List Char) :
    read? inAttribute (name ++ ';' :: rest) = some ([c], name.length + 1) := by
  have named := named_mark mark rest
  have closed : ((name ++ ';' :: rest).take (name.length + 1)).getLast?.all (· ≠ ';') = false := by
    simp [List.take_append]
  have number : ∀ r, name ++ ';' :: rest ≠ '#' :: r := by
    unfold markName? at mark
    split at mark <;> cases mark <;> simp
  unfold read?
  split
  · next same => exact absurd same (number _)
  · next same => exact absurd same (number _)
  · next same => exact absurd same (number _)
  · rw [named]
    simp only [closed, Bool.false_eq_true, false_and, and_false, if_false]

/-- The characters of a reference are passed over. -/
theorem decodeFrom_passed (inAttribute : Bool) (passed rest : List Char) :
    decodeFrom inAttribute passed.length (passed ++ rest) = decodeFrom inAttribute 0 rest := by
  induction passed with
  | nil => rfl
  | cons c passed inductionHypothesis => exact inductionHypothesis

/-- Other characters than the ampersand stand for themselves. -/
theorem decodeFrom_cons (inAttribute : Bool) {c : Char} (apart : c ≠ '&') (rest : List Char) :
    decodeFrom inAttribute 0 (c :: rest) = c :: decodeFrom inAttribute 0 rest := by
  rw [decodeFrom]
  exact fun same => apart same

/-- The reference of a mark, and any other character as it is. -/
def written (c : Char) : List Char :=
  match markName? c with
  | some name => '&' :: name ++ [';']
  | none => [c]

/-- A text with the characters that `escaped` accepts written as references. -/
def encode (escaped : Char → Bool) (s : List Char) : List Char :=
  s.flatMap fun c => if escaped c then written c else [c]

/-- A mark is read from its reference. -/
theorem decodeFrom_written (inAttribute : Bool) (c : Char) (rest : List Char) :
    decodeFrom inAttribute 0 (written c ++ rest) = c :: decodeFrom inAttribute 0 rest := by
  unfold written
  split
  · next name mark =>
    have shape : '&' :: name ++ [';'] ++ rest = '&' :: (name ++ ';' :: rest) := by simp
    have passed := decodeFrom_passed inAttribute (name ++ [';']) rest
    rw [List.length_append, List.length_singleton, List.append_assoc, List.singleton_append] at passed
    rw [shape, decodeFrom, read_mark inAttribute mark]
    exact congrArg (c :: ·) passed
  · next other =>
    refine decodeFrom_cons inAttribute ?_ rest
    rintro rfl
    cases other

/-- What is encoded is read as it was, as long as ampersands are encoded. -/
theorem decode_encode (inAttribute : Bool) (escaped : Char → Bool) (ampersand : escaped '&' = true)
    (s : List Char) : decode inAttribute (encode escaped s) = s := by
  rw [decode, encode]
  induction s with
  | nil => rfl
  | cons c s inductionHypothesis =>
    rw [List.flatMap_cons]
    by_cases marked : escaped c = true
    · rw [if_pos marked, decodeFrom_written, inductionHypothesis]
    · have apart : c ≠ '&' := by
        rintro rfl
        exact marked ampersand
      rw [if_neg marked, List.singleton_append, decodeFrom_cons inAttribute apart,
        inductionHypothesis]

end Reference

open Reference

/-! ## What the emitter writes -/

/-- Text is encoded. -/
theorem escapeText_encode (s : List Char) :
    escapeText s = encode (fun c => c == '&' || c == '<' || c == '>') s := by
  fun_induction escapeText s with
  | case1 => rfl
  | case2 r inductionHypothesis | case3 r inductionHypothesis | case4 r inductionHypothesis =>
    rw [inductionHypothesis]
    rfl
  | case5 c r ampersand less greater inductionHypothesis =>
    have other : (c == '&' || c == '<' || c == '>') = false := by simp_all
    rw [inductionHypothesis, encode, encode, List.flatMap_cons, other]
    rfl

/-- Ampersands of values are encoded. -/
theorem ampersands_encode (s : List Char) :
    replace ['&'] "&amp;".toList s = encode (· == '&') s := by
  rw [replace_single, encode]
  refine List.flatMap_congr fun c _ => ?_
  by_cases same : c = '&'
  · rw [same]
    rfl
  · simp [same]

/-- Double quotes of values are encoded after the ampersands. -/
theorem quotes_encode (s : List Char) :
    replace ['"'] "&quot;".toList (encode (· == '&') s) =
      encode (fun c => c == '&' || c == '"') s := by
  rw [replace_single, encode, encode, List.flatMap_assoc]
  refine List.flatMap_congr fun c _ => ?_
  by_cases ampersand : c = '&'
  · rw [ampersand]
    decide
  · by_cases quote : c = '"'
    · rw [quote]
      decide
    · simp [ampersand, quote]

/-- What is encoded consists of its own characters that are not escaped, of letters, and of the two
marks of references. -/
theorem encode_chars {P : Char → Prop} (ampersand : P '&') (semicolon : P ';')
    (letter : ∀ c ∈ ['a', 'm', 'p', 'l', 't', 'g', 'q', 'u', 'o'], P c) (escaped : Char → Bool)
    {s : List Char} (kept : ∀ c ∈ s, (escaped c = true ∧ (markName? c).isSome = true) ∨ P c) :
    ∀ c ∈ encode escaped s, P c := by
  intro c member
  obtain ⟨d, inside, here⟩ := List.mem_flatMap.mp member
  have named : ∀ name, markName? d = some name → ∀ e ∈ name, P e := by
    intro name mark e part
    refine letter e ?_
    unfold markName? at mark
    split at mark <;> cases mark <;> revert part <;> simp <;> grind
  have own : P d → c = d → P c := fun held same => same ▸ held
  split at here
  · unfold written at here
    split at here
    · next name mark =>
      rcases List.mem_append.mp here with first | last
      · rcases List.mem_cons.mp first with rfl | part
        · exact ampersand
        · exact named name mark c part
      · rwa [List.mem_singleton.mp last]
    · next none =>
      rcases kept d inside with ⟨_, some⟩ | held
      · rw [none] at some
        cases some
      · exact own held (List.mem_singleton.mp here)
  · next unescaped =>
    rcases kept d inside with ⟨escaped, _⟩ | held
    · exact absurd escaped unescaped
    · exact own held (List.mem_singleton.mp here)

/-- A value is written as it is but for its ampersands, in quotes that it does not hold or, if it holds
both, with its double quotes written as references. -/
theorem quoteValue_cases (value : List Char) :
    (quoteValue value = encode (· == '&') value ∧ ∀ c ∈ value, needsQuotes c = false) ∨
      ∃ quote escaped, (quote = '"' ∨ quote = '\'') ∧ escaped '&' = true ∧
        (∀ c, escaped c = true → (markName? c).isSome = true) ∧
        (∀ c ∈ value, c = quote → escaped c = true) ∧
        quoteValue value = quote :: encode escaped value ++ [quote] := by
  have marked : ∀ c : Char, (c == '&') = true → (markName? c).isSome = true := by
    intro c same
    rw [beq_iff_eq.mp same]
    rfl
  rw [quoteValue, ampersands_encode]
  split
  · next plain =>
    exact Or.inl ⟨rfl, by simpa using plain⟩
  · right
    split
    · next double =>
      refine ⟨'"', (· == '&'), Or.inl rfl, rfl, marked, ?_, rfl⟩
      rintro c member rfl
      exact absurd member (by simpa using double)
    · split
      · next single =>
        refine ⟨'\'', (· == '&'), Or.inr rfl, rfl, marked, ?_, rfl⟩
        rintro c member rfl
        exact absurd member (by simpa using single)
      · refine ⟨'"', fun c => c == '&' || c == '"', Or.inl rfl, rfl, ?_, ?_, ?_⟩
        · intro c either
          rcases Bool.or_eq_true_iff.mp either with same | same <;> rw [beq_iff_eq.mp same] <;> rfl
        · rintro c _ rfl
          rfl
        · rw [quotes_encode]

/-! ## What the reader makes of it -/

namespace Lexer

/-- A quoted value is read up to the quote that closes it. -/
theorem quoted_read {quote : Char} (either : quote = '"' ∨ quote = '\'') {body : List Char}
    (free : quote ∉ body) (rest : List Char) :
    attributeValue? (quote :: body ++ [quote] ++ rest) = some (body, rest) := by
  have shape : quote :: body ++ [quote] ++ rest = quote :: (body ++ quote :: rest) := by simp
  have found : cut (· == quote) (body ++ quote :: rest) = some (body, rest) :=
    cut_unmarked rest (fun d member => beq_eq_false_iff_ne.mpr fun same => free (same ▸ member))
      (beq_self_eq_true quote)
  rw [shape]
  rcases either with rfl | rfl <;> simpa [attributeValue?, isAsciiBlank] using found

/-- A value without quotes is read up to the blank or the end of the tag after it. -/
theorem unquoted_read {body : List Char} (some : body ≠ [])
    (plain : ∀ c ∈ body, needsQuotes c = false) {mark : Char} (ends : mark = ' ' ∨ mark = '>')
    (rest : List Char) :
    attributeValue? (body ++ mark :: rest) = Option.some (body, mark :: rest) := by
  obtain ⟨c, others, rfl⟩ := List.exists_cons_of_ne_nil some
  have first := plain c List.mem_cons_self
  simp only [needsQuotes, Bool.or_eq_false_iff, List.contains_eq_mem, decide_eq_false_iff_not,
    List.mem_cons, not_or] at first
  obtain ⟨blank, double, single, _⟩ := first
  have going : ∀ d ∈ c :: others, (!(isAsciiBlank d || d == '>')) = true := by
    intro d member
    have clear := plain d member
    simp only [needsQuotes, Bool.or_eq_false_iff, List.contains_eq_mem, decide_eq_false_iff_not,
      List.mem_cons, not_or] at clear
    simp [clear]
  obtain ⟨taken, left⟩ := run_ends rest going
    (by rcases ends with rfl | rfl <;> rfl : (!(isAsciiBlank mark || mark == '>')) = false)
  have start : (c :: others ++ mark :: rest).dropWhile isAsciiBlank = c :: others ++ mark :: rest := by
    simp [blank]
  unfold attributeValue?
  rw [start]
  split
  · next same => cases same
  · next same => exact absurd (List.cons.inj same).1 double
  · next same => exact absurd (List.cons.inj same).1 single
  · exact congrArg Option.some (Prod.ext taken left)

/-- A value that is written is read as it was, up to its end. -/
theorem value_read {value : List Char} (filled : value ≠ []) {mark : Char}
    (ends : mark = ' ' ∨ mark = '>') (rest : List Char) :
    ∃ raw, attributeValue? (quoteValue value ++ mark :: rest) = some (raw, mark :: rest) ∧
      decode true raw = value := by
  rcases quoteValue_cases value with ⟨written, plain⟩ |
      ⟨quote, escaped, either, ampersand, marks, quotes, written⟩
  · have clear := encode_chars (P := fun c => needsQuotes c = false) (by decide) (by decide)
      (by simp [needsQuotes, isAsciiBlank]) (· == '&') fun c member => Or.inr (plain c member)
    have some : encode (· == '&') value ≠ [] := by
      intro empty
      have whole := decode_encode true (· == '&') rfl value
      rw [empty] at whole
      exact filled whole.symm
    exact ⟨_, by rw [written]; exact unquoted_read some clear ends rest,
      decode_encode true _ rfl value⟩
  · have free : quote ∉ encode escaped value := by
      have apart := encode_chars (P := fun c => c ≠ quote)
        (by rcases either with rfl | rfl <;> decide) (by rcases either with rfl | rfl <;> decide)
        (by rcases either with rfl | rfl <;> simp) escaped (s := value) (fun c member => by
          by_cases same : c = quote
          · exact Or.inl ⟨quotes c member same, marks c (quotes c member same)⟩
          · exact Or.inr same)
      exact fun member => apart quote member rfl
    exact ⟨_, by rw [written]; exact quoted_read either free (mark :: rest),
      decode_encode true escaped ampersand value⟩

/-- Without NULs all characters are visible. -/
theorem visibleText_clean {s : List Char} (clean : '\x00' ∉ s) : visibleText s = s := by
  refine (List.map_congr_left fun c member => if_neg ?_).trans (List.map_id _)
  rintro rfl
  exact clean member

/-- An attribute that is written is read with its name and its value, up to its end. -/
theorem attribute_read {first : Char} {others value : List Char}
    (name : ∀ c ∈ others, endsAttributeName c = false) (filled : value ≠ []) (clean : '\x00' ∉ value)
    {mark : Char} (ends : mark = ' ' ∨ mark = '>') (rest : List Char) :
    attribute? (first :: others ++ '=' :: quoteValue value ++ mark :: rest) =
      some (⟨nameOf (first :: others), String.ofList value⟩, mark :: rest) := by
  obtain ⟨raw, read, decoded⟩ := value_read filled ends rest
  have going : ∀ c ∈ others, (!endsAttributeName c) = true := fun c member => by simp [name c member]
  obtain ⟨taken, left⟩ := run_ends (quoteValue value ++ mark :: rest) going
    (by decide : (!endsAttributeName '=') = false)
  have shape : first :: others ++ '=' :: quoteValue value ++ mark :: rest =
      first :: (others ++ '=' :: (quoteValue value ++ mark :: rest)) := by simp
  have equals : ('=' :: (quoteValue value ++ mark :: rest)).dropWhile isAsciiBlank =
      '=' :: (quoteValue value ++ mark :: rest) := by simp [isAsciiBlank]
  rw [shape, attribute?]
  simp only [taken, left, equals, read, Option.map_some, decoded, visibleText_clean clean]

/-- The text of a token. -/
def textOf : Token → List Char
  | .blanks run => run.toList
  | .text run => run.toList
  | _ => []

/-- The runs of a text are the text, and none is empty. -/
theorem runs_joined (s : List Char) :
    (s.foldr addToRuns []).flatMap (·.2) = s ∧ ∀ run ∈ s.foldr addToRuns [], run.2 ≠ [] := by
  induction s with
  | nil => exact ⟨rfl, nofun⟩
  | cons c s inductionHypothesis =>
    obtain ⟨joined, some⟩ := inductionHypothesis
    rw [List.foldr_cons]
    generalize s.foldr addToRuns [] = runs at joined some
    unfold addToRuns
    split
    · next blank run rest =>
      obtain ⟨first, others⟩ := List.forall_mem_cons.mp some
      split
      · exact ⟨by simp [← joined], List.forall_mem_cons.mpr ⟨List.cons_ne_nil _ _, others⟩⟩
      · exact ⟨by simp [← joined], List.forall_mem_cons.mpr ⟨List.cons_ne_nil _ _, some⟩⟩
    · exact ⟨by simp [← joined], by simp⟩

/-- The tokens of a text without NULs are text, and nothing of it is lost. -/
theorem textTokens_joined {s : List Char} (clean : '\x00' ∉ s) :
    (textTokens s).flatMap textOf = s ∧ ∀ token ∈ textTokens s, ∃ run : String, run ≠ "" ∧
      (token = .blanks run ∨ token = .text run) := by
  obtain ⟨joined, some⟩ := runs_joined s
  have visible : ∀ run ∈ s.foldr addToRuns [], run.2 ≠ ['\x00'] := by
    intro run member null
    refine clean ?_
    rw [← joined]
    exact List.mem_flatMap.mpr ⟨run, member, by simp [null]⟩
  constructor
  · conv_rhs => rw [← joined]
    rw [textTokens, List.flatMap_map]
    refine List.flatMap_congr fun run member => ?_
    dsimp only
    rw [if_neg (visible run member)]
    split <;> simp [textOf]
  · intro token member
    obtain ⟨run, inside, rfl⟩ := List.mem_map.mp member
    refine ⟨String.ofList run.2, by simpa using some run inside, ?_⟩
    dsimp only
    rw [if_neg (visible run inside)]
    split <;> simp

/-- Written text starts with no numeric reference. -/
theorem startsUnclosed_escapeText (s : List Char) : startsUnclosed (escapeText s) = false := by
  unfold escapeText
  split
  · rfl
  · rfl
  · rfl
  · rfl
  · next other _ _ =>
    unfold startsUnclosed
    split
    · next same => exact absurd (List.cons.inj same).1 other
    · rfl

/-- Text that is written is read as it was, up to the next tag. -/
theorem text_read (inForeign : Bool) {s : List Char} (filled : s ≠ []) {rest : List Char}
    (ends : rest = [] ∨ rest.head? = some '<') :
    next .data inForeign (escapeText s ++ rest) = (textTokens s, rest) := by
  have going : ∀ c ∈ escapeText s, decide (c ≠ '<') = true := by
    intro c member
    refine decide_eq_true ?_
    rintro rfl
    exact (escapeText_unmarked s).1 member
  have parted : (escapeText s ++ rest).takeWhile (· ≠ '<') = escapeText s ∧
      (escapeText s ++ rest).dropWhile (· ≠ '<') = rest := by
    rcases ends with rfl | opens
    · rw [List.append_nil]
      exact ⟨List.takeWhile_eq_self_iff.mpr going, List.dropWhile_eq_nil_iff.mpr going⟩
    · obtain ⟨tail, rfl⟩ := List.head?_eq_some_iff.mp opens
      exact run_ends tail going (by decide)
  have decoded : decode false (escapeText s) = s := by
    rw [escapeText_encode]
    exact decode_encode false _ rfl s
  have text : ∀ r, escapeText s ++ rest ≠ '<' :: r := by
    intro r same
    cases written : escapeText s with
    | nil =>
      rw [written] at decoded
      exact filled decoded.symm
    | cons c others =>
      rw [written] at same
      refine (escapeText_unmarked s).1 ?_
      rw [written, (List.cons.inj same).1]
      exact List.mem_cons_self
  have read : next .data inForeign (escapeText s ++ rest) =
      (afterFault ((escapeText s ++ rest).takeWhile (· ≠ '<'))
        (textTokens (decode false ((escapeText s ++ rest).takeWhile (· ≠ '<')))),
        (escapeText s ++ rest).dropWhile (· ≠ '<')) := by
    unfold next
    split
    · split
      · next r same => exact absurd same (text r)
      · rfl
    all_goals contradiction
  rw [read, parted.1, parted.2, decoded, afterFault, startsUnclosed_escapeText]
  rfl

end Lexer

/-- A text without carriage returns goes through the reading of line ends as it is. -/
theorem normalizeLines_clean {s : List Char} (clean : '\r' ∉ s) (rest : List Char) :
    normalizeLines (s ++ rest) = s ++ normalizeLines rest := by
  induction s with
  | nil => rfl
  | cons c s inductionHypothesis =>
    obtain ⟨apart, others⟩ := not_or.mp (mt List.mem_cons.mpr clean)
    rw [List.cons_append, normalizeLines, inductionHypothesis others]
    · rfl
    all_goals
      intros
      simp_all [eq_comm]

/-- Encoding brings in no carriage returns. -/
theorem encode_clean {escaped : Char → Bool} {s : List Char} (clean : '\r' ∉ s) :
    '\r' ∉ encode escaped s := by
  have apart := encode_chars (P := fun c => c ≠ '\r') (by decide) (by decide) (by simp)
    escaped (s := s) (fun c member => Or.inr fun same => clean (same ▸ member))
  exact fun member => apart _ member rfl

theorem quoteValue_clean {value : List Char} (clean : '\r' ∉ value) : '\r' ∉ quoteValue value := by
  rcases quoteValue_cases value with ⟨written, _⟩ | ⟨quote, escaped, either, _, _, _, written⟩
  · rw [written]
    exact encode_clean clean
  · have apart : '\r' ≠ quote := by rcases either with rfl | rfl <;> decide
    rw [written]
    simp [apart, encode_clean clean]

/-- Reading undoes writing. A value that is written after the name of an attribute is read as the same
value, up to the blank or the end of the tag after it, and a text that is written is read as the same
text, without any other tokens, up to the next tag. Neither is changed when line ends are read.

Proof: each mark is written as a reference, which is read as the mark, since no name of a character goes
on after its semicolon. A quote that a value holds is not the quote around it. A value without quotes
holds nothing that ends it, and a text does not hold what starts a tag. -/
theorem written_read :
    (∀ value : List Char, value ≠ [] → '\x00' ∉ value → '\r' ∉ value →
      ∀ (first : Char) (others : List Char) (mark : Char) (rest : List Char),
        (∀ c ∈ others, Lexer.endsAttributeName c = false) → mark = ' ' ∨ mark = '>' →
          normalizeLines (quoteValue value ++ mark :: rest) =
              quoteValue value ++ mark :: normalizeLines rest ∧
            Lexer.attribute? (first :: others ++ '=' :: quoteValue value ++ mark :: rest) =
              some (⟨Lexer.nameOf (first :: others), String.ofList value⟩, mark :: rest)) ∧
    (∀ text : List Char, '\x00' ∉ text → '\r' ∉ text →
      ∀ rest : List Char, rest = [] ∨ rest.head? = some '<' →
        normalizeLines (escapeText text ++ rest) = escapeText text ++ normalizeLines rest ∧
          (text = [] → escapeText text = []) ∧
          (text ≠ [] → ∀ inForeign, ∃ tokens,
            Lexer.next .data inForeign (escapeText text ++ rest) = (tokens, rest) ∧
              tokens.flatMap Lexer.textOf = text ∧
              ∀ token ∈ tokens, ∃ run : String, run ≠ "" ∧
                (token = .blanks run ∨ token = .text run))) := by
  constructor
  · intro value filled visible clean first others mark rest name ends
    refine ⟨?_, Lexer.attribute_read name filled visible ends rest⟩
    rw [normalizeLines_clean (quoteValue_clean clean), normalizeLines]
    all_goals
      intros
      rcases ends with rfl | rfl <;> simp_all
  · intro text visible clean rest ends
    refine ⟨?_, ?_, fun filled inForeign => ⟨_, Lexer.text_read inForeign filled ends, ?_⟩⟩
    · rw [escapeText_encode, normalizeLines_clean (encode_clean clean)]
    · rintro rfl
      rfl
    · exact Lexer.textTokens_joined visible

/-- A value with both kinds of quotes, and a text that looks like markup. -/
theorem written_read_marked :
    (quoteValue "a&\"'>".toList = "\"a&amp;&quot;'>\"".toList ∧
      Lexer.attribute? "id=\"a&amp;&quot;'>\">x".toList =
        some (⟨"id", "a&\"'>"⟩, ">x".toList)) ∧
    (escapeText "<b> &amp;".toList = "&lt;b&gt; &amp;amp;".toList ∧
      ∃ tokens, Lexer.next .data false "&lt;b&gt; &amp;amp;</p>".toList = (tokens, "</p>".toList) ∧
        tokens.flatMap Lexer.textOf = "<b> &amp;".toList) := by
  have value : quoteValue "a&\"'>".toList = "\"a&amp;&quot;'>\"".toList := by decide +kernel
  have text : escapeText "<b> &amp;".toList = "&lt;b&gt; &amp;amp;".toList := by decide +kernel
  have first := (written_read.1 "a&\"'>".toList (by decide) (by decide) (by decide) 'i'
    ['d'] '>' "x".toList (List.forall_mem_singleton.mpr (by decide)) (Or.inr rfl)).2
  obtain ⟨tokens, read, joined, _⟩ := (written_read.2 "<b> &amp;".toList (by decide) (by decide)
    "</p>".toList (Or.inr rfl)).2.2 (by decide) false
  rw [value] at first
  rw [text] at read
  exact ⟨⟨value, first⟩, text, tokens, read, joined⟩

end Pagefold.Html
