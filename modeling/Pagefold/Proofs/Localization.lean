import Mathlib
import Pagefold.Localization
import Pagefold.Text.Cut

/-!
# Placeholders in a text

A text is cut into characters and placeholders in one way only: a list of segments is what is read
from a text if no placeholder starts at one of its characters. So a text with its placeholders
replaced can be told from its segments.

Two things are said about it. If no value holds a number sign, each placeholder takes number signs
out of the text. And if no value holds blanks, then it does not matter whether the blanks of a text
are collapsed before its placeholders are replaced or afterwards.
-/
namespace Pagefold

namespace Segment

/-- The characters of a key, of which there is at least one. -/
structure IsKey (key : List Char) : Prop where
  nonempty : key ≠ []
  chars : ∀ c ∈ key, isKeyChar c = true

theorem isKeyChar_mark : isKeyChar '#' = false := by decide +kernel

/-- The characters of keys lie between the hyphen and the last small letter. -/
theorem isKeyChar_range (c : Char) (valid : isKeyChar c = true) : 45 ≤ c.toNat ∧ c.toNat ≤ 122 := by
  simp only [isKeyChar, Bool.or_eq_true, beq_iff_eq] at valid
  rcases valid with ((letter | rfl) | rfl) | rfl
  · simp only [Char.isAlphanum, Char.isAlpha, Char.isUpper, Char.isLower, Char.isDigit,
      Bool.or_eq_true, Bool.and_eq_true, decide_eq_true_eq, ge_iff_le, UInt32.le_iff_toNat_le]
      at letter
    change ((65 ≤ c.toNat ∧ c.toNat ≤ 90) ∨ 97 ≤ c.toNat ∧ c.toNat ≤ 122) ∨
      48 ≤ c.toNat ∧ c.toNat ≤ 57 at letter
    omega
  all_goals decide

/-- Blanks are control characters, the space, or beyond the letters. -/
theorem isBlank_range (c : Char) (blank : Text.isBlank c = true) :
    c.toNat ≤ 32 ∨ 133 ≤ c.toNat := by
  simp only [Text.isBlank, Text.isAsciiBlank, Bool.or_eq_true, beq_iff_eq, Bool.and_eq_true,
    decide_eq_true_eq] at blank
  rcases blank with
    ((((((((((((((rfl | rfl) | rfl) | rfl) | rfl) | rfl) | rfl) | rfl) | rfl) | range) | rfl) | rfl)
      | rfl) | rfl) | rfl)
  case inl.inl.inl.inl.inl.inr => exact Or.inr (by omega)
  all_goals decide

/-- No blank is a character of a key. -/
theorem not_blank_of_isKeyChar (c : Char) (valid : isKeyChar c = true) : Text.isBlank c = false := by
  have range := isKeyChar_range c valid
  by_contra blank
  rw [Bool.not_eq_false] at blank
  rcases isBlank_range c blank with low | high <;> omega

/-- There is a key at the start of a text exactly if a placeholder is. -/
theorem keyAt_iff (s key : List Char) :
    keyAt? s = some key ↔ IsKey key ∧ ∃ rest, s = opening ++ key ++ '#' :: rest := by
  constructor
  · intro found
    unfold keyAt? at found
    split at found
    · cases found
    · next r after =>
      split at found
      · next first others rest taken left =>
        cases found
        refine ⟨⟨by simp, fun c member => ?_⟩, rest, ?_⟩
        · rw [← taken] at member
          exact List.mem_takeWhile_imp member
        · rw [Text.eq_append_of_after? after, List.append_assoc, ← taken, ← left,
            List.takeWhile_append_dropWhile]
      · cases found
  · rintro ⟨⟨nonempty, chars⟩, rest, rfl⟩
    obtain ⟨first, others, rfl⟩ := List.exists_cons_of_ne_nil nonempty
    have taken : ((first :: others) ++ '#' :: rest).takeWhile isKeyChar = first :: others := by
      rw [List.takeWhile_append_of_pos chars]
      simp [isKeyChar_mark]
    have left : ((first :: others) ++ '#' :: rest).dropWhile isKeyChar = '#' :: rest := by
      rw [List.dropWhile_append_of_pos chars]
      simp [isKeyChar_mark]
    rw [keyAt?, List.append_assoc, Text.after?_append]
    simp only [taken, left]

/-- No placeholder starts with another character than the number sign. -/
theorem keyAt_unmarked (c : Char) (s : List Char) (apart : c ≠ '#') : keyAt? (c :: s) = none := by
  rw [Option.eq_none_iff_forall_not_mem]
  intro key found
  obtain ⟨_, rest, same⟩ := (keyAt_iff _ _).mp found
  exact apart (List.cons.inj same).1

/-- A placeholder at the start of a text is still there when more text follows. -/
theorem keyAt_append (s more key : List Char) (found : keyAt? s = some key) :
    keyAt? (s ++ more) = some key := by
  obtain ⟨isKey, rest, rfl⟩ := (keyAt_iff _ _).mp found
  exact (keyAt_iff _ _).mpr ⟨isKey, rest ++ more, by simp⟩

theorem scanFrom_drop (skip : Nat) (s : List Char) : scanFrom skip s = scan (s.drop skip) := by
  induction s generalizing skip with
  | nil =>
    rw [List.drop_nil]
    cases skip <;> rfl
  | cons c rest inductionHypothesis =>
    cases skip with
    | zero => rfl
    | succ skip => exact inductionHypothesis skip

theorem scan_literal {c : Char} {s : List Char} (absent : keyAt? (c :: s) = none) :
    scan (c :: s) = .literal c :: scan s := by
  simp only [scan, scanFrom, absent]

theorem scan_placeholder {key : List Char} (isKey : IsKey key) (rest : List Char) :
    scan (opening ++ key ++ '#' :: rest) = .placeholder (String.ofList key) :: scan rest := by
  have found : keyAt? (opening ++ key ++ '#' :: rest) = some key :=
    (keyAt_iff _ _).mpr ⟨isKey, rest, rfl⟩
  obtain ⟨c, tail, same⟩ : ∃ c tail, opening ++ key ++ '#' :: rest = c :: tail := ⟨_, _, rfl⟩
  have left : tail.drop (opening.length + key.length) = rest := by
    have all := congrArg (List.drop (opening.length + key.length + 1)) same
    rw [List.drop_succ_cons] at all
    rw [← all, ← List.length_append, ← List.drop_drop, List.drop_left]
    rfl
  rw [same] at found ⊢
  simp only [scan, scanFrom, found]
  rw [scanFrom_drop, left]
  rfl

/-- Segments that are read as they are: each key is one, and no placeholder starts at a
character. -/
inductive Canonical : List Segment → Prop
  | nil : Canonical []
  | literal {c : Char} {rest : List Segment} : keyAt? (c :: rest.flatMap text) = none →
      Canonical rest → Canonical (.literal c :: rest)
  | placeholder {key : String} {rest : List Segment} : IsKey key.toList →
      Canonical rest → Canonical (.placeholder key :: rest)

/-- The segments of a text are written as the text, and read as they are.

Proof: by induction on the length of the text, for a placeholder takes more than one character. -/
theorem scan_canonical (s : List Char) : Canonical (scan s) ∧ (scan s).flatMap text = s := by
  induction length : s.length using Nat.strong_induction_on generalizing s with
  | _ size inductionHypothesis =>
    cases s with
    | nil => exact ⟨.nil, rfl⟩
    | cons c rest =>
      cases found : keyAt? (c :: rest) with
      | none =>
        obtain ⟨canonical, written⟩ := inductionHypothesis rest.length (by simp [← length]) rest rfl
        rw [scan_literal found]
        refine ⟨.literal (by rwa [written]) canonical, ?_⟩
        rw [List.flatMap_cons, written]
        rfl
      | some key =>
        obtain ⟨isKey, tail, same⟩ := (keyAt_iff _ _).mp found
        have shorter : tail.length < size := by
          rw [← length, same]
          simp only [List.length_append, List.length_cons]
          omega
        obtain ⟨canonical, written⟩ := inductionHypothesis tail.length shorter tail rfl
        rw [same, scan_placeholder isKey]
        refine ⟨.placeholder (by rwa [String.toList_ofList]) canonical, ?_⟩
        rw [List.flatMap_cons, written, text, String.toList_ofList]
        simp

namespace Canonical

variable {segments front back : List Segment}

theorem scan_eq (canonical : Canonical segments) : scan (segments.flatMap text) = segments := by
  induction canonical with
  | nil => rfl
  | @literal c rest absent _ inductionHypothesis =>
    rw [List.flatMap_cons]
    refine (scan_literal absent).trans ?_
    rw [inductionHypothesis]
  | @placeholder key rest isKey _ inductionHypothesis =>
    rw [List.flatMap_cons, text, List.append_assoc, List.singleton_append, scan_placeholder isKey,
      inductionHypothesis, String.ofList_toList]

theorem of_append_right (canonical : Canonical (front ++ back)) : Canonical back := by
  induction front with
  | nil => exact canonical
  | cons segment rest inductionHypothesis =>
    cases canonical with
    | literal _ later => exact inductionHypothesis later
    | placeholder _ later => exact inductionHypothesis later

theorem of_append_left (canonical : Canonical (front ++ back)) : Canonical front := by
  induction front with
  | nil => exact .nil
  | cons segment rest inductionHypothesis =>
    cases canonical with
    | @literal c _ absent later =>
      refine .literal ?_ (inductionHypothesis later)
      change keyAt? (c :: (rest ++ back).flatMap text) = none at absent
      cases found : keyAt? (c :: rest.flatMap text) with
      | none => rfl
      | some key =>
        have more := keyAt_append _ (back.flatMap text) key found
        rw [List.cons_append, ← List.flatMap_append, absent] at more
        cases more
    | placeholder isKey later => exact .placeholder isKey (inductionHypothesis later)

end Canonical

section Blanks

/-- Whether a segment is a blank. -/
def isBlank : Segment → Bool
  | literal c => Text.isBlank c
  | placeholder _ => false

/-- The segments without the blanks at the two ends. -/
def trim (segments : List Segment) : List Segment :=
  ((segments.dropWhile isBlank).reverse.dropWhile isBlank).reverse

/-- The segments with every maximal run of ASCII blanks made one space. `inRun` tells that the
segment before was a blank. -/
def collapseFrom (inRun : Bool) : List Segment → List Segment
  | [] => []
  | literal c :: rest =>
    if Text.isAsciiBlank c then
      if inRun then collapseFrom true rest else literal ' ' :: collapseFrom true rest
    else literal c :: collapseFrom false rest
  | placeholder key :: rest => placeholder key :: collapseFrom false rest

/-- Segments are written by `f` in such a way that characters stay themselves, and what stands for a
placeholder is not empty and holds no blanks. -/
structure Solid (f : Segment → List Char) (segments : List Segment) : Prop where
  literal : ∀ c, f (.literal c) = [c]
  placeholder : ∀ key, .placeholder key ∈ segments → f (.placeholder key) ≠ [] ∧
    ∀ c ∈ f (.placeholder key), Text.isBlank c = false

variable {f : Segment → List Char} {segments some : List Segment}

theorem Solid.of_subset (solid : Solid f segments) (inside : some ⊆ segments) : Solid f some :=
  ⟨solid.literal, fun key member => solid.placeholder key (inside member)⟩

theorem Solid.reversed (solid : Solid f segments) :
    Solid (List.reverse ∘ f) segments.reverse where
  literal c := by simp [solid.literal c]
  placeholder key member := by
    obtain ⟨nonempty, clear⟩ := solid.placeholder key (List.mem_reverse.mp member)
    exact ⟨by simpa using nonempty, fun c inside => clear c (List.mem_reverse.mp inside)⟩

/-- The blanks at the start of a text are the blank segments at the start. -/
theorem dropWhile_flatMap (solid : Solid f segments) :
    (segments.flatMap f).dropWhile Text.isBlank = (segments.dropWhile isBlank).flatMap f := by
  induction segments with
  | nil => rfl
  | cons segment rest inductionHypothesis =>
    have later := inductionHypothesis (solid.of_subset (List.subset_cons_self _ _))
    cases segment with
    | literal c =>
      cases blank : Text.isBlank c with
      | true => simp [isBlank, solid.literal, blank, later]
      | false => simp [isBlank, solid.literal, blank]
    | placeholder key =>
      obtain ⟨nonempty, clear⟩ := solid.placeholder key List.mem_cons_self
      obtain ⟨c, word, same⟩ := List.exists_cons_of_ne_nil nonempty
      have start : Text.isBlank c = false := clear c (by simp [same])
      simp [isBlank, same, start]

theorem trim_flatMap (solid : Solid f segments) :
    Text.trim (segments.flatMap f) = (trim segments).flatMap f := by
  have left := solid.of_subset (List.dropWhile_sublist isBlank (l := segments)).subset
  rw [Text.trim, dropWhile_flatMap solid, List.reverse_flatMap, dropWhile_flatMap left.reversed,
    List.reverse_flatMap]
  simp [trim, Function.comp_def]

/-- A word without blanks is left as it is, and ends a run of blanks. -/
theorem collapse_word (inRun : Bool) (word rest : List Char) (nonempty : word ≠ [])
    (clear : ∀ c ∈ word, Text.isBlank c = false) :
    Text.collapseFrom inRun (word ++ rest) = word ++ Text.collapseFrom false rest := by
  induction word generalizing inRun with
  | nil => exact absurd rfl nonempty
  | cons c word inductionHypothesis =>
    have dense : Text.isAsciiBlank c = false := by
      cases blank : Text.isAsciiBlank c with
      | false => rfl
      | true =>
        have none := clear c List.mem_cons_self
        rw [Text.isBlank_of_isAsciiBlank blank] at none
        cases none
    simp only [List.cons_append, Text.collapseFrom, dense, Bool.false_eq_true, if_false]
    congr 1
    by_cases last : word = []
    · rw [last]
      rfl
    · exact inductionHypothesis false last fun d member => clear d (List.mem_cons_of_mem c member)

theorem collapse_flatMap (solid : Solid f segments) (inRun : Bool) :
    Text.collapseFrom inRun (segments.flatMap f) = (collapseFrom inRun segments).flatMap f := by
  induction segments generalizing inRun with
  | nil => rfl
  | cons segment rest inductionHypothesis =>
    have later := inductionHypothesis (solid.of_subset (List.subset_cons_self _ _))
    cases segment with
    | literal c =>
      rw [List.flatMap_cons, solid.literal, List.singleton_append]
      simp only [Text.collapseFrom, collapseFrom, later]
      split
      · split
        · rfl
        · rw [List.flatMap_cons, solid.literal, List.singleton_append]
      · rw [List.flatMap_cons, solid.literal, List.singleton_append]
    | placeholder key =>
      obtain ⟨nonempty, clear⟩ := solid.placeholder key List.mem_cons_self
      rw [List.flatMap_cons, collapse_word inRun _ _ nonempty clear, later, collapseFrom,
        List.flatMap_cons]

/-- A word without blanks is at the start of a text exactly if it is there after the blanks of the
text are collapsed. -/
theorem prefix_collapse (word s : List Char) (clear : ∀ c ∈ word, Text.isBlank c = false) :
    word <+: Text.collapseFrom false s ↔ word <+: s := by
  induction word generalizing s with
  | nil => simp
  | cons c word inductionHypothesis =>
    cases s with
    | nil => rfl
    | cons d rest =>
      have others := fun e member => clear e (List.mem_cons_of_mem c member)
      cases blank : Text.isAsciiBlank d with
      | false => simp [Text.collapseFrom, blank, List.cons_prefix_cons, inductionHypothesis _ others]
      | true =>
        have apart : ∀ e, Text.isBlank e = true → c ≠ e := by
          rintro e found rfl
          rw [clear c List.mem_cons_self] at found
          cases found
        simp [Text.collapseFrom, blank, List.cons_prefix_cons, apart ' ' (by decide),
          apart d (Text.isBlank_of_isAsciiBlank blank)]

/-- The text of a placeholder is not empty and holds no blanks. -/
theorem text_dense {key : List Char} (isKey : IsKey key) :
    ∀ c ∈ opening ++ key ++ ['#'], Text.isBlank c = false := by
  intro c member
  have first : ∀ d ∈ opening, (!Text.isBlank d) = true :=
    List.all_eq_true.mp (by decide)
  rcases List.mem_append.mp member with inside | last
  · rcases List.mem_append.mp inside with early | char
    · simpa using first c early
    · exact not_blank_of_isKeyChar c (isKey.chars c char)
  · rw [List.mem_singleton.mp last]
    decide

theorem Canonical.solid (canonical : Canonical segments) : Solid text segments where
  literal _ := rfl
  placeholder key member := by
    refine ⟨by simp [text], ?_⟩
    induction canonical with
    | nil => cases member
    | literal _ _ inductionHypothesis =>
      exact inductionHypothesis ((List.mem_cons.mp member).resolve_left nofun)
    | placeholder isKey _ inductionHypothesis =>
      rcases List.mem_cons.mp member with same | later
      · cases same
        exact text_dense isKey
      · exact inductionHypothesis later

/-- No placeholder comes up when blanks are collapsed. -/
theorem keyAt_collapse (c : Char) (s : List Char) (absent : keyAt? (c :: s) = none) :
    keyAt? (c :: Text.collapseFrom false s) = none := by
  cases found : keyAt? (c :: Text.collapseFrom false s) with
  | none => rfl
  | some key =>
    obtain ⟨isKey, rest, same⟩ := (keyAt_iff _ _).mp found
    have dense := text_dense isKey
    obtain ⟨word, whole⟩ : ∃ word, opening ++ key ++ ['#'] = c :: word := by
      obtain ⟨rfl, _⟩ := List.cons.inj same
      exact ⟨_, rfl⟩
    have start : c :: word <+: c :: Text.collapseFrom false s := by
      rw [← whole, same]
      exact ⟨rest, by simp⟩
    obtain ⟨more, rfl⟩ : word <+: s := by
      rw [← prefix_collapse word s fun d member => dense d (whole ▸ List.mem_cons_of_mem c member)]
      exact (List.cons_prefix_cons.mp start).2
    have here : keyAt? (c :: (word ++ more)) = some key := by
      rw [← List.cons_append, ← whole]
      exact (keyAt_iff _ _).mpr ⟨isKey, more, by simp⟩
    rw [absent] at here
    cases here

theorem Canonical.collapse (canonical : Canonical segments) (inRun : Bool) :
    Canonical (collapseFrom inRun segments) := by
  induction canonical generalizing inRun with
  | nil => exact .nil
  | @literal c rest absent later inductionHypothesis =>
    rw [collapseFrom]
    split
    · split
      · exact inductionHypothesis true
      · exact .literal (keyAt_unmarked _ _ (by decide)) (inductionHypothesis true)
    · refine .literal ?_ (inductionHypothesis false)
      rw [← collapse_flatMap later.solid]
      exact keyAt_collapse c _ absent
  | placeholder isKey _ inductionHypothesis =>
    exact .placeholder isKey (inductionHypothesis false)

theorem Canonical.trim (canonical : Canonical segments) : Canonical (Segment.trim segments) := by
  have front : Canonical (segments.dropWhile isBlank) := by
    rw [← List.takeWhile_append_dropWhile (p := isBlank) (l := segments)] at canonical
    exact canonical.of_append_right
  have split := congrArg List.reverse
    (List.takeWhile_append_dropWhile (p := isBlank) (l := (segments.dropWhile isBlank).reverse))
  rw [List.reverse_append, List.reverse_reverse] at split
  rw [← split] at front
  exact front.of_append_left

/-- The segments of a trimmed text are those of the text, trimmed. -/
theorem scan_trim (s : List Char) : scan (Text.trim s) = trim (scan s) := by
  obtain ⟨canonical, written⟩ := scan_canonical s
  have trimmed : Text.trim s = (trim (scan s)).flatMap text := by
    conv_lhs => rw [← written]
    exact trim_flatMap canonical.solid
  rw [trimmed, canonical.trim.scan_eq]

/-- The segments of a text with collapsed blanks are those of the text, collapsed. -/
theorem scan_collapse (s : List Char) : scan (Text.collapse s) = collapseFrom false (scan s) := by
  obtain ⟨canonical, written⟩ := scan_canonical s
  have collapsed : Text.collapse s = (collapseFrom false (scan s)).flatMap text := by
    conv_lhs => rw [← written]
    exact collapse_flatMap canonical.solid false
  rw [collapsed, (canonical.collapse false).scan_eq]

/-- Blank segments at the start are characters. -/
theorem takeWhile_blank (segments : List Segment) :
    ∃ blanks : List Char, segments.takeWhile isBlank = blanks.map literal ∧
      ∀ c ∈ blanks, Text.isBlank c = true := by
  induction segments with
  | nil => exact ⟨[], rfl, by simp⟩
  | cons segment rest inductionHypothesis =>
    obtain ⟨blanks, same, all⟩ := inductionHypothesis
    cases segment with
    | placeholder key => exact ⟨[], by simp [isBlank], by simp⟩
    | literal c =>
      cases blank : Text.isBlank c with
      | false => exact ⟨[], by simp [isBlank, blank], by simp⟩
      | true => exact ⟨c :: blanks, by simp [isBlank, blank, same], by simpa [blank] using all⟩

/-- What is trimmed away are blanks at the two ends. -/
theorem trim_split (segments : List Segment) :
    ∃ before after : List Char,
      segments = before.map literal ++ trim segments ++ after.map literal ∧
        ∀ c ∈ before ++ after, Text.isBlank c = true := by
  obtain ⟨before, early, blanks⟩ := takeWhile_blank segments
  obtain ⟨after, late, blanks'⟩ := takeWhile_blank (segments.dropWhile isBlank).reverse
  refine ⟨before, after.reverse, ?_, ?_⟩
  · have first := List.takeWhile_append_dropWhile (p := isBlank) (l := segments)
    have second := congrArg List.reverse (List.takeWhile_append_dropWhile (p := isBlank)
      (l := (segments.dropWhile isBlank).reverse))
    rw [List.reverse_append, List.reverse_reverse, late, ← List.map_reverse] at second
    rw [List.append_assoc, trim, second, ← early, first]
  · intro c member
    rcases List.mem_append.mp member with here | there
    · exact blanks c here
    · exact blanks' c (List.mem_reverse.mp there)

section Kept

variable {β : Type} {g : Segment → Option β} (silent : ∀ c, g (.literal c) = none)

include silent

/-- What is chosen among placeholders alone stays when blanks are collapsed. -/
theorem filterMap_collapse (inRun : Bool) (segments : List Segment) :
    (collapseFrom inRun segments).filterMap g = segments.filterMap g := by
  induction segments generalizing inRun with
  | nil => rfl
  | cons segment rest inductionHypothesis =>
    cases segment with
    | placeholder key =>
      rw [collapseFrom, List.filterMap_cons, List.filterMap_cons, inductionHypothesis]
    | literal c =>
      rw [collapseFrom]
      split
      · split
        · rw [List.filterMap_cons, silent, inductionHypothesis]
        · rw [List.filterMap_cons, List.filterMap_cons, silent, silent, inductionHypothesis]
      · rw [List.filterMap_cons, List.filterMap_cons, silent, inductionHypothesis]

/-- What is chosen among placeholders alone stays when blanks at the ends are trimmed. -/
theorem filterMap_trim (segments : List Segment) :
    (trim segments).filterMap g = segments.filterMap g := by
  obtain ⟨before, after, split, _⟩ := trim_split segments
  have none : ∀ blanks : List Char, (blanks.map literal).filterMap g = [] := by
    intro blanks
    simp [List.filterMap_map, silent]
  conv_rhs => rw [split]
  rw [List.filterMap_append, List.filterMap_append, none, none, List.append_nil, List.nil_append]

end Kept

end Blanks

end Segment

namespace Localizer

variable {l : Localizer}

/-- A report of keys is empty only if there are no keys. -/
theorem report_nil {keys : List String} (empty : report keys = []) : keys = [] := by
  refine List.eq_nil_iff_forall_not_mem.mpr fun key member => ?_
  have reported : key ∈ report keys := by
    simpa [report, List.mem_eraseDups] using member
  rw [empty] at reported
  cases reported

/-- Each placeholder of a text that lacks no key has a value. -/
theorem known_of_missing {s : List Char} (complete : l.missing s = [])
    (key : String) (member : .placeholder key ∈ Segment.scan s) : (l.value? key).isSome = true := by
  cases known : (l.value? key).isSome with
  | true => rfl
  | false =>
    have lacking : key ∈ l.missing s :=
      List.mem_filterMap.mpr ⟨_, member, by simp [missingKey?, known]⟩
    rw [complete] at lacking
    cases lacking

/-- No value of the dictionary holds a number sign. -/
def Unmarked (l : Localizer) : Prop := ∀ key value, l.value? key = some value → '#' ∉ value.toList

/-- Each value of the dictionary holds something, and no blanks. -/
def Dense (l : Localizer) : Prop :=
  ∀ key value, l.value? key = some value →
    value.toList ≠ [] ∧ ∀ c ∈ value.toList, Text.isBlank c = false

/-- What is written for a placeholder is dense, also if its key is unknown. -/
theorem Dense.solid (dense : l.Dense) {segments : List Segment}
    (canonical : Segment.Canonical segments) : Segment.Solid l.resolve segments where
  literal _ := rfl
  placeholder key member := by
    cases value : l.value? key with
    | none =>
      simp only [resolve, value]
      exact canonical.solid.placeholder key member
    | some text =>
      simp only [resolve, value]
      exact dense key text value

/-- Placeholders are replaced in a text with collapsed blanks as in the text itself.

Proof: the segments of the text with collapsed blanks are those of the text, collapsed. -/
theorem Dense.apply_collapsed (dense : l.Dense) (s : List Char) :
    l.apply (Text.collapse (Text.trim s)) = Text.collapse (Text.trim (l.apply s)) := by
  have canonical := (Segment.scan_canonical s).1
  calc l.apply (Text.collapse (Text.trim s))
      = (Segment.collapseFrom false (Segment.trim (Segment.scan s))).flatMap l.resolve := by
        rw [apply, Segment.scan_collapse, Segment.scan_trim]
    _ = Text.collapse (Text.trim (l.apply s)) := by
        rw [apply, Segment.trim_flatMap (dense.solid canonical), Text.collapse,
          Segment.collapse_flatMap (dense.solid canonical.trim)]

/-- A text lacks the same keys after it is trimmed and its blanks are collapsed. -/
theorem missing_tidied (l : Localizer) (s : List Char) :
    l.missing (Text.collapse (Text.trim s)) = l.missing s := by
  have silent : ∀ c, l.missingKey? (.literal c) = none := fun _ => rfl
  rw [missing, Segment.scan_collapse, Segment.scan_trim, Segment.filterMap_collapse silent,
    Segment.filterMap_trim silent]
  rfl

/-- A placeholder with a value takes number signs out of a text. -/
theorem Unmarked.apply_marks (unmarked : l.Unmarked) (s : List Char) :
    (l.apply s).count '#' ≤ s.count '#' ∧
      ((∃ key, .placeholder key ∈ Segment.scan s ∧ (l.value? key).isSome = true) →
        (l.apply s).count '#' < s.count '#') := by
  have each : ∀ segment : Segment, (l.resolve segment).count '#' ≤ segment.text.count '#' ∧
      ∀ key, segment = .placeholder key → (l.value? key).isSome = true →
        (l.resolve segment).count '#' < segment.text.count '#' := by
    intro segment
    cases segment with
    | literal c => exact ⟨Nat.le_refl _, nofun⟩
    | placeholder key =>
      cases value : l.value? key with
      | none =>
        simp only [resolve, value]
        refine ⟨Nat.le_refl _, ?_⟩
        rintro _ ⟨⟩ known
        rw [value] at known
        cases known
      | some text =>
        have none : text.toList.count '#' = 0 := List.count_eq_zero.mpr (unmarked key text value)
        simp only [resolve, value, none, Segment.text]
        simp
  have all : ∀ segments : List Segment,
      (segments.flatMap l.resolve).count '#' ≤ (segments.flatMap Segment.text).count '#' ∧
        ((∃ key, .placeholder key ∈ segments ∧ (l.value? key).isSome = true) →
          (segments.flatMap l.resolve).count '#' < (segments.flatMap Segment.text).count '#') := by
    intro segments
    induction segments with
    | nil => simp
    | cons segment rest inductionHypothesis =>
      obtain ⟨here, fewer⟩ := each segment
      obtain ⟨there, less⟩ := inductionHypothesis
      simp only [List.flatMap_cons, List.count_append]
      refine ⟨Nat.add_le_add here there, ?_⟩
      rintro ⟨key, member, known⟩
      rcases List.mem_cons.mp member with same | later
      · have := fewer key same.symm known
        omega
      · have := less ⟨key, later, known⟩
        omega
  have written := (Segment.scan_canonical s).2
  have counts := all (Segment.scan s)
  rwa [written] at counts

end Localizer

end Pagefold
