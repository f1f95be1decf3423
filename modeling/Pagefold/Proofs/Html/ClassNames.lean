import Mathlib
import Pagefold.Html.Emit
import Pagefold.Html.Parse
import Pagefold.Proofs.Html.Assets
import Pagefold.Proofs.Localization
import Pagefold.Proofs.Text.Cut

/-!
# The names in a class attribute

Markup sees the names of a class attribute between ASCII blanks. What is written is found in four
steps: the value is trimmed of all blanks, its ASCII blanks are collapsed, its placeholders are
replaced, and the result is cut at spaces. The two agree unless a blank that markup does not know
is trimmed away or a value of the dictionary brings an ASCII blank that is no space.
-/
namespace Pagefold

namespace Localizer

variable (l : Localizer)

/-- The names that markup sees in a class attribute. -/
def namesSeen (raw : String) : List String :=
  (Text.words Text.isAsciiBlank (l.apply raw.toList)).map String.ofList

/-- The names for which tokens are written. -/
def namesWritten (raw : String) : List String :=
  (Text.words (· == ' ') (l.apply (Text.collapse (Text.trim raw.toList)))).map String.ofList

/-- No name is changed: what is trimmed away are ASCII blanks, and the only ASCII blank that comes
from the dictionary is the space. -/
structure KeepsNames (raw : String) : Prop where
  trimmed : (Text.trim raw.toList).filter (!Text.isAsciiBlank ·) =
    raw.toList.filter (!Text.isAsciiBlank ·)
  values : ∀ key value, .placeholder key ∈ Segment.scan raw.toList → l.value? key = some value →
    ∀ c ∈ value.toList, Text.isAsciiBlank c = true → c = ' '

section Segments

variable {l}

theorem literals_flatMap (blanks : List Char) :
    (blanks.map Segment.literal).flatMap l.resolve = blanks ∧
      (blanks.map Segment.literal).flatMap Segment.text = blanks := by
  induction blanks with
  | nil => exact ⟨rfl, rfl⟩
  | cons c rest inductionHypothesis =>
    obtain ⟨resolved, written⟩ := inductionHypothesis
    simp [resolve, Segment.text, resolved, written]

/-- After blanks are collapsed, the words are the same. `before` is a blank in front of segments
that come after a blank. -/
theorem alike_collapse (segments : List Segment) :
    Text.Alike Text.isAsciiBlank (segments.flatMap l.resolve)
        ((Segment.collapseFrom false segments).flatMap l.resolve) ∧
      Text.Alike Text.isAsciiBlank (' ' :: segments.flatMap l.resolve)
        (' ' :: (Segment.collapseFrom true segments).flatMap l.resolve) := by
  induction segments with
  | nil => exact ⟨.refl _, .refl _⟩
  | cons segment rest inductionHypothesis =>
    obtain ⟨outside, inside⟩ := inductionHypothesis
    cases segment with
    | placeholder key =>
      have both := (Text.Alike.refl (l.resolve (.placeholder key))).append outside
      exact ⟨both, (Text.Alike.refl [' ']).append both⟩
    | literal c =>
      cases blank : Text.isAsciiBlank c with
      | false =>
        have both := (Text.Alike.refl [c]).append outside
        simp only [Segment.collapseFrom, blank, Bool.false_eq_true, if_false]
        exact ⟨both, (Text.Alike.refl [' ']).append both⟩
      | true =>
        have space : Text.isAsciiBlank ' ' = true := rfl
        have one : Text.Alike Text.isAsciiBlank [c] [' '] :=
          .marks (by simp) (by simp) (by simpa using blank) (by simpa using space)
        have two : Text.Alike Text.isAsciiBlank [' ', c] [' '] :=
          .marks (by simp) (by simp) (by simp [space, blank]) (by simpa using space)
        simp only [Segment.collapseFrom, blank, if_true]
        exact ⟨(one.append (.refl _)).trans inside, (two.append (.refl _)).trans inside⟩

/-- An ASCII blank that is left when blanks were collapsed is a space, or is in a value. -/
theorem blank_collapsed (inRun : Bool) {segments : List Segment}
    (canonical : Segment.Canonical segments)
    (values : ∀ key value, .placeholder key ∈ segments → l.value? key = some value →
      ∀ c ∈ value.toList, Text.isAsciiBlank c = true → c = ' ') :
    ∀ c ∈ (Segment.collapseFrom inRun segments).flatMap l.resolve,
      Text.isAsciiBlank c = true → c = ' ' := by
  induction canonical generalizing inRun with
  | nil => simp [Segment.collapseFrom]
  | @literal d rest _ _ inductionHypothesis =>
    have later := fun inRun => inductionHypothesis inRun fun key value member =>
      values key value (List.mem_cons_of_mem _ member)
    intro c member blank
    rw [Segment.collapseFrom] at member
    split at member
    · split at member
      · exact later true c member blank
      · rcases List.mem_cons.mp member with same | inside
        · exact same
        · exact later true c inside blank
    · next dense =>
      rcases List.mem_cons.mp member with rfl | inside
      · exact absurd blank dense
      · exact later false c inside blank
  | @placeholder key rest isKey _ inductionHypothesis =>
    have later := inductionHypothesis false fun key value member =>
      values key value (List.mem_cons_of_mem _ member)
    intro c member blank
    rw [Segment.collapseFrom, List.flatMap_cons, List.mem_append] at member
    rcases member with here | inside
    · cases known : l.value? key with
      | some value =>
        simp only [resolve, known] at here
        exact values key value List.mem_cons_self known c here blank
      | none =>
        simp only [resolve, known] at here
        have dense := Segment.text_dense isKey c here
        rw [Text.isBlank_of_isAsciiBlank blank] at dense
        cases dense
    · exact later c inside blank

/-- A text has the same placeholders after it is trimmed and its blanks are collapsed. -/
theorem placeholder_tidied (key : String) (s : List Char) :
    .placeholder key ∈ Segment.scan (Text.collapse (Text.trim s)) ↔
      .placeholder key ∈ Segment.scan s := by
  -- Without a dictionary all keys are missing, so the missing keys are all there are.
  have keys : ∀ s, key ∈ ({} : Localizer).missing s ↔ .placeholder key ∈ Segment.scan s := by
    intro s
    rw [missing, List.mem_filterMap]
    constructor
    · rintro ⟨segment, inside, same⟩
      cases segment with
      | literal c => cases same
      | placeholder other =>
        obtain rfl : other = key := Option.some.inj same
        exact inside
    · intro inside
      exact ⟨_, inside, rfl⟩
  rw [← keys, ← keys, missing_tidied]

/-- A text with its placeholders replaced holds what the dictionary has for them. -/
theorem mem_apply {key value : String} {s : List Char}
    (member : .placeholder key ∈ Segment.scan s) (known : l.value? key = some value) {c : Char}
    (inside : c ∈ value.toList) : c ∈ l.apply s := by
  refine List.mem_flatMap.mpr ⟨_, member, ?_⟩
  rw [resolve, known]
  exact inside

/-- What is trimmed away at the ends of a text is no part of a placeholder. -/
theorem apply_split (s : List Char) :
    ∃ before after, s = before ++ Text.trim s ++ after ∧
      l.apply s = before ++ l.apply (Text.trim s) ++ after := by
  obtain ⟨before, after, split, _⟩ := Segment.trim_split (Segment.scan s)
  have parts : ∀ f : Segment → List Char, (∀ blanks : List Char,
      (blanks.map Segment.literal).flatMap f = blanks) →
        (Segment.scan s).flatMap f =
          before ++ (Segment.scan (Text.trim s)).flatMap f ++ after := by
    intro f literals
    conv_lhs => rw [split]
    rw [List.flatMap_append, List.flatMap_append, literals, literals, Segment.scan_trim]
  refine ⟨before, after, ?_, parts l.resolve fun blanks => (literals_flatMap blanks).1⟩
  have whole := parts Segment.text fun blanks => (literals_flatMap (l := l) blanks).2
  rwa [(Segment.scan_canonical s).2, (Segment.scan_canonical (Text.trim s)).2] at whole

/-- The written text holds no ASCII blank but the space exactly if no value that is put in does. -/
theorem spaces_iff (s : List Char) :
    (∀ c ∈ l.apply (Text.collapse (Text.trim s)), Text.isAsciiBlank c = true → c = ' ') ↔
      ∀ key value, .placeholder key ∈ Segment.scan s → l.value? key = some value →
        ∀ c ∈ value.toList, Text.isAsciiBlank c = true → c = ' ' := by
  constructor
  · intro spaces key value member known c inside
    exact spaces c (mem_apply ((placeholder_tidied key s).mpr member) known inside)
  · intro values
    rw [apply, Segment.scan_collapse]
    refine blank_collapsed false (Segment.scan_canonical _).1 fun key value member =>
      values key value ?_
    obtain ⟨before, after, split, _⟩ := Segment.trim_split (Segment.scan s)
    rw [Segment.scan_trim] at member
    rw [split]
    simp [member]

end Segments

/-- Only marks stand at the two ends of a text exactly if the text between has all its other
characters. -/
theorem ends_iff (mark : Char → Bool) (before s after : List Char) :
    (∀ c ∈ before ++ after, mark c = true) ↔
      s.filter (!mark ·) = (before ++ s ++ after).filter (!mark ·) := by
  have dense : ∀ ends : List Char, ends.filter (!mark ·) = [] ↔ ∀ c ∈ ends, mark c = true := by
    simp
  rw [List.filter_append, List.filter_append, List.forall_mem_append, ← dense, ← dense]
  constructor
  · rintro ⟨early, late⟩
    rw [early, late, List.nil_append, List.append_nil]
  · intro same
    have lengths := congrArg List.length same
    simp only [List.length_append] at lengths
    exact ⟨List.length_eq_zero_iff.mp (by omega), List.length_eq_zero_iff.mp (by omega)⟩

/-- Words between spaces are those between ASCII blanks in a longer text, if the two texts differ in
ASCII blanks alone and the shorter one has no ASCII blank but the space; and only then. -/
theorem words_iff {written middle : List Char} (before after : List Char)
    (alike : Text.words Text.isAsciiBlank middle = Text.words Text.isAsciiBlank written) :
    Text.words (· == ' ') written = Text.words Text.isAsciiBlank (before ++ middle ++ after) ↔
      (∀ c ∈ before ++ after, Text.isAsciiBlank c = true) ∧
        ∀ c ∈ written, Text.isAsciiBlank c = true → c = ' ' := by
  have marks : (∀ c ∈ written, Text.isAsciiBlank c = true → c = ' ') →
      ∀ c ∈ written, (c == ' ') = Text.isAsciiBlank c := by
    intro spaces c member
    cases blank : Text.isAsciiBlank c with
    | true => simp [spaces c member blank]
    | false =>
      rw [beq_eq_false_iff_ne]
      rintro rfl
      cases blank
  constructor
  · intro same
    have flat := congrArg List.flatten same
    rw [Text.words_flatten, Text.words_flatten] at flat
    have spaces : ∀ c ∈ written, Text.isAsciiBlank c = true → c = ' ' := by
      intro c member blank
      by_contra other
      have kept : c ∈ written.filter (fun c => !(c == ' ')) :=
        List.mem_filter.mpr ⟨member, by simp [other]⟩
      rw [flat] at kept
      simpa [blank] using (List.mem_filter.mp kept).2
    refine ⟨(ends_iff _ before middle after).mpr ?_, spaces⟩
    rw [← flat, ← Text.words_flatten, alike, ← Text.words_flatten,
      Text.words_congr written (marks spaces)]
  · rintro ⟨ends, spaces⟩
    rw [Text.words_congr written (marks spaces), Text.words_ends before _ after ends, alike]

/-- The written names are those that markup sees exactly if no name is changed.

Proof: the names that markup sees hold no ASCII blanks. A value that brings another ASCII blank than
the space puts it into a written name, and a blank unknown to markup that is trimmed away is missing
there, as collapsing loses ASCII blanks alone. If neither happens, the ASCII blanks of the written
text are spaces, and the two texts differ in runs of ASCII blanks. -/
theorem names_iff (raw : String) : l.namesWritten raw = l.namesSeen raw ↔ l.KeepsNames raw := by
  obtain ⟨before, after, whole, seen⟩ := apply_split (l := l) raw.toList
  have injective : Function.Injective String.ofList := fun _ _ same =>
    String.ofList_injective same
  have alike : Text.words Text.isAsciiBlank (l.apply (Text.trim raw.toList)) =
      Text.words Text.isAsciiBlank (l.apply (Text.collapse (Text.trim raw.toList))) := by
    rw [apply, apply, Segment.scan_collapse]
    exact (alike_collapse (Segment.scan (Text.trim raw.toList))).1.words_eq
  have ends := ends_iff Text.isAsciiBlank before (Text.trim raw.toList) after
  rw [← whole] at ends
  rw [namesWritten, namesSeen, (List.map_injective_iff.mpr injective).eq_iff, seen,
    words_iff before after alike, ends, spaces_iff]
  constructor
  · rintro ⟨trimmed, values⟩
    exact ⟨trimmed, values⟩
  · intro keeps
    exact ⟨keeps.trimmed, keeps.values⟩

end Localizer

namespace Html.Emitter

/-- What is written for a class attribute, whatever it holds and whatever the dictionary says: the
tokens of the written names in order, with a space between each two. The written names are the ones
that markup sees in the value with its placeholders replaced, exactly if no name is changed: nothing
but ASCII blanks may be trimmed away, and no value of the dictionary that is put in may hold another
ASCII blank than the space. -/
theorem class_value (e : Emitter) (element : String) (attributes : List Attribute) (raw : String) :
    (∀ {n : Type → Type} [Monad n] (token : String → n String),
      e.value token element attributes ⟨"class", raw⟩ = do
        let tokens ← classTokens token (e.localizer.namesWritten raw)
        pure (" ".intercalate tokens).toList) ∧
    (e.localizer.namesWritten raw = e.localizer.namesSeen raw ↔ e.localizer.KeepsNames raw) := by
  refine ⟨?_, e.localizer.names_iff raw⟩
  intro n _ token
  have plain : e.renamed? element attributes ⟨"class", raw⟩ = none := by
    rw [renamed?, if_neg]
    simpa using class_not_asset element attributes
  rw [value, plain]
  exact if_pos rfl

/-- The names for which a document asks for tokens, in order. -/
def namesAsked (e : Emitter) (document : Node) : List String :=
  ((e.markup (fun name => do modify (· ++ [name]); pure name) document :
    StateM (List String) String).run []).2

/-- A blank in front of a name is trimmed away though it belongs to the name, and a tab from the
dictionary becomes part of a name though it parts two of them. -/
theorem class_names_changed :
    let lang : Localizer := ⟨some [("k", "\tbig")]⟩
    namesAsked {} (parse "<p class='&#160;foo'>") = ["foo"] ∧
      ({} : Localizer).namesSeen "\u00a0foo" = ["\u00a0foo"] ∧
      namesAsked { localizer := lang } (parse "<p class=red#lang#k#>") = ["red\tbig"] ∧
      lang.namesSeen "red#lang#k#" = ["red", "big"] := by
  decide +kernel

end Html.Emitter

end Pagefold
