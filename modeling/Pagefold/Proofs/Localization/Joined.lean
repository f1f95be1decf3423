import Mathlib
import Pagefold.Bundle
import Pagefold.Proofs.Localization

/-!
# Placeholders in bundles

The sources of a bundle are joined before their placeholders are replaced. A character that no
placeholder can hold parts a text: what is read before it does not depend on what comes after it, and
no placeholder reaches over it. The separators of bundles are made of such characters, so the sources
are localized as if each of them stood alone.

What is read from a text is told here once more, from the left to the right and without a scanner.
-/
namespace Pagefold

namespace Segment

/-- A placeholder is made of number signs and the characters of keys. -/
theorem text_chars {key : List Char} (isKey : IsKey key) :
    ∀ c ∈ opening ++ key ++ ['#'], c = '#' ∨ isKeyChar c = true := by
  have first : ∀ c ∈ opening, (c == '#' || isKeyChar c) = true :=
    List.all_eq_true.mp (by decide)
  intro c member
  rcases List.mem_append.mp member with inside | last
  · rcases List.mem_append.mp inside with early | char
    · simpa using first c early
    · exact Or.inr (isKey.chars c char)
  · exact Or.inl (List.mem_singleton.mp last)

/-- A character that no placeholder holds. -/
structure Parting (c : Char) : Prop where
  unmarked : c ≠ '#'
  foreign : isKeyChar c = false

variable {mark : Char} (parting : Parting mark)

include parting

/-- Whether a placeholder starts a text does not depend on what comes after a parting character. -/
theorem keyAt_parted (front back : List Char) : keyAt? (front ++ mark :: back) = keyAt? front := by
  refine Option.ext fun key => ⟨fun found => ?_, fun found => keyAt_append _ _ _ found⟩
  obtain ⟨isKey, rest, same⟩ := (keyAt_iff _ _).mp found
  have absent : mark ∉ opening ++ key ++ ['#'] := by
    intro inside
    rcases text_chars isKey mark inside with marked | char
    · exact parting.unmarked marked
    · rw [parting.foreign] at char
      cases char
  have whole : front ++ mark :: back = (opening ++ key ++ ['#']) ++ rest := by
    rw [same, List.append_assoc _ ['#'], List.singleton_append]
  refine (keyAt_iff _ _).mpr ⟨isKey, ?_⟩
  rcases List.append_eq_append_iff.mp whole with ⟨more, longer, later⟩ | ⟨more, longer, _⟩
  · cases more with
    | nil => exact ⟨[], by simpa using longer.symm⟩
    | cons c more =>
      obtain ⟨rfl, _⟩ := List.cons.inj later
      exact absurd (longer ▸ by simp) absent
  · exact ⟨more, by simpa using longer⟩

/-- Segments that are read as they are stay so with a parting character between them. -/
theorem Canonical.parted {front back : List Segment} (early : Canonical front)
    (late : Canonical back) : Canonical (front ++ .literal mark :: back) := by
  induction early with
  | nil => exact .literal (keyAt_unmarked _ _ parting.unmarked) late
  | @literal c rest absent _ inductionHypothesis =>
    refine .literal ?_ inductionHypothesis
    change keyAt? (c :: (rest ++ .literal mark :: back).flatMap text) = none
    rw [List.flatMap_append, ← absent]
    exact keyAt_parted parting (c :: rest.flatMap text) (back.flatMap text)
  | placeholder isKey _ inductionHypothesis => exact .placeholder isKey inductionHypothesis

/-- A parting character is read as itself, and the texts before and after it are read alone. -/
theorem scan_parted (front back : List Char) :
    scan (front ++ mark :: back) = scan front ++ .literal mark :: scan back := by
  obtain ⟨early, first⟩ := scan_canonical front
  obtain ⟨late, second⟩ := scan_canonical back
  have written : (scan front ++ .literal mark :: scan back).flatMap text =
      front ++ mark :: back := by
    rw [List.flatMap_append, List.flatMap_cons, first, second]
    rfl
  rw [← written, (early.parted parting late).scan_eq]

omit parting in
/-- A separator is read character by character, and the texts before and after it are read alone. -/
theorem scan_separated {separator : List Char} (filled : separator ≠ [])
    (apart : ∀ c ∈ separator, Parting c) (front back : List Char) :
    scan (front ++ separator ++ back) = scan front ++ separator.map .literal ++ scan back := by
  have leading : ∀ marks : List Char, (∀ c ∈ marks, Parting c) →
      scan (marks ++ back) = marks.map .literal ++ scan back := by
    intro marks
    induction marks with
    | nil => exact fun _ => rfl
    | cons c rest inductionHypothesis =>
      intro all
      have here := scan_parted (all c List.mem_cons_self) [] (rest ++ back)
      rw [List.nil_append] at here
      rw [List.cons_append, here, inductionHypothesis fun d member =>
        all d (List.mem_cons_of_mem c member)]
      rfl
  obtain ⟨c, rest, rfl⟩ := List.exists_cons_of_ne_nil filled
  rw [List.append_assoc, List.cons_append, scan_parted (apart c List.mem_cons_self), leading rest
    fun d member => apart d (List.mem_cons_of_mem c member)]
  simp

end Segment

namespace Localizer

variable (l : Localizer)

/-- How a text is localized, read from the left to the right: the text that is given, and the keys
that are unknown, in order. Where a placeholder starts, it is taken as a whole; the value of its key
is put in and not looked at again, and if there is none, the placeholder stays. Other characters are
copied. -/
inductive Replaced : List Char → List Char → List String → Prop
  | nil : Replaced [] [] []
  | known {key value : String} {rest out : List Char} {keys : List String} :
      Segment.IsKey key.toList → l.value? key = some value → Replaced rest out keys →
      Replaced ("#lang#".toList ++ key.toList ++ '#' :: rest) (value.toList ++ out) keys
  | unknown {key : String} {rest out : List Char} {keys : List String} :
      Segment.IsKey key.toList → l.value? key = none → Replaced rest out keys →
      Replaced ("#lang#".toList ++ key.toList ++ '#' :: rest)
        ("#lang#".toList ++ key.toList ++ '#' :: out) (key :: keys)
  | copied {c : Char} {rest out : List Char} {keys : List String} :
      (∀ key more, Segment.IsKey key → c :: rest ≠ "#lang#".toList ++ key ++ '#' :: more) →
      Replaced rest out keys → Replaced (c :: rest) (c :: out) keys

/-- Segments that are read as they are are localized one by one. -/
theorem canonical_replaced {segments : List Segment} (canonical : Segment.Canonical segments) :
    l.Replaced (segments.flatMap Segment.text) (segments.flatMap l.resolve)
      (segments.filterMap l.missingKey?) := by
  induction canonical with
  | nil => exact .nil
  | @literal c rest absent _ inductionHypothesis =>
    refine .copied (fun key more isKey same => ?_) inductionHypothesis
    have found : Segment.keyAt? (c :: rest.flatMap Segment.text) = some key :=
      (Segment.keyAt_iff _ key).mpr ⟨isKey, more, same⟩
    rw [absent] at found
    cases found
  | @placeholder key rest isKey _ inductionHypothesis =>
    cases found : l.value? key with
    | some value =>
      have step := Replaced.known isKey found inductionHypothesis
      simpa [resolve, missingKey?, found, Segment.text, Segment.opening] using step
    | none =>
      have step := Replaced.unknown isKey found inductionHypothesis
      simpa [resolve, missingKey?, found, Segment.text, Segment.opening] using step

/-- What is read from a text is localized in one way, which is the one of the scanner. -/
theorem replaced_iff (s out : List Char) (keys : List String) :
    l.Replaced s out keys ↔ out = l.apply s ∧ keys = l.missing s := by
  constructor
  · intro replaced
    induction replaced with
    | nil => exact ⟨rfl, rfl⟩
    | @known key value rest out keys isKey found _ inductionHypothesis =>
      obtain ⟨rfl, rfl⟩ := inductionHypothesis
      have scanned := Segment.scan_placeholder isKey rest
      rw [String.ofList_toList] at scanned
      constructor
      · rw [apply, apply, ← Segment.opening, scanned, List.flatMap_cons, resolve, found]
      · rw [missing, missing, ← Segment.opening, scanned, List.filterMap_cons, missingKey?, found]
        rfl
    | @unknown key rest out keys isKey absent _ inductionHypothesis =>
      obtain ⟨rfl, rfl⟩ := inductionHypothesis
      have scanned := Segment.scan_placeholder isKey rest
      rw [String.ofList_toList] at scanned
      constructor
      · rw [apply, apply, ← Segment.opening, scanned, List.flatMap_cons, resolve, absent]
        simp [Segment.text]
      · rw [missing, missing, ← Segment.opening, scanned, List.filterMap_cons, missingKey?, absent]
        rfl
    | @copied c rest out keys none _ inductionHypothesis =>
      obtain ⟨rfl, rfl⟩ := inductionHypothesis
      have absent : Segment.keyAt? (c :: rest) = Option.none := by
        refine Option.eq_none_iff_forall_not_mem.mpr fun key found => ?_
        obtain ⟨isKey, more, same⟩ := (Segment.keyAt_iff _ _).mp found
        exact none key more isKey same
      constructor
      · rw [apply, apply, Segment.scan_literal absent]
        rfl
      · rw [missing, missing, Segment.scan_literal absent]
        rfl
  · rintro ⟨rfl, rfl⟩
    obtain ⟨canonical, written⟩ := Segment.scan_canonical s
    have replaced := l.canonical_replaced canonical
    rw [written] at replaced
    exact replaced

section Joined

variable {separator : List Char} (filled : separator ≠ [])
  (apart : ∀ c ∈ separator, Segment.Parting c)

include filled apart

/-- The texts on the two sides of a separator are localized alone. -/
theorem apply_separated (front back : List Char) :
    l.apply (front ++ separator ++ back) = l.apply front ++ separator ++ l.apply back := by
  have kept : (separator.map Segment.literal).flatMap l.resolve = separator := by
    simp [List.flatMap_map, resolve]
  rw [apply, Segment.scan_separated filled apart, List.flatMap_append, List.flatMap_append, kept]
  rfl

/-- The keys that joined texts lack are those of the one and then those of the other. -/
theorem missing_separated (front back : List Char) :
    l.missing (front ++ separator ++ back) = l.missing front ++ l.missing back := by
  have silent : (separator.map Segment.literal).filterMap l.missingKey? = [] := by
    simp [List.filterMap_map, missingKey?, Function.comp_def]
  rw [missing, Segment.scan_separated filled apart, List.filterMap_append, List.filterMap_append,
    silent, List.append_nil]
  rfl

/-- Joined texts are localized as if each of them stood alone. -/
theorem apply_joined (chunks : List (List Char)) :
    l.apply (separator.intercalate chunks) = separator.intercalate (chunks.map l.apply) := by
  induction chunks with
  | nil => rfl
  | cons first rest inductionHypothesis =>
    cases rest with
    | nil => simp
    | cons second others =>
      rw [List.intercalate_cons_cons, l.apply_separated filled apart, inductionHypothesis]
      simp

/-- Joined texts lack the keys that each of them lacks, in order. -/
theorem missing_joined (chunks : List (List Char)) :
    l.missing (separator.intercalate chunks) = chunks.flatMap l.missing := by
  induction chunks with
  | nil => rfl
  | cons first rest inductionHypothesis =>
    cases rest with
    | nil => simp
    | cons second others =>
      rw [List.intercalate_cons_cons, l.missing_separated filled apart, inductionHypothesis]
      rfl

end Joined

end Localizer

namespace Bundle

variable (l : Localizer)

/-- The sources of a bundle are localized as if each of them stood alone, and lack the keys that each
of them lacks, if the separator parts them. -/
theorem localized_intercalate {separator : String} (filled : separator.toList ≠ [])
    (apart : ∀ c ∈ separator.toList, Segment.Parting c) (chunks : List String) :
    localized l (separator.intercalate chunks) =
        separator.intercalate (chunks.map (localized l)) ∧
      l.missing (separator.intercalate chunks).toList =
        chunks.flatMap fun chunk => l.missing chunk.toList := by
  constructor
  · rw [localized, String.toList_intercalate, l.apply_joined filled apart, ← String.toList_inj,
      String.toList_ofList, String.toList_intercalate, List.map_map, List.map_map]
    simp [localized, Function.comp_def]
  · rw [String.toList_intercalate, l.missing_joined filled apart, List.flatMap_map]

/-- The style bundle is localized as if each of its sources stood alone. -/
theorem styles_localized (p : Parts) :
    localized l p.joinedStyles = "\n".intercalate (p.styles.map (localized l)) ∧
      l.missing p.joinedStyles.toList = p.styles.flatMap fun chunk => l.missing chunk.toList := by
  refine localized_intercalate l (by decide) ?_ p.styles
  intro c member
  obtain rfl : c = '\n' := by simpa using member
  exact ⟨by decide, by decide⟩

/-- The script bundle is localized as if each of its sources stood alone. -/
theorem scripts_localized (p : Parts) :
    localized l p.joinedScripts = ";\n".intercalate (p.scripts.map (localized l)) ∧
      l.missing p.joinedScripts.toList = p.scripts.flatMap fun chunk => l.missing chunk.toList := by
  refine localized_intercalate l (by decide) ?_ p.scripts
  intro c member
  obtain rfl | rfl : c = ';' ∨ c = '\n' := by simpa using member
  · exact ⟨by decide, by decide⟩
  · exact ⟨by decide, by decide⟩

/-- Localization is local. A bundle is localized as if each of its sources stood alone, and it lacks
the keys that each of them lacks, in order, whether it is one of styles or one of scripts. In a single
text the leftmost placeholders that do not overlap are replaced, and nothing else is.

Proof: the separators are made of line ends and semicolons, which no placeholder holds. -/
theorem localized_joined (p : Parts) :
    (localized l p.joinedStyles = "\n".intercalate (p.styles.map (localized l)) ∧
      l.missing p.joinedStyles.toList = p.styles.flatMap fun chunk => l.missing chunk.toList) ∧
    (localized l p.joinedScripts = ";\n".intercalate (p.scripts.map (localized l)) ∧
      l.missing p.joinedScripts.toList = p.scripts.flatMap fun chunk => l.missing chunk.toList) ∧
    ∀ text out keys, l.Replaced text out keys ↔ out = l.apply text ∧ keys = l.missing text :=
  ⟨styles_localized l p, scripts_localized l p, l.replaced_iff⟩

/-- Two openings in a row, and two keys with one number sign between them, in two sources. -/
example :
    let l : Localizer := ⟨some [("a", "#lang#")]⟩
    localized l ("\n".intercalate ["#lang#lang#", "#lang#a#lang#a#"]) =
      "#lang#lang#\n#lang#lang#a#" := by
  decide +kernel

end Bundle

end Pagefold
