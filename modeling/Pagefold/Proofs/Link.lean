import Mathlib
import Pagefold.Link
import Pagefold.Proofs.Localization
import Pagefold.Proofs.Text.Cut

/-!
# Reading a link

A link is read without the blanks around it, and its fragment starts at its first number sign. So
its number signs are those of its fragment with the one in front of it, and none is lost when blanks
are taken off or collapsed. Whether a link leads into the source tree is told by its characters up
to the first slash, and by whether there are a query or two slashes in a row.
-/
namespace Pagefold

namespace Text

/-- The number signs of a text are not at its ends, where only blanks are taken off. -/
theorem count_dropWhile (s : List Char) : (s.dropWhile isBlank).count '#' = s.count '#' := by
  have none : (s.takeWhile isBlank).count '#' = 0 := by
    refine List.count_eq_zero.mpr fun member => ?_
    exact absurd (List.mem_takeWhile_imp member) (by decide)
  calc (s.dropWhile isBlank).count '#'
      = (s.takeWhile isBlank).count '#' + (s.dropWhile isBlank).count '#' := by rw [none, Nat.zero_add]
    _ = s.count '#' := by rw [← List.count_append, List.takeWhile_append_dropWhile]

theorem count_trim (s : List Char) : (trim s).count '#' = s.count '#' := by
  rw [trim, List.count_reverse, count_dropWhile, List.count_reverse, count_dropWhile]

theorem count_collapse (inRun : Bool) (s : List Char) :
    (collapseFrom inRun s).count '#' = s.count '#' := by
  induction s generalizing inRun with
  | nil => rfl
  | cons c rest inductionHypothesis =>
    simp only [collapseFrom]
    split
    · next blank =>
      have apart : c ≠ '#' := by
        rintro rfl
        revert blank
        decide
      split <;> simp [inductionHypothesis, apart]
    · simp [List.count_cons, inductionHypothesis]

/-- What is taken off the end of a text are blanks. -/
theorem trim_ending (s : List Char) :
    ∃ blanks, s.dropWhile isBlank = trim s ++ blanks ∧ ∀ c ∈ blanks, isBlank c = true := by
  refine ⟨((s.dropWhile isBlank).reverse.takeWhile isBlank).reverse, ?_, ?_⟩
  · rw [trim, ← List.reverse_append, List.takeWhile_append_dropWhile, List.reverse_reverse]
  · intro c member
    exact List.mem_takeWhile_imp (List.mem_reverse.mp member)

/-- A trimmed text is a part of the text. -/
theorem trim_infix (s : List Char) : trim s <:+: s := by
  obtain ⟨blanks, ending, _⟩ := trim_ending s
  have start : trim s <+: s.dropWhile isBlank := ending ▸ List.prefix_append _ _
  exact start.isInfix.trans (List.dropWhile_suffix _).isInfix

/-- Nothing but blanks is lost when a text is trimmed. -/
theorem mem_trim (s : List Char) (c : Char) (seen : isBlank c = false) : c ∈ trim s ↔ c ∈ s := by
  obtain ⟨blanks, ending, blank⟩ := trim_ending s
  have start : c ∉ s.takeWhile isBlank := by
    intro member
    rw [List.mem_takeWhile_imp member] at seen
    cases seen
  have finish : c ∉ blanks := by
    intro member
    rw [blank c member] at seen
    cases seen
  have split : c ∈ s ↔ c ∈ s.takeWhile isBlank ++ (trim s ++ blanks) := by
    rw [← ending, List.takeWhile_append_dropWhile]
  rw [split]
  simp [start, finish]

/-- A text without blanks at its ends has none to take off. -/
theorem trim_trim (s : List Char) : trim (trim s) = trim s := by
  have start : (trim s).dropWhile isBlank = trim s := by
    rw [List.dropWhile_eq_self_iff]
    intro nonempty
    have initial : trim s <+: s.dropWhile isBlank := by
      rw [trim, ← List.reverse_reverse (s.dropWhile isBlank), List.reverse_prefix,
        List.reverse_reverse]
      exact List.dropWhile_suffix _
    have longer := Nat.lt_of_lt_of_le nonempty initial.length_le
    rw [initial.getElem nonempty]
    exact List.dropWhile_get_zero_not isBlank s longer
  rw [trim, start]
  simp [trim, List.dropWhile_idempotent]

end Text

namespace Link

theorem trimmed_trimmed (link : String) : trimmed (trimmed link) = trimmed link := by
  simp [trimmed, Text.trim_trim]

theorem isLocal_trimmed (link : String) : isLocal (trimmed link) = isLocal link := by
  simp [isLocal, trimmed_trimmed]

/-- The number signs of a link are those of its fragment and the one in front of it. -/
theorem count_fragment (link : String) :
    (((splitFragment link).2.map ("#" ++ ·)).getD "").toList.count '#' = link.toList.count '#' := by
  unfold splitFragment
  split
  · next path fragment found =>
    obtain ⟨c, split, marked, clear⟩ := Text.cut_split _ _ _ _ found
    have mark : c = '#' := by simpa using marked
    have none : path.count '#' = 0 := by
      refine List.count_eq_zero.mpr fun member => ?_
      simpa using clear '#' member
    rw [split, mark]
    simp [none]
  · next absent =>
    have none : link.toList.count '#' = 0 := by
      refine List.count_eq_zero.mpr fun member => ?_
      simpa using Text.cut_none _ _ absent '#' member
    simp [none]

/-- The path of a link has no number sign. -/
theorem splitFragment_clear (link : String) : '#' ∉ (splitFragment link).1.toList := by
  intro member
  unfold splitFragment at member
  split at member
  · next path fragment found =>
    obtain ⟨_, _, _, clear⟩ := Text.cut_split _ _ _ _ found
    rw [String.toList_ofList] at member
    simpa using clear '#' member
  · next absent =>
    simpa using Text.cut_none _ _ absent '#' member

/-- A fragment that is written after a path without a number sign is the fragment of the link. -/
theorem splitFragment_joined {path : String} (clear : '#' ∉ path.toList) (fragment : Option String) :
    splitFragment (path ++ (fragment.map ("#" ++ ·)).getD "") = (path, fragment) := by
  have each : ∀ d ∈ path.toList, (d == '#') = false := by
    intro d member
    rw [beq_eq_false_iff_ne]
    rintro rfl
    exact clear member
  cases fragment with
  | none =>
    have whole : Text.cut (· == '#') path.toList = none := by
      cases found : Text.cut (· == '#') path.toList with
      | none => rfl
      | some sides =>
        obtain ⟨c, split, marked, _⟩ := Text.cut_split _ _ _ _ found
        rw [each c (split ▸ List.mem_append_right _ List.mem_cons_self)] at marked
        cases marked
    simp [splitFragment, whole]
  | some text =>
    have letters : (path ++ ("#" ++ text)).toList = path.toList ++ '#' :: text.toList := by simp
    have found := Text.cut_unmarked text.toList each (beq_self_eq_true '#')
    simp [splitFragment, letters, found]

/-- A character that ends a scheme, if there is one, without being its colon. -/
def IsStop (c : Char) : Prop :=
  c.isAlphanum = false ∧ c ≠ '+' ∧ c ≠ '.' ∧ c ≠ '-' ∧ c ≠ ':'

theorem stop_slash : IsStop '/' := ⟨by decide, by decide, by decide, by decide, by decide⟩

/-- A blank ends a scheme. -/
theorem stop_of_blank (c : Char) (blank : Text.isBlank c = true) : IsStop c := by
  have range := Segment.isBlank_range c blank
  have letter : Segment.isKeyChar c = false := by
    by_contra valid
    rw [Segment.not_blank_of_isKeyChar c (by simpa using valid)] at blank
    cases blank
  simp only [Segment.isKeyChar, Bool.or_eq_false_iff, beq_eq_false_iff_ne] at letter
  obtain ⟨⟨⟨letter, _⟩, dot⟩, hyphen⟩ := letter
  refine ⟨letter, ?_, dot, hyphen, ?_⟩
  all_goals
    rintro rfl
    revert range
    decide

/-- Whether a link has a scheme does not depend on what follows the first character that ends it. -/
theorem hasScheme_append (first rest : List Char) (c : Char) (stop : IsStop c) :
    hasScheme (String.ofList (first ++ c :: rest)) = hasScheme (String.ofList first) := by
  obtain ⟨letter, plus, dot, hyphen, colon⟩ := stop
  simp only [hasScheme, String.toList_ofList]
  cases first with
  | nil =>
    have small : c.isAlpha = false := by
      simp only [Char.isAlphanum, Bool.or_eq_false_iff] at letter
      exact letter.1
    simp [small]
  | cons d others =>
    simp only [List.cons_append]
    congr 1
    rw [List.dropWhile_append]
    split
    · next none =>
      simp only [List.isEmpty_iff] at none
      simp [none, letter, plus, dot, hyphen, colon]
    · next some =>
      rw [List.head?_append_of_ne_nil]
      simpa using some

/-- The part of a link that tells whether it has a scheme or is a fragment: what comes before its
first slash, without the blanks at the start. -/
def lead (link : String) : String :=
  String.ofList ((link.toList.takeWhile (· ≠ '/')).dropWhile Text.isBlank)

/-- The lead of a link, and what follows it unless there is nothing but blanks. -/
theorem lead_split (link : String) :
    (link.toList.dropWhile Text.isBlank) = (lead link).toList ∨
      ∃ rest, link.toList.dropWhile Text.isBlank = (lead link).toList ++ '/' :: rest := by
  have parts := List.takeWhile_append_dropWhile (p := (· ≠ '/')) (l := link.toList)
  cases after : link.toList.dropWhile (· ≠ '/') with
  | nil =>
    rw [after, List.append_nil] at parts
    rw [lead, parts, String.toList_ofList]
    exact Or.inl rfl
  | cons c rest =>
    have slash : c = '/' := by
      have stopped := List.head?_dropWhile_not (· ≠ '/') link.toList
      rw [after] at stopped
      simpa using stopped
    refine Or.inr ⟨rest, ?_⟩
    rw [lead, String.toList_ofList]
    conv_lhs => rw [← parts, after, slash, List.dropWhile_append]
    split
    · next none =>
      rw [List.isEmpty_iff.mp none]
      rfl
    · rfl

/-- The lead of a link is a part of it. -/
theorem lead_letters (link : String) : (lead link).toList ⊆ link.toList := by
  rw [lead, String.toList_ofList]
  exact List.Subset.trans (List.dropWhile_sublist _).subset (List.takeWhile_sublist _).subset

/-- A scheme ends with a colon. -/
theorem colon_of_scheme (link : String) (scheme : hasScheme link = true) : ':' ∈ link.toList := by
  unfold hasScheme at scheme
  split at scheme
  · next first rest letters =>
    simp only [Bool.and_eq_true, beq_iff_eq] at scheme
    rw [letters]
    exact List.mem_cons_of_mem _
      ((List.dropWhile_sublist _).subset (List.mem_of_head? scheme.2))
  · cases scheme

/-- A link without two slashes in a row names no host. -/
theorem namesHost_none (s : List Char) (single : ¬ ['/', '/'] <:+: s) : namesHost s = false := by
  unfold namesHost
  split
  · next rest => exact absurd (List.prefix_append ['/', '/'] rest).isInfix single
  · split
    · next rest _ after =>
      have inside : ['/', '/'] <:+: s.dropWhile isFoldedLetter := by
        rw [after]
        exact (List.infix_append [':'] ['/', '/'] rest)
      exact absurd (inside.trans (List.dropWhile_suffix _).isInfix) single
    · rfl

/-- A link leads into the source tree if it is not blank, has no query and names no host, and its
lead is neither a fragment nor a scheme. -/
theorem isLocal_iff (link : String) :
    isLocal link = true ↔ trimmed link ≠ "" ∧ '?' ∉ link.toList ∧
      namesHost (trimmed link).toList = false ∧ (lead link).toList.head? ≠ some '#' ∧
        hasScheme (lead link) = false := by
  by_cases filled : trimmed link = ""
  · simp [isLocal, filled]
  · have letters : Text.trim link.toList ≠ [] := by simpa [trimmed] using filled
    obtain ⟨blanks, ending, blank⟩ := Text.trim_ending link.toList
    have scheme : hasScheme (trimmed link) =
        hasScheme (String.ofList (link.toList.dropWhile Text.isBlank)) := by
      rw [ending, trimmed]
      cases blanks with
      | nil => rw [List.append_nil]
      | cons c rest =>
        exact (hasScheme_append _ rest c (stop_of_blank c (blank c List.mem_cons_self))).symm
    have start : (trimmed link).toList.head? = (link.toList.dropWhile Text.isBlank).head? := by
      rw [ending, trimmed, String.toList_ofList, List.head?_append_of_ne_nil _ letters]
    have query : (trimmed link).toList.any (· == '?') = link.toList.any (· == '?') := by
      rw [Bool.eq_iff_iff]
      simp [trimmed, Text.mem_trim link.toList '?' (by decide)]
    have leads : hasScheme (trimmed link) = hasScheme (lead link) ∧
        ((trimmed link).toList.head? = some '#' ↔ (lead link).toList.head? = some '#') := by
      rw [scheme, start]
      rcases lead_split link with whole | ⟨rest, split⟩
      · rw [whole, String.ofList_toList]
        exact ⟨rfl, Iff.rfl⟩
      · rw [split, hasScheme_append _ rest '/' stop_slash, String.ofList_toList]
        refine ⟨rfl, ?_⟩
        cases (lead link).toList <;> simp
    have asked : link.toList.any (· == '?') = false ↔ '?' ∉ link.toList := by
      rw [List.any_eq_false]
      refine ⟨fun none member => none '?' member rfl, ?_⟩
      intro none c member same
      exact none (beq_iff_eq.mp same ▸ member)
    rw [isLocal, isExternal, query, leads.1]
    simp only [Bool.and_eq_true, decide_eq_true_eq, Bool.not_eq_true', Bool.or_eq_false_iff, ne_eq,
      leads.2, asked]
    constructor
    · rintro ⟨⟨⟨some, start⟩, query, host⟩, scheme⟩
      exact ⟨some, query, host, start, scheme⟩
    · rintro ⟨some, query, host, start, scheme⟩
      exact ⟨⟨⟨some, start⟩, query, host⟩, scheme⟩

end Link

end Pagefold
