import Mathlib
import Pagefold.Proofs.Html.RawText
import Pagefold.Proofs.Text.Cut

/-!
# What a token takes of the text

However the text ahead is read, the reader takes some of it and leaves the rest as it is. A tag is
taken from its `<` to its `>`, and no other token opens or closes an element.
-/
namespace Pagefold.Html

/-- Whether a token is a tag. -/
def Token.isTag : Token → Bool
  | startTag _ | endTag _ => true
  | _ => false

namespace Lexer

variable {s rest : List Char}

/-! ## Readers leave a part of the text -/

theorem upTo_suffix (stop : List Char → Bool) (s : List Char) : (upTo stop s).2 <:+ s :=
  ⟨_, upTo_joined stop s⟩

theorem scriptText_suffix (state : ScriptState) (s : List Char) :
    (scriptText state s).2 <:+ s :=
  ⟨_, scriptText_joined state s⟩

/-- A comment is taken up to its end. In each state it ends here or goes on after one character. -/
theorem comment_suffix (state : CommentState) (s : List Char) : (comment state s).2 <:+ s := by
  fun_induction comment state s
  case case1 => exact List.suffix_refl _
  all_goals
    first
    | exact List.suffix_cons _ _
    | next inductionHypothesis => exact inductionHypothesis.trans (List.suffix_cons _ _)
    | next read inductionHypothesis =>
      rw [read] at inductionHypothesis
      exact inductionHypothesis.trans (List.suffix_cons _ _)

/-- What follows a mark is a part of the text. -/
theorem cut_suffix {mark : Char → Bool} {parts : List Char × List Char}
    (found : Text.cut mark s = some parts) : parts.2 <:+ s := by
  obtain ⟨c, split, _⟩ := Text.cut_split mark s parts.1 parts.2 found
  rw [split]
  exact (List.suffix_cons c parts.2).trans (List.suffix_append _ _)

theorem upToClose_suffix (s : List Char) : (upToClose s).2 <:+ s := by
  unfold upToClose
  split
  · next found => exact cut_suffix found
  · exact List.nil_suffix

theorem bogusComment_suffix (s : List Char) : (bogusComment s).2 <:+ s := upToClose_suffix s

theorem attributeValue_suffix {parts : List Char × List Char}
    (found : attributeValue? s = some parts) : parts.2 <:+ s := by
  have blanks := List.dropWhile_suffix Text.isAsciiBlank (l := s)
  unfold attributeValue? at found
  split at found
  · cases found
  · next r opened =>
    rw [opened] at blanks
    exact (cut_suffix found).trans ((List.suffix_cons _ r).trans blanks)
  · next r opened =>
    rw [opened] at blanks
    exact (cut_suffix found).trans ((List.suffix_cons _ r).trans blanks)
  · obtain rfl := Option.some.inj found
    exact (List.dropWhile_suffix _).trans blanks

theorem attribute_suffix {a : Attribute} (found : attribute? s = some (a, rest)) : rest <:+ s := by
  cases s with
  | nil => cases found
  | cons c r =>
    have named : (r.dropWhile (!endsAttributeName ·)).dropWhile Text.isAsciiBlank <:+ c :: r :=
      (List.dropWhile_suffix _).trans ((List.dropWhile_suffix _).trans (List.suffix_cons c r))
    unfold attribute? at found
    dsimp only at found
    split at found
    · next r' equals =>
      rw [equals] at named
      obtain ⟨parts, value, same⟩ := Option.map_eq_some_iff.mp found
      obtain ⟨_, rfl⟩ := Prod.mk.inj same
      exact (attributeValue_suffix value).trans ((List.suffix_cons _ r').trans named)
    · obtain ⟨_, rfl⟩ := Prod.mk.inj (Option.some.inj found)
      exact named

/-- The attributes of a tag are taken up to its `>`. -/
theorem attributes_suffix {fuel : Nat} {found : List Attribute} {s : List Char}
    {result : List Attribute × Bool × List Char} (read : attributes? fuel found s = some result) :
    '>' :: result.2.2 <:+ s := by
  induction fuel generalizing found s with
  | zero => cases read
  | succ fuel inductionHypothesis =>
    have blanks := List.dropWhile_suffix Text.isAsciiBlank (l := s)
    unfold attributes? at read
    split at read
    · cases read
    · next r opened =>
      rw [opened] at blanks
      obtain rfl := Option.some.inj read
      exact blanks
    · next r opened =>
      rw [opened] at blanks
      obtain rfl := Option.some.inj read
      exact (List.suffix_cons _ _).trans blanks
    · next r _ opened =>
      rw [opened] at blanks
      exact (inductionHypothesis read).trans ((List.suffix_cons _ r).trans blanks)
    · split at read
      · cases read
      · next a rest given =>
        exact (inductionHypothesis read).trans ((attribute_suffix given).trans blanks)

/-- A tag is taken up to its `>`. -/
theorem tag_suffix {tag : Tag} (found : tag? s = some (tag, rest)) : '>' :: rest <:+ s := by
  obtain ⟨result, read, same⟩ := Option.map_eq_some_iff.mp found
  obtain ⟨_, rfl⟩ := Prod.mk.inj same
  exact (attributes_suffix read).trans (List.dropWhile_suffix _)

theorem doctypeEnd_suffix (d : Doctype) (s : List Char) : (doctypeEnd d s).2 <:+ s := by
  unfold doctypeEnd
  split
  · next found => exact cut_suffix found
  · exact List.nil_suffix

theorem identifier_suffix {content : List Char} {closed : Bool}
    (found : identifier? s = some (content, closed, rest)) : rest <:+ s := by
  unfold identifier? at found
  dsimp only at found
  split at found
  case h_3 => cases found
  all_goals
    next r =>
      split at found
      · next c rest opened =>
        have left : c :: rest <:+ r := by
          rw [← opened]
          exact List.dropWhile_suffix _
        obtain ⟨_, found⟩ := Prod.mk.inj (Option.some.inj found)
        obtain ⟨_, rfl⟩ := Prod.mk.inj found
        split
        · exact (List.suffix_cons c rest).trans (left.trans (List.suffix_cons _ r))
        · exact left.trans (List.suffix_cons _ r)
      · obtain ⟨_, found⟩ := Prod.mk.inj (Option.some.inj found)
        obtain ⟨_, rfl⟩ := Prod.mk.inj found
        exact List.nil_suffix

theorem doctypeSystem_suffix (d : Doctype) (required : Bool) (s : List Char) :
    (doctypeSystem d required s).2 <:+ s := by
  have blanks := List.dropWhile_suffix Text.isAsciiBlank (l := s)
  unfold doctypeSystem
  dsimp only
  split
  · next found =>
    exact (doctypeEnd_suffix _ _).trans ((identifier_suffix found).trans blanks)
  · exact (doctypeEnd_suffix _ _).trans blanks

theorem doctype_suffix (s : List Char) : (doctype s).2 <:+ s := by
  have blanks := List.dropWhile_suffix Text.isAsciiBlank (l := s)
  unfold doctype
  dsimp only
  split
  · exact (doctypeEnd_suffix _ _).trans blanks
  · have named := (List.dropWhile_suffix Text.isAsciiBlank).trans
      ((List.dropWhile_suffix fun c => !(Text.isAsciiBlank c || c == '>')).trans blanks)
    have dropped := fun r : List Char => List.drop_suffix 6 r
    split
    · exact (doctypeEnd_suffix _ _).trans named
    · split
      · have identified := (List.dropWhile_suffix Text.isAsciiBlank).trans
          ((dropped _).trans named)
        split
        · next found =>
          exact (doctypeSystem_suffix _ _ _).trans ((identifier_suffix found).trans identified)
        · next found =>
          exact (doctypeEnd_suffix _ _).trans ((identifier_suffix found).trans identified)
        · exact (doctypeEnd_suffix _ _).trans identified
      · split
        · exact (doctypeSystem_suffix _ _ _).trans ((dropped _).trans named)
        · exact (doctypeEnd_suffix _ _).trans named

/-! ## What one step takes -/

/-- The tokens of text are no tags. -/
theorem textTokens_untagged (s : List Char) : ∀ token ∈ textTokens s, token.isTag = false := by
  intro token member
  obtain ⟨⟨blank, run⟩, _, rfl⟩ := List.mem_map.mp member
  dsimp only
  split
  · rfl
  · split <;> rfl

/-- One step of a reader takes some of the text. If there is a tag among the tokens, it takes the
text from a `<` to a `>`. -/
structure Takes (s : List Char) (result : List Token × List Char) : Prop where
  rest : result.2 <:+ s
  some : result.2.length < s.length
  tag : (∃ token ∈ result.1, token.isTag = true) → ∃ inner, s = '<' :: (inner ++ '>' :: result.2)

/-- What is taken of a text that is not empty, if no tag is. -/
theorem Takes.untagged {s : List Char} {result : List Token × List Char} {c : Char}
    (rest : result.2 <:+ s) (none : ∀ token ∈ result.1, token.isTag = false) :
    Takes (c :: s) result where
  rest := rest.trans (List.suffix_cons c s)
  some := Nat.lt_succ_of_le rest.length_le
  tag := by
    rintro ⟨token, member, tag⟩
    rw [none token member] at tag
    cases tag

/-- A tag is taken from its `<` to its `>`. -/
theorem Takes.tagged (opening : List Char) {s rest : List Char} {tokens : List Token}
    (closed : '>' :: rest <:+ s) : Takes ('<' :: (opening ++ s)) (tokens, rest) where
  rest := (List.suffix_cons _ rest).trans (closed.trans (List.suffix_append ('<' :: opening) s))
  some := by
    have shorter := closed.length_le
    simp only [List.length_cons, List.length_append] at shorter ⊢
    omega
  tag := by
    intro _
    obtain ⟨inner, rfl⟩ := closed
    exact ⟨opening ++ inner, by simp⟩

theorem endTagToken_takes (opening s : List Char) :
    Takes ('<' :: (opening ++ s)) (endTagToken s) := by
  unfold endTagToken
  split
  · next found => exact Takes.tagged _ (tag_suffix found)
  · exact Takes.untagged List.nil_suffix nofun

theorem declaration_takes (inForeign : Bool) (s : List Char) :
    Takes ('<' :: '!' :: s) (declaration inForeign s) := by
  have later : ∀ {result : List Token × List Char}, result.2 <:+ s →
      (∀ token ∈ result.1, token.isTag = false) → Takes ('<' :: '!' :: s) result :=
    fun rest none => Takes.untagged (rest.trans (List.suffix_cons _ s)) none
  have single : ∀ (token : Token), token.isTag = false → ∀ other ∈ [token], other.isTag = false :=
    fun token untagged other member => by rw [List.mem_singleton.mp member]; exact untagged
  unfold declaration
  split
  · next r =>
    refine later ((comment_suffix _ r).trans ?_) (single _ rfl)
    exact (List.suffix_cons _ r).trans (List.suffix_cons _ _)
  · split
    · exact later ((doctype_suffix _).trans (List.drop_suffix 7 s)) (single _ rfl)
    · split
      · next r after =>
        refine later ?_ (textTokens_untagged _)
        rw [Text.eq_append_of_after? after]
        exact (List.drop_suffix 3 _).trans ((upTo_suffix _ r).trans (List.suffix_append _ r))
      · exact later (bogusComment_suffix s) (single _ rfl)

theorem markup_takes (inForeign : Bool) (s : List Char) :
    Takes ('<' :: s) (markup inForeign s) := by
  have single : ∀ (token : Token), token.isTag = false → ∀ other ∈ [token], other.isTag = false :=
    fun token untagged other member => by rw [List.mem_singleton.mp member]; exact untagged
  unfold markup
  split
  · exact declaration_takes inForeign _
  · next r => exact Takes.untagged (bogusComment_suffix _) (single _ rfl)
  · next r =>
    split
    · exact Takes.untagged List.nil_suffix (single _ rfl)
    · next rest =>
      exact Takes.untagged ((List.suffix_cons _ rest).trans (List.suffix_cons _ _)) (single _ rfl)
    · split
      · exact endTagToken_takes ['/'] _
      · exact Takes.untagged ((bogusComment_suffix _).trans (List.suffix_cons _ _)) (single _ rfl)
  · split
    · split
      · next found => exact Takes.tagged [] (tag_suffix found)
      · exact Takes.untagged List.nil_suffix nofun
    · exact Takes.untagged (List.suffix_refl _) (single _ rfl)
  · exact Takes.untagged List.nil_suffix (single _ rfl)

/-- Every step of a reader takes some of the text, in every way of reading. -/
theorem next_takes (reading : Reading) (inForeign : Bool) {s : List Char} (some : s ≠ []) :
    Takes s (next reading inForeign s) := by
  obtain ⟨c, r, rfl⟩ := List.exists_cons_of_ne_nil some
  have text : ∀ {tokens : List Token} {rest : List Char}, rest <:+ r →
      (∀ token ∈ tokens, token.isTag = false) → Takes (c :: r) (tokens, rest) :=
    fun rest none => Takes.untagged rest none
  have faulty : ∀ (content s : List Char), ∀ token ∈ afterFault content (textTokens s),
      token.isTag = false := by
    intro content s token member
    unfold afterFault at member
    split at member
    · rcases List.mem_cons.mp member with rfl | later
      · rfl
      · exact textTokens_untagged s token later
    · exact textTokens_untagged s token member
  have closing : ∀ name, atEndTag name (c :: r) = true →
      Takes (c :: r) (endTagToken ((c :: r).drop 2)) := by
    intro name closed
    unfold atEndTag at closed
    split at closed
    · next same =>
      obtain ⟨rfl, rfl⟩ := List.cons.inj same
      exact endTagToken_takes ['/'] _
    · cases closed
  have ahead : ∀ stop, ¬ stop (c :: r) = true → (upTo stop (c :: r)).2 <:+ r := by
    intro stop goes_on
    rw [upTo, if_neg goes_on]
    exact upTo_suffix stop r
  unfold next
  cases reading with
  | data =>
    dsimp only
    split
    · next same =>
      obtain ⟨rfl, rfl⟩ := List.cons.inj same
      exact markup_takes inForeign _
    · next apart =>
      have other : c ≠ '<' := by
        rintro rfl
        exact apart _ rfl
      refine text ?_ (faulty _ _)
      rw [List.dropWhile_cons_of_pos (by simpa using other)]
      exact List.dropWhile_suffix _
  | escapable name =>
    dsimp only
    split
    · next closed => exact closing name closed
    · next goes_on => exact text (ahead _ goes_on) (faulty _ _)
  | raw name =>
    dsimp only
    split
    · next closed => exact closing name closed
    · next goes_on => exact text (ahead _ goes_on) (textTokens_untagged _)
  | script =>
    dsimp only
    split
    · next closed => exact closing "script" closed
    · next goes_on =>
      refine text ?_ (textTokens_untagged _)
      rw [scriptText_cons, if_neg fun closed => goes_on closed.1]
      exact scriptText_suffix _ r
  | plain => exact text List.nil_suffix (textTokens_untagged _)

end Lexer

end Pagefold.Html
