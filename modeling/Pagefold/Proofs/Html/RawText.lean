import Pagefold.Html.Token
import Pagefold.Proofs.Text.Cut

/-!
# The content of raw elements

When the reader of a style or a script takes a text as its whole content, if that text is written
between the two tags of the element.
-/
namespace Pagefold.Html.Lexer

open Text

/-! ## What a position sees -/

/-- The text before its next `<`. -/
def ahead (s : List Char) : List Char := s.takeWhile (· != '<')

@[simp]
theorem ahead_nil : ahead [] = [] := rfl

@[simp]
theorem ahead_mark (s : List Char) : ahead ('<' :: s) = [] := rfl

/-- Other characters are seen. -/
theorem ahead_cons (c : Char) (s : List Char) (apart : c ≠ '<') :
    ahead (c :: s) = c :: ahead s := by
  simp [ahead, apart]

/-- What comes after a `<` is not seen from before it. -/
@[simp]
theorem ahead_append (s t : List Char) : ahead (s ++ '<' :: t) = ahead s := by
  induction s with
  | nil => rfl
  | cons c rest inductionHypothesis =>
    by_cases marked : c = '<'
    · subst marked
      rfl
    · rw [List.cons_append, ahead_cons c _ marked, ahead_cons c _ marked, inductionHypothesis]

/-- A word without `<` is seen. -/
theorem prefix_ahead (word s : List Char) (clear : '<' ∉ word) : word <+: ahead s ↔ word <+: s := by
  induction word generalizing s with
  | nil => simp
  | cons c rest inductionHypothesis =>
    obtain ⟨first, later⟩ := not_or.mp (mt List.mem_cons.mpr clear)
    cases s with
    | nil => simp
    | cons d others =>
      by_cases marked : d = '<'
      · subst marked
        simp [List.cons_prefix_cons, Ne.symm first]
      · rw [ahead_cons d others marked, List.cons_prefix_cons, List.cons_prefix_cons,
          inductionHypothesis others later]

/-- A name in any case that is over is a word of the text with a character that ends it. -/
theorem named_iff (name s : List Char) :
    ((s.take name.length).map Char.toLower == name && (s.drop name.length).head?.any endsName) =
        true ↔
      ∃ word c, word ++ [c] <+: s ∧ word.map Char.toLower = name ∧ endsName c = true := by
  rw [Bool.and_eq_true, beq_iff_eq, Option.any_eq_true]
  constructor
  · rintro ⟨named, c, follows, ends⟩
    obtain ⟨rest, later⟩ := List.head?_eq_some_iff.mp follows
    refine ⟨s.take name.length, c, ⟨rest, ?_⟩, named, ends⟩
    rw [List.append_assoc, List.singleton_append, ← later, List.take_append_drop]
  · rintro ⟨word, c, ⟨rest, rfl⟩, rfl, ends⟩
    simp [ends]

/-- A name that is over is seen before the next `<`. -/
theorem named_ahead (name s : List Char) (clear : '<' ∉ name) :
    (((ahead s).take name.length).map Char.toLower == name &&
        ((ahead s).drop name.length).head?.any endsName) =
      ((s.take name.length).map Char.toLower == name &&
        (s.drop name.length).head?.any endsName) := by
  rw [Bool.eq_iff_iff, named_iff, named_iff]
  refine exists₂_congr fun word c => ?_
  refine and_congr_left fun ⟨named, ends⟩ => prefix_ahead _ _ ?_
  intro marked
  rcases List.mem_append.mp marked with inside | last
  · exact clear (named ▸ List.mem_map_of_mem (f := Char.toLower) inside)
  · rw [← List.mem_singleton.mp last] at ends
    exact absurd ends (by decide)

/-- Whether an end tag stands here is seen before the next `<`. -/
theorem atEndTag_ahead (name : String) (c : Char) (s : List Char) (clear : '<' ∉ name.toList) :
    atEndTag name (c :: ahead s) = atEndTag name (c :: s) := by
  by_cases marked : c = '<'
  · subst marked
    match s with
    | [] => rfl
    | d :: rest =>
      by_cases slash : d = '/'
      · subst slash
        rw [ahead_cons _ _ (by decide)]
        exact named_ahead name.toList rest clear
      · by_cases nested : d = '<'
        · subst nested
          rfl
        · rw [ahead_cons d rest nested]
          simp [atEndTag, slash]
  · simp [atEndTag, marked]

/-- A `<` that is written after a text makes no end tag of what the text holds. -/
theorem atEndTag_append (name : String) (c : Char) (s t : List Char) (clear : '<' ∉ name.toList) :
    atEndTag name (c :: (s ++ '<' :: t)) = atEndTag name (c :: s) := by
  rw [← atEndTag_ahead _ _ _ clear, ahead_append, atEndTag_ahead _ _ _ clear]

/-- An end tag starts with a `<`. -/
theorem atEndTag_marked (name : String) (s : List Char) (apart : s.head? ≠ some '<') :
    atEndTag name s = false := by
  unfold atEndTag
  split
  · exact absurd rfl apart
  · rfl

/-- A text opens in no way that starts with another character. -/
theorem opening_marked (a : Char) (opening s : List Char) (apart : s.head? ≠ some a) :
    (after? (a :: opening) s).isSome = false := by
  cases s with
  | nil => rfl
  | cons c rest =>
    have different : a ≠ c := fun same => apart (congrArg some same.symm)
    simp [after?, different]

@[simp]
theorem atEndTag_nil (name : String) : atEndTag name [] = false := rfl

/-- What follows an opening without `<` is seen as far as any text is. -/
theorem after_ahead (opening s : List Char) (clear : '<' ∉ opening) :
    after? opening (ahead s) = (after? opening s).map ahead := by
  induction opening generalizing s with
  | nil => rfl
  | cons a others inductionHypothesis =>
    obtain ⟨first, later⟩ := not_or.mp (mt List.mem_cons.mpr clear)
    cases s with
    | nil => rfl
    | cons c rest =>
      by_cases marked : c = '<'
      · subst marked
        simp [after?, Ne.symm first]
      · rw [ahead_cons c rest marked]
        by_cases same : a = c
        · simp [after?, same, inductionHypothesis rest later]
        · simp [after?, same]

/-- Whether a text opens in a way is seen before the next `<`. -/
theorem opening_ahead (a c : Char) (opening s : List Char) (clear : '<' ∉ opening) :
    (after? (a :: opening) (c :: ahead s)).isSome = (after? (a :: opening) (c :: s)).isSome := by
  by_cases same : a = c
  · simp [after?, same, after_ahead opening s clear]
  · simp [after?, same]

/-- Whether the word `script` stands after an opening is seen before the next `<`. -/
theorem atScriptWord_ahead (a c : Char) (opening s : List Char) (clear : '<' ∉ opening) :
    atScriptWord (a :: opening) (c :: ahead s) = atScriptWord (a :: opening) (c :: s) := by
  by_cases same : a = c
  · simp only [atScriptWord, after?, same, if_true, after_ahead opening s clear]
    cases after? opening s with
    | none => rfl
    | some rest => exact named_ahead "script".toList rest (by decide)
  · simp [atScriptWord, after?, same]

/-- The state of a script after a character is seen before the next `<`. -/
theorem next_ahead (state : ScriptState) (c : Char) (s : List Char) :
    state.next (c :: ahead s) = state.next (c :: s) := by
  cases state with
  | top =>
    have comment := opening_ahead '<' c ['!', '-', '-'] s (by decide)
    simp [ScriptState.next, comment]
  | inComment hyphens =>
    simp [ScriptState.next, atScriptWord_ahead '<' c [] s (by decide)]
  | inNested hyphens =>
    simp [ScriptState.next, atScriptWord_ahead '<' c ['/'] s (by decide)]

/-! ## Where the content ends -/

/-- The characters before the end and those from there are the text. -/
theorem upTo_joined (stop : List Char → Bool) (s : List Char) :
    (upTo stop s).1 ++ (upTo stop s).2 = s := by
  induction s with
  | nil => rfl
  | cons c rest inductionHypothesis =>
    simp only [upTo]
    split
    · rfl
    · simpa using inductionHypothesis

/-- Within a script, whether it is inside a script tag of a comment. -/
def ScriptState.isNested : ScriptState → Bool
  | inNested _ => true
  | _ => false

/-- A script goes on until an end tag that is not inside a script tag of a comment. -/
theorem scriptText_cons (state : ScriptState) (c : Char) (s : List Char) :
    scriptText state (c :: s) =
      if atEndTag "script" (c :: s) = true ∧ state.isNested = false then ([], c :: s)
      else
        (c :: (scriptText (state.next (c :: s)) s).1, (scriptText (state.next (c :: s)) s).2) := by
  cases state <;> simp [scriptText, ScriptState.isNested]

/-- The characters of a script and those from its end tag are the text. -/
theorem scriptText_joined (state : ScriptState) (s : List Char) :
    (scriptText state s).1 ++ (scriptText state s).2 = s := by
  induction s generalizing state with
  | nil => rfl
  | cons c rest inductionHypothesis =>
    rw [scriptText_cons]
    split
    · rfl
    · simpa using inductionHypothesis (state.next (c :: rest))

/-- Raw text is taken up to an end tag exactly when it holds none. -/
theorem upTo_exact (name : String) (s after : List Char) (clear : '<' ∉ name.toList)
    (ends : atEndTag name ('<' :: after) = true) :
    upTo (atEndTag name) (s ++ '<' :: after) = (s, '<' :: after) ↔
      ∀ t, t <:+ s → atEndTag name t = false := by
  induction s with
  | nil => simp [upTo, ends]
  | cons c rest inductionHypothesis =>
    rw [positions_cons, ← inductionHypothesis, List.cons_append, upTo,
      atEndTag_append name c rest after clear]
    cases atEndTag name (c :: rest) <;> simp [Prod.ext_iff]

/-- The state of a script after its first characters; the other characters follow them. -/
def ScriptState.past (state : ScriptState) : List Char → List Char → ScriptState
  | [], _ => state
  | c :: rest, after => (state.next (c :: rest ++ after)).past rest after

/-- Each end tag in a script stands inside a script tag of a comment, and the script does not end
inside one. -/
def Contained (state : ScriptState) (s : List Char) : Prop :=
  (∀ before after, before ++ after = s → atEndTag "script" after = true →
    (state.past before after).isNested = true) ∧
  (state.past s []).isNested = false

/-- A script is contained if its first position is no end that counts and the rest is contained in
the state after it. -/
theorem contained_cons (state : ScriptState) (c : Char) (s : List Char) :
    Contained state (c :: s) ↔
      (atEndTag "script" (c :: s) = true → state.isNested = true) ∧
        Contained (state.next (c :: s)) s := by
  have last : state.past (c :: s) [] = (state.next (c :: s)).past s [] := by
    simp [ScriptState.past]
  rw [Contained, Contained, last, ← and_assoc]
  refine and_congr_left' ⟨fun each => ⟨each [] (c :: s) rfl, ?_⟩, ?_⟩
  · rintro before after rfl ends
    exact each (c :: before) after rfl ends
  · rintro ⟨first, later⟩ before after joined ends
    cases before with
    | nil => exact first (joined ▸ ends)
    | cons d before =>
      obtain ⟨rfl, rfl⟩ := List.cons.inj joined
      exact later before after rfl ends

/-- A script is taken up to an end tag exactly when it is contained. -/
theorem scriptText_exact (state : ScriptState) (s after : List Char)
    (ends : atEndTag "script" ('<' :: after) = true) :
    scriptText state (s ++ '<' :: after) = (s, '<' :: after) ↔ Contained state s := by
  induction s generalizing state with
  | nil =>
    rw [List.nil_append, scriptText_cons]
    cases nested : state.isNested <;> simp [ends, nested, Contained, ScriptState.past]
  | cons c rest inductionHypothesis =>
    have seen := atEndTag_append "script" c rest after (by decide)
    have onward : state.next (c :: (rest ++ '<' :: after)) = state.next (c :: rest) := by
      rw [← next_ahead, ahead_append, next_ahead]
    rw [contained_cons, ← inductionHypothesis, List.cons_append, scriptText_cons, seen, onward]
    by_cases counts : atEndTag "script" (c :: rest) = true ∧ state.isNested = false
    · simp [counts]
    · have inside : atEndTag "script" (c :: rest) = true → state.isNested = true := by
        simpa using counts
      rw [if_neg counts, and_iff_right inside]
      simp [Prod.ext_iff]

/-- A script that opens no comment is contained exactly when it holds no end tag. -/
theorem contained_plain (s : List Char)
    (plain : ∀ t, t <:+ s → (after? "<!--".toList t).isSome = false) :
    Contained .top s ↔ ∀ t, t <:+ s → atEndTag "script" t = false := by
  induction s with
  | nil => simp [Contained, ScriptState.past, ScriptState.isNested]
  | cons c rest inductionHypothesis =>
    obtain ⟨first, later⟩ := (positions_cons _ c rest).mp plain
    have onward : ScriptState.top.next (c :: rest) = .top := by
      simp only [ScriptState.next, first, Bool.false_eq_true, if_false]
    rw [contained_cons, onward, inductionHypothesis later, positions_cons]
    simp [ScriptState.isNested]

/-! ## Tags and text -/

/-- A name of a tag that is read as it is written: small letters, and at least one. -/
structure Small (name : String) : Prop where
  nonempty : name.toList ≠ []
  letters : ∀ c ∈ name.toList, c.isLower = true

/-- A character that is no letter is not in the name. -/
theorem Small.absent {name : String} (small : Small name) (c : Char) (other : c.isLower = false) :
    c ∉ name.toList := fun member => by simp [small.letters c member] at other

theorem small_style : Small "style" := ⟨by decide, List.all_eq_true.mp (by decide)⟩

theorem small_script : Small "script" := ⟨by decide, List.all_eq_true.mp (by decide)⟩

/-- A character that ends names is no letter. -/
theorem isLower_of_endsName (c : Char) (ends : endsName c = true) : c.isLower = false := by
  simp only [endsName, isAsciiBlank, Bool.or_eq_true, beq_iff_eq] at ends
  rcases ends with ((((((rfl | rfl) | rfl) | rfl) | rfl) | rfl) | rfl) <;> decide

section Tags

variable {name : String} (small : Small name) (rest : List Char)
include small

/-- Each character of the name goes on with it. -/
theorem name_goes_on : ∀ c ∈ name.toList, (!endsName c) = true := by
  intro c member
  rw [Bool.not_eq_true', ← Bool.not_eq_true]
  exact fun ends => small.absent c (isLower_of_endsName c ends) member

/-- The name is in lower case. -/
theorem lower_small : name.toList.map Char.toLower = name.toList := by
  refine (List.map_congr_left fun c member => ?_).trans (List.map_id _)
  exact Char.toLower_eq_of_not_isUpper (Char.not_isUpper_of_isLower (small.letters c member))

/-- The name is read as it is. -/
theorem nameOf_small : nameOf name.toList = name := by
  have shown : visibleText name.toList = name.toList := by
    refine (List.map_congr_left fun c member => if_neg ?_).trans (List.map_id _)
    rintro rfl
    exact small.absent _ (by decide) member
  rw [nameOf, shown, lower_small small, String.ofList_toList]

/-- A tag without attributes is read up to its end. -/
theorem tag_read : tag? (name.toList ++ '>' :: rest) = some ({ name }, rest) := by
  have taken : (name.toList ++ '>' :: rest).takeWhile (!endsName ·) = name.toList := by
    rw [List.takeWhile_append_of_pos (name_goes_on small)]
    simp [endsName]
  have left : (name.toList ++ '>' :: rest).dropWhile (!endsName ·) = '>' :: rest := by
    rw [List.dropWhile_append_of_pos (name_goes_on small)]
    simp [endsName]
  have closed : ('>' :: rest).dropWhile isAsciiBlank = '>' :: rest := by simp [isAsciiBlank]
  simp only [tag?, taken, left, nameOf_small small, attributes?, closed, Option.map_some]

/-- A start tag without attributes is read as it is written. -/
theorem startTag_read (inForeign : Bool) :
    next .data inForeign ('<' :: (name.toList ++ '>' :: rest)) = ([.startTag { name }], rest) := by
  have read := tag_read small rest
  obtain ⟨c, others, split⟩ := List.exists_cons_of_ne_nil small.nonempty
  have letter : c.isLower = true := small.letters c (by simp [split])
  have alphabetic : c.isAlpha = true := by simp [Char.isAlpha, letter]
  -- A letter opens none of the other kinds of markup.
  have bang : c ≠ '!' := by rintro rfl; exact absurd letter (by decide)
  have question : c ≠ '?' := by rintro rfl; exact absurd letter (by decide)
  have slash : c ≠ '/' := by rintro rfl; exact absurd letter (by decide)
  rw [split, List.cons_append] at read ⊢
  simp [next, markup, alphabetic, read]

/-- An end tag is read as it is written. -/
theorem endTag_read :
    endTagToken (name.toList ++ '>' :: rest) = ([.endTag name], rest) := by
  simp only [endTagToken, tag_read small rest]

/-- An end tag of the name is one in raw text. -/
theorem atEndTag_here : atEndTag name ('<' :: '/' :: (name.toList ++ '>' :: rest)) = true :=
  (named_iff name.toList (name.toList ++ '>' :: rest)).mpr
    ⟨name.toList, '>', ⟨rest, by simp⟩, lower_small small, rfl⟩

end Tags

/-- A text that is not empty has a token. -/
theorem textTokens_nonempty (s : List Char) (nonempty : s ≠ []) : textTokens s ≠ [] := by
  obtain ⟨c, rest, rfl⟩ := List.exists_cons_of_ne_nil nonempty
  rw [textTokens, ne_eq, List.map_eq_nil_iff, List.foldr_cons, addToRuns.eq_def]
  split
  · split <;> simp
  · simp

/-- The tokens of a text are no end tags. -/
theorem textTokens_open (s : List Char) (name : String) : .endTag name ∉ textTokens s := by
  simp only [textTokens, List.mem_map, not_exists, not_and]
  rintro ⟨blank, run⟩ _
  dsimp only
  split
  · simp
  · split <;> simp

/-- What is read from an end tag is not the text of anything. -/
theorem endTagToken_apart (s t : List Char) (nonempty : t ≠ []) :
    (endTagToken s).1 ≠ textTokens t := by
  unfold endTagToken
  split
  · next tag _ _ =>
    exact fun same => textTokens_open t tag.name (same ▸ List.mem_singleton_self _)
  · exact (textTokens_nonempty t nonempty).symm

/-! ## Between the tags -/

/-- An element whose content is read in a way of its own takes the text as its whole content: its
start tag is read up to the text, the text up to the end tag, and the end tag up to what is written
after it. -/
structure Encloses (reading : Reading) (name : String) (content after : List Char) : Prop where
  opens : ∀ inForeign, next .data inForeign
      ('<' :: (name.toList ++ '>' :: (content ++ '<' :: '/' :: (name.toList ++ '>' :: after)))) =
    ([.startTag { name }], content ++ '<' :: '/' :: (name.toList ++ '>' :: after))
  takes : ∀ inForeign, next reading inForeign
      (content ++ '<' :: '/' :: (name.toList ++ '>' :: after)) =
    (textTokens (visibleText content), '<' :: '/' :: (name.toList ++ '>' :: after))
  closes : ∀ inForeign, next reading inForeign ('<' :: '/' :: (name.toList ++ '>' :: after)) =
    ([.endTag name], after)

/-- A reader that tells an end tag from the text before one takes a text as the content of the
element exactly when it stops at the end tag that is written.

Proof: what it takes and what it leaves are the text that was written, so that it leaves the end tag
exactly when it takes the content. If it found an end tag at once, it would give no text. -/
theorem encloses_iff {reading : Reading} {name : String} (small : Small name)
    (body : List Char → List Char × List Char)
    (reads : ∀ inForeign s, next reading inForeign s =
      if atEndTag name s = true then endTagToken (s.drop 2)
      else (textTokens (visibleText (body s).1), (body s).2))
    (joined : ∀ s, (body s).1 ++ (body s).2 = s)
    (stops : ∀ s, atEndTag name s = true → (body s).1 = [])
    (content after : List Char) (nonempty : content ≠ []) :
    Encloses reading name content after ↔
      body (content ++ '<' :: '/' :: (name.toList ++ '>' :: after)) =
        (content, '<' :: '/' :: (name.toList ++ '>' :: after)) := by
  have closes : ∀ inForeign, next reading inForeign
      ('<' :: '/' :: (name.toList ++ '>' :: after)) = ([.endTag name], after) := by
    intro inForeign
    rw [reads, if_pos (atEndTag_here small after)]
    exact endTag_read small after
  constructor
  · rintro ⟨-, takes, -⟩
    have read := takes false
    rw [reads] at read
    split at read
    · have shown : visibleText content ≠ [] := mt List.map_eq_nil_iff.mp nonempty
      exact absurd (congrArg Prod.fst read) (endTagToken_apart _ _ shown)
    · have left := (Prod.mk.inj read).2
      have taken := joined (content ++ '<' :: '/' :: (name.toList ++ '>' :: after))
      rw [left] at taken
      exact Prod.ext (List.append_cancel_right taken) left
  · intro exact
    refine ⟨fun inForeign => startTag_read small _ inForeign, fun inForeign => ?_, closes⟩
    have goesOn :
        ¬ atEndTag name (content ++ '<' :: '/' :: (name.toList ++ '>' :: after)) = true := by
      intro ended
      have none := stops _ ended
      rw [exact] at none
      exact nonempty none
    rw [reads, if_neg goesOn, exact]

/-- Raw text is the content of its element exactly when it holds no end tag of the element. -/
theorem raw_encloses {name : String} (small : Small name) (content after : List Char)
    (nonempty : content ≠ []) :
    Encloses (.raw name) name content after ↔
      ∀ t, t <:+ content → atEndTag name t = false := by
  rw [encloses_iff small (upTo (atEndTag name)) (fun _ _ => rfl) (upTo_joined _) ?_ _ _ nonempty,
    upTo_exact name content _ (small.absent '<' (by decide)) (atEndTag_here small after)]
  intro s ended
  cases s with
  | nil => rfl
  | cons c rest => simp [upTo, ended]

/-- A text is the content of a script exactly when it is contained. -/
theorem script_encloses (content after : List Char) (nonempty : content ≠ []) :
    Encloses .script "script" content after ↔ Contained .top content := by
  rw [encloses_iff small_script (scriptText .top) (fun _ _ => rfl) (scriptText_joined _) ?_ _ _
      nonempty,
    scriptText_exact .top content _ (atEndTag_here small_script after)]
  intro s ended
  cases s with
  | nil => rfl
  | cons c rest => simp [scriptText, ended]

end Pagefold.Html.Lexer
