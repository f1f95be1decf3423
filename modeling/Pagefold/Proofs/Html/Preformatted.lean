import Mathlib
import Pagefold.Proofs.Html.Escaping
import Pagefold.Proofs.Html.Filling
import Pagefold.Proofs.Html.Inlined

/-!
# Preformatted text that is read again

A preformatted element is written with its text as it is, markup apart. When what has been written is
read, the text up to the end tag becomes the text of an element again, which no later text changes.
Only a line feed at the start of the text is lost, because the reader drops one after the start tag of
a preformatted element and none is written for it.
-/
namespace Pagefold.Html

open Builder

namespace Lexer

/-- A run of a text is of blanks only or has none. -/
theorem runs_uniform (s : List Char) :
    ∀ run ∈ s.foldr addToRuns [], ∀ c ∈ run.2, Text.isAsciiBlank c = run.1 := by
  induction s with
  | nil => nofun
  | cons c s inductionHypothesis =>
    rw [List.foldr_cons]
    generalize s.foldr addToRuns [] = runs at inductionHypothesis
    unfold addToRuns
    split
    · next blank run rest =>
      obtain ⟨first, others⟩ := List.forall_mem_cons.mp inductionHypothesis
      split
      · next same =>
        refine List.forall_mem_cons.mpr ⟨List.forall_mem_cons.mpr ⟨same.1.symm, first⟩, others⟩
      · exact List.forall_mem_cons.mpr ⟨by simp, inductionHypothesis⟩
    · exact List.forall_mem_cons.mpr ⟨by simp, nofun⟩

/-- The tokens of a text are runs. -/
theorem textTokens_runs {s : List Char} (clean : '\x00' ∉ s) :
    ∀ token ∈ textTokens s, IsRun token := by
  intro token member
  obtain ⟨run, some, text⟩ := (textTokens_joined clean).2 token member
  refine ⟨run, some, text.imp_right fun written => ⟨written, fun first => ?_⟩⟩
  obtain ⟨⟨blank, characters⟩, inside, same⟩ := List.mem_map.mp member
  obtain ⟨rest, split⟩ := List.head?_eq_some_iff.mp first
  have uniform := runs_uniform s _ inside
  dsimp only at same uniform
  rw [written] at same
  split at same
  · cases same
  · split at same
    · cases same
    · next other =>
      obtain rfl := Token.text.inj same
      rw [String.toList_ofList] at split
      have blanks := uniform '\n' (by simp [split])
      exact other (blanks ▸ by decide)

/-- Start tags are read only where tags are. -/
theorem reading_of_startTag {reading : Reading} {inForeign : Bool} {s : List Char} {tag : Tag}
    (member : .startTag tag ∈ (next reading inForeign s).1) : reading = .data := by
  have text (s : List Char) : .startTag tag ∉ textTokens s := fun inside =>
    absurd (textTokens_untagged s _ inside) (by simp [Token.isTag])
  have closing (s : List Char) : .startTag tag ∉ (endTagToken s).1 := by
    unfold endTagToken
    split <;> simp
  cases reading with
  | data => rfl
  | escapable name =>
    exfalso
    unfold next at member
    dsimp only at member
    split at member
    · exact closing _ member
    · dsimp only at member
      unfold afterFault at member
      split at member
      · exact text _ (by simpa using member)
      · exact text _ member
  | raw name =>
    exfalso
    unfold next at member
    dsimp only at member
    split at member
    · exact closing _ member
    · exact text _ member
  | script =>
    exfalso
    unfold next at member
    dsimp only at member
    split at member
    · exact closing _ member
    · exact text _ member
  | plain => exact absurd member (text _)

variable {name : String} (small : Small name) (inForeign : Bool)
include small

/-- An end tag is read as it is written, where tags are read, and where text is read up to it. -/
theorem end_read {reading : Reading} (ends : reading = .data ∨ reading = .escapable name)
    (after : List Char) :
    next reading inForeign ('<' :: '/' :: (name.toList ++ '>' :: after)) =
      ([.endTag name], after) := by
  rcases ends with rfl | rfl
  · obtain ⟨c, others, split⟩ := List.exists_cons_of_ne_nil small.nonempty
    have letter : c.isLower = true := small.letters c (by simp [split])
    have alphabetic : c.isAlpha = true := by simp [Char.isAlpha, letter]
    have closing : c ≠ '>' := by rintro rfl; exact absurd letter (by decide)
    have read := endTag_read small after
    rw [split, List.cons_append] at read ⊢
    simp [next, markup, alphabetic, read]
  · rw [next, if_pos (atEndTag_here small after)]
    exact endTag_read small after

/-- Text that is written is read as it was, up to the end tag of its element. -/
theorem content_read {reading : Reading} (ends : reading = .data ∨ reading = .escapable name)
    {s : List Char} (filled : s ≠ []) (clean : '\x00' ∉ s) (after : List Char) :
    next reading inForeign (escapeText s ++ '<' :: '/' :: (name.toList ++ '>' :: after)) =
      (textTokens s, '<' :: '/' :: (name.toList ++ '>' :: after)) := by
  rcases ends with rfl | rfl
  · exact text_read inForeign filled (Or.inr rfl)
  · have unmarked := (escapeText_unmarked s).1
    have decoded : Reference.decode false (escapeText s) = s := by
      rw [escapeText_encode]
      exact Reference.decode_encode false _ rfl s
    have none : atEndTag name
        (escapeText s ++ '<' :: '/' :: (name.toList ++ '>' :: after)) = false := by
      apply atEndTag_marked
      cases written : escapeText s with
      | nil =>
        rw [written] at decoded
        exact absurd decoded.symm filled
      | cons c rest =>
        rintro ⟨rfl⟩
        exact unmarked (by simp [written])
    have taken := (upTo_exact name (escapeText s) ('/' :: (name.toList ++ '>' :: after))
      (small.absent '<' (by decide)) (atEndTag_here small after)).mpr fun t part => by
        apply atEndTag_marked
        intro first
        obtain ⟨rest, rfl⟩ := List.head?_eq_some_iff.mp first
        exact unmarked (part.subset List.mem_cons_self)
    simp only [next, none, Bool.false_eq_true, if_false, taken, decoded, visibleText_clean clean,
      afterFault, startsUnclosed_escapeText]

end Lexer

/-! ## Reading on -/

namespace Builder

/-- Whether what follows is read as foreign. -/
def readsForeign (b : Builder) : Bool := !b.opened.isEmpty && (b.nameOf b.current).1 != .html

/-- The state after one step of the reader, and the text that is left. -/
def round (b : Builder) (s : List Char) : Builder × List Char :=
  let (tokens, rest) := Lexer.next b.reading b.readsForeign s
  let after := tokens.foldl feed b
  (after, if b.reading = .script ∧ after.reading ≠ .script then dropMark rest else rest)

/-- A step of the reader that does not end a script. -/
theorem round_read {b : Builder} {s rest : List Char} {tokens : List Token}
    (unscripted : b.reading ≠ .script)
    (read : Lexer.next b.reading b.readsForeign s = (tokens, rest)) :
    b.round s = (tokens.foldl feed b, rest) := by
  rw [round, read]
  exact congrArg (Prod.mk _) (if_neg fun ends => unscripted ends.1)

/-- The reader comes from one state with a text ahead to another. -/
inductive Reads : Builder → List Char → Builder → List Char → Prop
  | here (b : Builder) (s : List Char) : Reads b s b s
  | round {b b' : Builder} {s s' : List Char} (some : s ≠ [])
      (onward : Reads (b.round s).1 (b.round s).2 b' s') : Reads b s b' s'

namespace Reads

variable {b b' b'' : Builder} {s s' s'' : List Char}

theorem trans (first : Reads b s b' s') (second : Reads b' s' b'' s'') : Reads b s b'' s'' := by
  induction first with
  | here => exact second
  | round some _ inductionHypothesis => exact .round some (inductionHypothesis second)

/-- Steps of the reader, one after another, as long as some text is left. -/
theorem iterate (n : Nat) (b : Builder) (s : List Char)
    (filled : ∀ k < n, ((fun state => state.1.round state.2)^[k] (b, s)).2 ≠ []) :
    Reads b s ((fun state => state.1.round state.2)^[n] (b, s)).1
      ((fun state => state.1.round state.2)^[n] (b, s)).2 := by
  induction n generalizing b s with
  | zero => exact .here b s
  | succ n inductionHypothesis =>
    exact .round (filled 0 (Nat.succ_pos n))
      (inductionHypothesis _ _ fun k below => filled (k + 1) (Nat.succ_lt_succ below))

/-- Each step of the reader takes some of the text. -/
theorem round_shorter (b : Builder) (some : s ≠ []) : (b.round s).2.length < s.length := by
  have shorter := (Lexer.next_takes b.reading b.readsForeign some).some
  unfold Builder.round
  dsimp only
  split
  · unfold dropMark
    split
    · rw [List.length_drop]
      omega
    · exact shorter
  · exact shorter

/-- What is read from a state on the way is the rest of what is read. -/
theorem read (reads : Reads b s b' s') (fuel : Nat) (enough : s.length < fuel) :
    ∃ fuel', s'.length < fuel' ∧ Builder.read fuel b s = Builder.read fuel' b' s' := by
  induction reads generalizing fuel with
  | here => exact ⟨fuel, enough, rfl⟩
  | @round b _ s _ some onward inductionHypothesis =>
    obtain ⟨fuel, rfl⟩ := Nat.exists_eq_succ_of_ne_zero (Nat.ne_zero_of_lt enough)
    obtain ⟨fuel', left, same⟩ := inductionHypothesis fuel (by have := round_shorter b some; omega)
    refine ⟨fuel', left, ?_⟩
    rw [← same]
    obtain ⟨c, rest, rfl⟩ := List.exists_cons_of_ne_nil some
    rfl

/-- Reading leaves a finished part of the document as it is. -/
theorem apart {island : Island} (reads : Reads b s b' s') (apart : b.Apart island false) :
    b'.Apart island false := by
  induction reads with
  | here => exact apart
  | round _ _ inductionHypothesis => exact inductionHypothesis (feeds_apart apart _)

end Reads

namespace Inside

variable {b : Builder} {id : Nat} {below : List Nat} {space : Space} {name : String}
  {attributes : List Attribute} {content : List Char}

/-- The element is read up to its own end tag. -/
theorem reading (inside : Inside b id below space name attributes content) :
    b.reading = .data ∨ b.reading = .escapable name := by
  cases inside.takes with
  | block _ _ _ reading => exact Or.inl reading
  | area _ reading => exact Or.inr reading
  | foreign _ _ reading => exact Or.inl reading

theorem unscripted (inside : Inside b id below space name attributes content) :
    b.reading ≠ .script := by
  rcases inside.reading with reading | reading <;> rw [reading] <;> nofun

/-- The name of the element is read as it is written. -/
theorem small (inside : Inside b id below space name attributes content) : Lexer.Small name := by
  have known : name ∈ preformatted := by
    cases inside.takes with
    | block known _ _ _ =>
      simp [preformatted] at known ⊢
      tauto
    | area _ _ => decide
    | foreign _ _ _ => decide
  have checked : ∀ name ∈ preformatted,
      name.toList ≠ [] ∧ name.toList.all Char.isLower = true := by decide
  exact ⟨(checked name known).1, List.all_eq_true.mp (checked name known).2⟩

/-- As long as the element stays as it is, it is an element with its text. -/
theorem toNode (inside : Inside b id below space name attributes content) :
    ∃ island, Around island b.sketch below b.head ∧ ∀ s : Sketch, s.Sealed island → ∀ fuel,
      s.toNode (fuel + 2) id = .element name attributes (textNodes content) := by
  obtain ⟨ids, around, held⟩ := inside.filled
  refine ⟨_, around, fun s intact fuel => ?_⟩
  have kind : (s.node id).kind = .element space name attributes none :=
    (intact.kind id List.mem_cons_self).trans inside.element
  have children := intact.held id List.mem_cons_self
  rw [Sketch.toNode, kind]
  dsimp only
  rw [Option.getD_none, children]
  cases held with
  | none childless =>
    dsimp only
    rw [childless]
    rfl
  | @text child content some only written =>
    dsimp only
    have text : (s.node child).kind = .text (String.ofList content) :=
      (intact.kind child (by simp)).trans written
    rw [only, textNodes, if_neg some]
    simp [Sketch.toNode, text]

/-- The text that is written for the element is read as its text, and its end tag finishes it. A line
feed at the start of the text is dropped if it is to be. -/
theorem finish (inside : Inside b id below space name attributes []) {t : List Char}
    (clean : '\x00' ∉ t) (after : List Char) :
    ∃ island b', Reads b (escapeText t ++ '<' :: '/' :: (name.toList ++ '>' :: after)) b' after ∧
      b'.Apart island false ∧ ∀ s : Sketch, s.Sealed island → ∀ fuel, s.toNode (fuel + 2) id =
        .element name attributes (textNodes (if b.skipsLineFeed then dropLineFeed t else t)) := by
  have small := inside.small
  -- The round for the text, if there is one.
  obtain ⟨filled, reads, held⟩ : ∃ filled,
      Reads b (escapeText t ++ '<' :: '/' :: (name.toList ++ '>' :: after)) filled
        ('<' :: '/' :: (name.toList ++ '>' :: after)) ∧
      Inside filled id below space name attributes
        (if b.skipsLineFeed then dropLineFeed t else t) := by
    by_cases some : t = []
    · subst some
      refine ⟨b, .here _ _, ?_⟩
      simpa [dropLineFeed] using inside
    · have read := Lexer.content_read small b.readsForeign inside.reading some clean after
      have held := inside.feed_text (Lexer.textTokens t) (Lexer.textTokens_runs clean)
      rw [(Lexer.textTokens_joined clean).1] at held
      refine ⟨_, .round (by simp) ?_, held⟩
      rw [round_read inside.unscripted read]
      exact .here _ _
  have read := Lexer.end_read small filled.readsForeign held.reading after
  have ended := held.unseen filled.allowsFrameset false
  obtain ⟨island, around, stays⟩ := ended.toNode
  obtain ⟨sketch, opened, head, straight⟩ := ended.take_end
  refine ⟨island, feed filled (.endTag name), reads.trans (.round (List.cons_ne_nil _ _) ?_),
    ⟨?_, straight⟩, stays⟩
  · rw [round_read held.unscripted read]
    exact .here _ _
  · have fed : feed filled (.endTag name) =
      take { filled with skipsLineFeed := false } (.endTag name) := rfl
    rw [fed, sketch, opened, head]
    exact around

end Inside

end Builder

/-! ## Preformatted text in a document -/

/-- A part that starts neither with a byte order mark nor with a line feed is seen from its start. -/
theorem Seen.plain {c : Char} {rest seen : List Char} (seen_of : Seen (c :: rest) seen)
    (mark : c ≠ '\ufeff') (line : c ≠ '\n') : seen = normalizeLines (c :: rest) := by
  rcases seen_of with same | ⟨first, others, split, start, _⟩
  · exact same
  · obtain ⟨rfl, _⟩ := List.cons.inj split
    exact absurd start (not_or.mpr ⟨mark, line⟩)

namespace Emitter

/-- A preformatted element is written with its text, in which only the marks of tags and references
are replaced. -/
theorem node_preformatted (e : Emitter) (token : String → StateM Class.Table String)
    (mode : TextMode) {name : String} (known : name ∈ preformatted) (attributes : List Attribute)
    {t : String} (plain : e.localizer.apply t.toList = t.toList) (classes : Class.Table) :
    ∃ inner, (((node token e mode (.element name attributes [.text t])).run classes).1).toList =
      ('<' :: (name.toList ++ inner)) ++ '>' ::
        (escapeText t.toList ++ '<' :: '/' :: (name.toList ++ ['>'])) := by
  have facts : ∀ name ∈ preformatted, (∀ attributes, isInlined name attributes = false) ∧
      TextMode.inside mode name = .preserve ∧ e.bundle name = "" := by
    intro name member
    fin_cases member
    · exact ⟨fun _ => rfl, rfl, by simp [bundle]⟩
    · exact ⟨fun _ => rfl, rfl, by simp [bundle]⟩
    · exact ⟨fun _ => rfl, rfl, by simp [bundle]⟩
  obtain ⟨written, inside, unbundled⟩ := facts name known
  refine ⟨((Emitter.attributes token e name attributes attributes).run classes).1.toList, ?_⟩
  have text : e.text .preserve t = String.ofList (escapeText t.toList) := by
    rw [Emitter.text, plain]
  have whole : ((node token e mode (.element name attributes [.text t])).run classes).1 =
      "<" ++ name ++ ((Emitter.attributes token e name attributes attributes).run classes).1 ++ ">" ++
        (e.text .preserve t ++ "") ++ e.bundle name ++ "</" ++ name ++ ">" := by
    rw [node, ← inside]
    simp only [written, List.isEmpty_cons, Bool.false_and, Bool.false_eq_true, if_false, nodes, node]
    rfl
  rw [whole, unbundled, text]
  simp

/-- A preformatted element of a document is found in what is read again: its start tag, its text, and
its end tag. -/
theorem emit_preformatted (e : Emitter) (document : Node) (classes : Class.Table) {name : String}
    (known : name ∈ preformatted) (attributes : List Attribute) {t : String}
    (shown : (Node.element name attributes [.text t]).Shown document)
    (clean : '\r' ∉ t.toList) (plain : e.localizer.apply t.toList = t.toList) :
    ∃ before inner after,
      normalizeLines (dropMark (e.emit document classes).1.toList) =
        before ++ (normalizeLines ('<' :: (name.toList ++ inner)) ++ '>' ::
          (escapeText t.toList ++ '<' :: '/' :: (name.toList ++ '>' :: after))) := by
  let token (name : String) : StateM Class.Table String := modifyGet (·.associate name .html)
  have same : (e.emit document classes).1 = ((node token e .collapse document).run classes).1 := rfl
  obtain ⟨before, after, mode, classes', split⟩ := node_shown e token _ _ shown .collapse classes
  obtain ⟨inner, written⟩ := node_preformatted e token mode known attributes plain classes'
  have whole : (e.emit document classes).1.toList = before.toList ++ (('<' :: (name.toList ++ inner)) ++
      '>' :: (escapeText t.toList ++ '<' :: '/' :: (name.toList ++ '>' :: after.toList))) := by
    rw [same, split, String.toList_append, String.toList_append, written]
    simp
  generalize (e.emit document classes).1.toList = s at whole ⊢
  have read := seen_whole s
  nth_rewrite 1 [whole] at read
  obtain ⟨first, second, sum, _, seen⟩ := read.append
  have exact_second : second = normalizeLines (('<' :: (name.toList ++ inner)) ++
      '>' :: (escapeText t.toList ++ '<' :: '/' :: (name.toList ++ '>' :: after.toList))) :=
    seen.plain (by decide) (by decide)
  obtain ⟨third, joined, onward⟩ := normalizeLines_append ('<' :: (name.toList ++ inner))
    ('>' :: (escapeText t.toList ++ '<' :: '/' :: (name.toList ++ '>' :: after.toList)))
  have tag : '\r' ∉ ['<', '/'] ++ name.toList ++ ['>'] := by
    have checked : ∀ name ∈ preformatted, '\r' ∉ ['<', '/'] ++ name.toList ++ ['>'] := by decide
    exact checked name known
  have ended : normalizeLines ('<' :: '/' :: (name.toList ++ '>' :: after.toList)) =
      '<' :: '/' :: (name.toList ++ '>' :: normalizeLines after.toList) := by
    simpa using normalizeLines_clean tag after.toList
  have opened : normalizeLines ('>' :: (escapeText t.toList ++
      '<' :: '/' :: (name.toList ++ '>' :: after.toList))) = '>' :: (escapeText t.toList ++
        '<' :: '/' :: (name.toList ++ '>' :: normalizeLines after.toList)) := by
    rw [normalizeLines, escapeText_encode, normalizeLines_clean (encode_clean clean), ended]
    all_goals simp
  refine ⟨first, inner, normalizeLines after.toList, ?_⟩
  rw [sum, exact_second, joined, onward.plain (by decide) (by decide), opened]

end Emitter

/-- Nothing is in the way at the start of a document. -/
theorem apart_empty : Apart .none false {} := by
  have node (id : Nat) : (({} : Sketch).node id).parent = none ∧
      (({} : Sketch).node id).children = #[] ∧ ∀ space name attributes contents,
        (({} : Sketch).node id).kind ≠ .element space name attributes contents := by
    cases id with
    | zero => exact ⟨rfl, rfl, nofun⟩
    | succ id =>
      rw [Sketch.node_outside (by simp)]
      exact ⟨rfl, rfl, nofun⟩
  refine ⟨⟨⟨nofun, nofun, nofun, nofun, ⟨by decide, nofun⟩, ?_, ?_, ?_⟩, nofun, nofun⟩, rfl⟩
  · intro id p placed
    rw [(node id).1] at placed
    cases placed
  · intro id child member
    rw [(node id).2.1] at member
    cases member
  · intro id space name attributes inner found
    exact absurd found ((node id).2.2 _ _ _ _)

/-- A text is kept as a whole exactly if no line feed at its start is dropped. -/
theorem textNodes_kept {t : String} (filled : t ≠ "") (drops : Bool) :
    textNodes (if drops then dropLineFeed t.toList else t.toList) = [.text t] ↔
      (drops = true → t.toList.head? ≠ some '\n') := by
  have whole : textNodes t.toList = [.text t] := by
    rw [textNodes, if_neg (by simpa using filled), String.ofList_toList]
  cases drops with
  | false => simpa using whole
  | true =>
    refine ⟨fun kept _ first => ?_, fun apart => ?_⟩
    · obtain ⟨rest, split⟩ := List.head?_eq_some_iff.mp first
      rw [if_pos rfl, split, dropLineFeed, textNodes] at kept
      split at kept
      · cases kept
      · obtain rfl := Node.text.inj (List.singleton_inj.mp kept)
        rw [String.toList_ofList] at split
        exact absurd (congrArg List.length split) (by simp)
    · rw [if_pos rfl, dropLineFeed_kept (apart rfl), whole]

/-- The text of a preformatted element is written without any change but to the marks of tags and
references, and the reader takes all of it as the text of an element again, apart from a line feed at
its start, which is lost unless the element is foreign. So the text survives exactly if it starts with
something else. Nothing that is read later changes the element: the finished document has it as it was
at its end tag. -/
theorem preformatted_reread (e : Emitter) (document : Node) (classes : Class.Table) {name : String}
    (known : name ∈ preformatted) (attributes : List Attribute) {t : String} (filled : t ≠ "")
    (shown : (Node.element name attributes [.text t]).Shown document)
    (clean : '\r' ∉ t.toList ∧ '\x00' ∉ t.toList)
    (plain : e.localizer.apply t.toList = t.toList) :
    let written := (e.emit document classes).1
    let seen := normalizeLines (dropMark written.toList)
    let finished := (Builder.read (seen.length + 1) {} seen).sketch
    let content (after : List Char) :=
      escapeText t.toList ++ '<' :: '/' :: (name.toList ++ '>' :: after)
    (∃ before inner after, seen =
      before ++ (normalizeLines ('<' :: (name.toList ++ inner)) ++ '>' :: content after)) ∧
    parse written = finished.toDocument ∧
    ∀ (b : Builder) (tag : Tag) (drops : Bool) (ahead after : List Char), tag.name = name →
      Reads {} seen b ahead →
      Lexer.next b.reading b.readsForeign ahead = ([.startTag tag], content after) →
      Opening b tag drops →
        ∃ attributes text, (∀ fuel, finished.toNode (fuel + 2) b.sketch.nodes.size =
            .element name attributes text) ∧
          text = textNodes (if drops then dropLineFeed t.toList else t.toList) ∧
          (text = [.text t] ↔ (drops = true → t.toList.head? ≠ some '\n')) := by
  intro written seen finished content
  refine ⟨e.emit_preformatted document classes known attributes shown clean.1 plain, rfl, ?_⟩
  intro b tag drops ahead after named reads start opening
  obtain rfl := named
  have first : .startTag tag ∈ (Lexer.next b.reading b.readsForeign ahead).1 := by
    rw [start]
    exact List.mem_singleton_self _
  have reading : b.reading = .data := Lexer.reading_of_startTag first
  obtain ⟨below, space, others, inside, skips⟩ :=
    opening.inside (reads.apart apart_empty) reading
  obtain ⟨island, b', onward, apart, stays⟩ := inside.finish clean.2 after
  have opened : Reads b ahead (b.feed (.startTag tag)) (content after) := by
    refine .round ?_ ?_
    · rintro rfl
      rw [reading] at start
      cases start
    · rw [round_read (by rw [reading]; nofun) start]
      exact .here _ _
  obtain ⟨fuel, _, same⟩ := ((reads.trans opened).trans onward).read _ (Nat.lt_succ_self _)
  have intact : finished.Sealed island := by
    have last : finished = (Builder.read fuel b' after).sketch := congrArg Builder.sketch same
    rw [last]
    exact (read_apart apart _ _).intact
  rw [skips] at stays
  exact ⟨others, _, stays finished intact, rfl, textNodes_kept filled drops⟩

/-- The blanks before the text of a block are kept, and the line feed before them is lost. -/
theorem preformatted_reread_blank :
    let document : Node := .document [.element "html" [] [.element "head" [] [],
      .element "body" [] [.element "pre" [] [.text "\n x"]]]]
    let written := (Emitter.emit {} document {}).1
    written = "<html><head></head><body><pre>\n x</pre></body></html>" ∧
      ∃ finished : Sketch, parse written = finished.toDocument ∧
        ∃ attributes, ∀ fuel,
          finished.toNode (fuel + 2) 4 = .element "pre" attributes [.text " x"] := by
  intro document written
  have exact_written : written = "<html><head></head><body><pre>\n x</pre></body></html>" := by
    decide +kernel
  let advance (state : Builder × List Char) := state.1.round state.2
  let seen := normalizeLines (dropMark written.toList)
  let b := (advance^[4] ({}, seen)).1
  have shown : (Node.element "pre" [] [.text "\n x"]).Shown document :=
    .document (List.mem_singleton_self _)
      (.element rfl (List.mem_cons_of_mem _ (List.mem_singleton_self _))
        (.element rfl (List.mem_singleton_self _) .here))
  obtain ⟨_, parsed, found⟩ := preformatted_reread {} document {} (by decide) [] (by decide) shown
    (by decide) (by decide +kernel)
  have start : Reads {} seen b "<pre>\n x</pre></body></html>".toList := by
    have reads := Reads.iterate 4 {} seen (by decide +kernel)
    have ahead : (advance^[4] ({}, seen)).2 = "<pre>\n x</pre></body></html>".toList := by
      decide +kernel
    rw [ahead] at reads
    exact reads
  have opening : Opening b { name := "pre" } true := by
    refine .block (by decide) (by decide +kernel) (by decide +kernel) fun entry first => ?_
    have none : b.closeOpenParagraph.formatting.head? = none := by decide +kernel
    rw [none] at first
    cases first
  obtain ⟨attributes, text, kept, rfl, _⟩ := found b { name := "pre" } true
    "<pre>\n x</pre></body></html>".toList "</body></html>".toList rfl start
    (by decide +kernel) opening
  have size : b.sketch.nodes.size = 4 := by decide +kernel
  rw [size] at kept
  exact ⟨exact_written, _, parsed, attributes, kept⟩

/-- Of two line feeds at the start of a block only one is in the document, and none is left when what
is written for it is read again. -/
theorem line_feed_lost :
    ∃ around, (parse "<pre>\n\nx</pre>").texts [] = [⟨around, "\nx"⟩] ∧
      (Emitter.emit {} (parse "<pre>\n\nx</pre>") {}).1 =
        "<html><head></head><body><pre>\nx</pre></body></html>" ∧
      (parse "<html><head></head><body><pre>\nx</pre></body></html>").texts [] = [⟨around, "x"⟩] := by
  refine ⟨[("html", []), ("body", []), ("pre", [])], ?_⟩
  decide +kernel

end Pagefold.Html
