import Mathlib
import Pagefold.Html.Extract
import Pagefold.Proofs.Bundle.Documents
import Pagefold.Proofs.Bundle.Failures
import Pagefold.Proofs.Html.Pieces
import Pagefold.Proofs.Localization.Joined
import Pagefold.Proofs.Store.Journal
import Pagefold.Proofs.Store.WellFormed

/-!
# Keys without a value

A document is refused if a placeholder in one of its texts has a key that the dictionary lacks. The
texts are its styles, its scripts, and the texts and attribute values of its markup. The keys are
found one bundle and one node at a time; here the texts are seen as one list, of which the joined
bundles and the tree are only two forms.

A document is refused before a tool is called. Tools are functions, so this is said of other ones:
tools that act on the store each time they are called, in any way they like.
-/
namespace Pagefold

namespace Html

/-- The texts of a piece in which placeholders are replaced. -/
def Piece.texts : Piece → List String
  | .text _ content => [content]
  | .opening _ attributes => attributes.map (·.value)
  | _ => []

/-- The texts of the markup: the text nodes and the attribute values, without those of elements that
are taken out. -/
def Node.markupTexts (document : Node) : List String :=
  (document.pieces .collapse).flatMap Piece.texts

mutual

/-- The keys that a node lacks are those that its texts lack, in whatever mode it is written. -/
theorem Node.missing_pieces (l : Localizer) (mode : TextMode) : (node : Node) →
    node.missing l =
      (node.pieces mode).flatMap fun piece => piece.texts.flatMap fun text => l.missing text.toList
  | .document children => by rw [Node.missing, Node.pieces, missingOf_pieces l mode children]
  | .doctype name => by simp [Node.missing, Node.pieces, Piece.texts]
  | .text content => by simp [Node.missing, Node.pieces, Piece.texts]
  | .comment content => by simp [Node.missing, Node.pieces]
  | .element name attributes children => by
    rw [Node.missing, Node.pieces]
    cases inlined : isInlined name attributes with
    | true => simp
    | false =>
      cases alone : children.isEmpty && selfClosing.contains name with
      | true =>
        rw [Bool.and_eq_true, List.isEmpty_iff] at alone
        rw [alone.1]
        simp [missingOf, Piece.texts, List.flatMap_map]
      | false =>
        rw [missingOf_pieces l (mode.inside name) children]
        simp [Piece.texts, List.flatMap_map]

/-- The keys that nodes lack are those that their texts lack. -/
theorem missingOf_pieces (l : Localizer) (mode : TextMode) : (all : List Node) →
    missingOf l all =
      (piecesOf mode all).flatMap fun piece => piece.texts.flatMap fun text => l.missing text.toList
  | [] => by simp [missingOf, piecesOf]
  | node :: rest => by
    rw [missingOf, piecesOf, List.flatMap_append, ← Node.missing_pieces l mode node,
      ← missingOf_pieces l mode rest]

end

end Html

namespace Localizer

/-- A report names the keys that it is made from. -/
theorem mem_report (keys : List String) (key : String) : key ∈ report keys ↔ key ∈ keys := by
  rw [report, List.mem_eraseDups, List.mem_mergeSort]

/-- A report names each key once, in ascending order. -/
theorem report_ascending (keys : List String) : (report keys).Pairwise (· < ·) :=
  Memory.ascending_sorted keys

variable (l : Localizer)

/-- The dictionary has no entry for the key, or there is no dictionary. -/
def Without (key : String) : Prop :=
  ∀ entries, l.dictionary = some entries → ∀ value, (key, value) ∉ entries

theorem value_none_iff (key : String) : l.value? key = none ↔ l.Without key := by
  rw [value?, Option.bind_eq_none_iff]
  refine forall₂_congr fun entries _ => ?_
  rw [List.lookup_eq_none_iff]
  constructor
  · intro apart value member
    have different := apart _ member
    simp at different
  · rintro absent ⟨other, value⟩ member
    by_contra same
    obtain rfl : key = other := by simpa using same
    exact absent value member

/-- The unknown keys of a text are those of its placeholders that have no value. -/
theorem mem_missing (s : List Char) (key : String) :
    key ∈ l.missing s ↔ .placeholder key ∈ Segment.scan s ∧ l.Without key := by
  rw [← value_none_iff, missing, List.mem_filterMap]
  constructor
  · rintro ⟨segment, member, found⟩
    cases segment with
    | literal c => cases found
    | placeholder other =>
      rw [missingKey?] at found
      split at found
      · cases found
      · next unknown =>
        cases found
        exact ⟨member, by simpa using unknown⟩
  · rintro ⟨member, unknown⟩
    exact ⟨_, member, by simp [missingKey?, unknown]⟩

end Localizer

namespace Bundle

section Texts

variable (p : Parts) (l : Localizer)

/-- The texts of a document in which placeholders are replaced. -/
def Parts.texts : List String := p.styles ++ p.scripts ++ p.document.markupTexts

/-- A placeholder in one of the texts has this key, and the dictionary lacks it. -/
def Parts.Lacks (key : String) : Prop :=
  (∃ text ∈ p.texts, .placeholder key ∈ Segment.scan text.toList) ∧ l.Without key

theorem lacks_iff (key : String) :
    p.Lacks l key ↔ key ∈ p.texts.flatMap fun text => l.missing text.toList := by
  rw [List.mem_flatMap, Parts.Lacks, ← exists_and_right]
  refine exists_congr fun text => ?_
  rw [l.mem_missing, and_assoc]

/-- The keys that a document lacks are those that its texts lack. -/
theorem mem_missing (key : String) : key ∈ p.missing l ↔ p.Lacks l key := by
  have united : p.missing l =
      Localizer.report (p.texts.flatMap fun text => l.missing text.toList) := by
    rw [Parts.missing, (styles_localized l p).2, (scripts_localized l p).2,
      p.document.missing_pieces l .collapse, Parts.texts, Html.Node.markupTexts, List.flatMap_append,
      List.flatMap_append, List.flatMap_assoc]
  rw [united, Localizer.mem_report, lacks_iff]

theorem missing_nil_iff : p.missing l = [] ↔ ∀ key, ¬ p.Lacks l key := by
  rw [List.eq_nil_iff_forall_not_mem]
  exact forall_congr' fun key => not_congr (mem_missing p l key)

end Texts

section Acting

variable {m : Type → Type} [Monad m]

/-- Tools that may act on a store before they answer. -/
abbrev ActingTools (m : Type → Type) : Type := Tool.Role → String → m (Except Diagnostics String)

/-- Tools that only answer. -/
def answering (tools : Toolchain) : ActingTools m
  | .styles, source => pure (tools.styles source)
  | .scripts, source => pure (tools.scripts source)

/-- A bundle after a tool that may act. -/
def compressedBy (use : ActingTools m) (role : Tool.Role) (bundle source : String) :
    Renaming m String :=
  if isBlank bundle then pure ""
  else
    ExceptT.mk do
      let answer ← StateT.lift (use role source)
      pure (answer.mapError (.tool role))

/-- The two bundles of a document after tools that may act. -/
def bundlesBy (use : ActingTools m) (l : Localizer) (p : Parts) : Renaming m (String × String) :=
  match p.missing l with
  | [] => do
    let styles := localized l p.joinedStyles
    let scripts := localized l p.joinedScripts
    let css ← compressedBy use .styles styles styles
    let js ← compressedBy use .scripts scripts (wrapScript scripts)
    pure (css, js)
  | keys => throw (.missingLocalization keys)

variable [FileStore m]

/-- The first part of an entry point: its sources and assets are found and renamed. -/
def extracted (c : Context) (source : Path) : Renaming m Parts := do
  let _ ← Renaming.takeReferenced
  parts c source

/-- The second part of an entry point: its document is made with its bundles and published. -/
def finished (c : Config) (l : Localizer) (source : Path) (p : Parts) (css js : String) :
    Renaming m Outcome := do
  let html ← markup l p css js
  publish c source {
    html := html
    cssBytes := css.utf8ByteSize
    jsBytes := js.utf8ByteSize
    unusedConstants := Script.unusedConstants (localized l p.joinedScripts) }

/-- An entry point with tools that may act. -/
def entryBy (use : ActingTools m) (c : Config) (l : Localizer) (source : Path) :
    Renaming m Outcome := do
  let p ← extracted (context c) source
  let (css, js) ← bundlesBy use l p
  finished c l source p css js

section Answering

variable [LawfulMonad m] (tools : Toolchain)

/-- Results that are computed in a row are one result. -/
theorem pureResult_bind {α β : Type} (result : Except Failure α) (f : α → Except Failure β) :
    (Renaming.pureResult result >>= fun a => Renaming.pureResult (f a) : Renaming m β) =
      Renaming.pureResult (result >>= f) := by
  cases result with
  | ok a => exact pure_bind a _
  | error failure =>
    apply ExceptT.ext
    exact pure_bind (m := StateT Tables m) (Except.error failure) _

/-- A tool that only answers presses a bundle as it does without acting. -/
theorem compressedBy_pure {use : ActingTools m} {role : Tool.Role} {tool : Tool}
    {bundle source : String} (answers : use role source = pure (tool source)) :
    compressedBy use role bundle source =
      Renaming.pureResult (compressed role tool bundle source) := by
  have lifted : (StateT.lift (pure (tool source)) : StateT Tables m _) = pure (tool source) := by
    apply StateT.ext
    intro s
    exact pure_bind _ _
  rw [compressedBy, compressed, answers, lifted, pure_bind]
  split
  · rfl
  · cases tool source <;> rfl

/-- With tools that only answer, the bundles are made without acting. -/
theorem bundlesBy_answering (l : Localizer) (p : Parts) :
    bundlesBy (answering tools : ActingTools m) l p = Renaming.pureResult (bundles tools l p) := by
  have styles : ∀ text source, compressedBy (answering tools : ActingTools m) .styles text source =
      Renaming.pureResult (compressed .styles tools.styles text source) :=
    fun _ _ => compressedBy_pure rfl
  have scripts : ∀ text source, compressedBy (answering tools : ActingTools m) .scripts text source =
      Renaming.pureResult (compressed .scripts tools.scripts text source) :=
    fun _ _ => compressedBy_pure rfl
  unfold bundlesBy bundles
  cases p.missing l with
  | nil =>
    simp only [styles, scripts]
    rw [← pureResult_bind]
    refine bind_congr fun css => ?_
    rw [← pureResult_bind]
    rfl
  | cons key rest => rfl

/-- With tools that only answer, an entry point is made as it is. -/
theorem entryBy_answering (c : Config) (l : Localizer) (source : Path) :
    entryBy (answering tools) c l source = (entry c tools l source : Renaming m Outcome) := by
  simp only [entryBy, extracted, finished, bundlesBy_answering, entry, page, bind_assoc, pure_bind]

end Answering

end Acting

section Refused

variable {m : Type → Type} [Monad m] {σ : Type} {exec : Execution m σ}

/-- A failure for keys without a value. -/
def IsLack (failure : Failure) : Prop := ∃ keys, failure = .missingLocalization keys

theorem elsewhere_isLack : Elsewhere IsLack where
  store _ := by simp [IsLack]
  notText _ _ := by simp [IsLack]
  unreadable _ := by simp [IsLack]
  unsupported _ _ _ := by simp [IsLack]

/-- Bundles are refused for the keys that the document lacks, before anything is done. -/
theorem bundlesBy_refused (use : ActingTools m) {l : Localizer} {p : Parts}
    (incomplete : p.missing l ≠ []) :
    bundlesBy use l p = throw (.missingLocalization (p.missing l)) := by
  unfold bundlesBy
  split
  · next complete => exact absurd complete incomplete
  · rfl

/-- If no key is missing, the bundles fail for a tool. -/
theorem spares_bundlesBy (use : ActingTools m) {l : Localizer} {p : Parts}
    (complete : p.missing l = []) : (exec.above Tables).Spares IsLack (bundlesBy use l p) := by
  have pressed : ∀ role text source,
      (exec.above Tables).Spares IsLack (compressedBy use role text source) := by
    intro role text source
    unfold compressedBy
    split
    · exact spares_pure _
    · intro s failure s' given
      obtain ⟨answer, _, _, done⟩ := (exec.above Tables).of_bind given
      cases answer with
      | ok code => cases ((exec.above Tables).of_pure done).1
      | error diagnostics =>
        cases ((exec.above Tables).of_pure done).1
        simp [IsLack]
  unfold bundlesBy
  rw [complete]
  exact spares_bind (pressed _ _ _) fun css => spares_last (pressed _ _ _) _

/-- With whatever comes after them that is not refused for keys, the bundles are refused exactly if
the document lacks some key. -/
theorem refused_iff {use : ActingTools m} {l : Localizer} {p : Parts} {α : Type}
    {f : String × String → Renaming m α} (later : ∀ bundled, (exec.above Tables).Spares IsLack
      (f bundled)) {s s' : Tables × σ} {result : Except Failure α}
    (given : (exec.above Tables).gives (bundlesBy use l p >>= f).run s result s') :
    ((∃ keys, result = .error (.missingLocalization keys)) ↔ ∃ key, p.Lacks l key) ∧
      ∀ keys, result = .error (.missingLocalization keys) →
        keys.Pairwise (· < ·) ∧ (∀ key, key ∈ keys ↔ p.Lacks l key) ∧ s' = s := by
  by_cases complete : p.missing l = []
  · have other : ∀ keys, result ≠ .error (.missingLocalization keys) := by
      rintro keys rfl
      exact spares_bind (spares_bundlesBy use complete) later given ⟨keys, rfl⟩
    have none := (missing_nil_iff p l).mp complete
    exact ⟨iff_of_false (fun ⟨keys, refused⟩ => other keys refused)
      fun ⟨key, lacks⟩ => none key lacks, fun keys refused => absurd refused (other keys)⟩
  · rw [bundlesBy_refused use complete] at given
    obtain ⟨rfl, rfl⟩ : result = .error (.missingLocalization (p.missing l)) ∧ s' = s := by
      rcases (exec.above Tables).any_bind given with ⟨bundled, _, refused, _⟩ | ⟨e, refused, same⟩
      · exact ((exec.above Tables).ok_throw refused).elim
      · obtain ⟨failure, rfl⟩ := (exec.above Tables).of_pure refused
        cases failure
        exact ⟨same, rfl⟩
    obtain ⟨key, member⟩ := List.exists_mem_of_ne_nil _ complete
    refine ⟨iff_of_true ⟨_, rfl⟩ ⟨key, (mem_missing p l key).mp member⟩, ?_⟩
    rintro keys ⟨rfl⟩
    exact ⟨Localizer.report_ascending _, mem_missing p l, rfl⟩

variable [FileStore m]

/-- What is left to do with the bundles is not refused for keys. -/
theorem spares_finished (c : Config) (l : Localizer) (source : Path) (p : Parts)
    (css js : String) :
    (exec.above Tables).Spares IsLack (finished c l source p css js : Renaming m Outcome) :=
  spares_bind (spares_markup l p css js) fun _ =>
    spares_publish elsewhere_isLack.store c source _

theorem spares_extracted (c : Context) (source : Path) :
    (exec.above Tables).Spares IsLack (extracted c source : Renaming m Parts) :=
  spares_bind spares_takeReferenced fun _ => spares_parts elsewhere_isLack source

end Refused

section Unnoted

variable {n : Type → Type} [Monad n] [FileStore n] {σ : Type} (exec : Execution n σ)

/-- What leaves a journal as it is. -/
def unnoted : Simulation (StateT Journal n) (StateT Journal n) :=
  (exec.above Journal).keeping (fun s s' => s'.1 = s.1) (fun _ => rfl)
    fun _ _ _ early late => late.trans early

/-- Finding the sources of an entry point only reads: no change is noted. -/
theorem extracted_unnoted {c : Context} {source : Path} {s s' : Tables × (Journal × σ)}
    {result : Except Failure Parts}
    (given : ((exec.above Journal).above Tables).gives
      (extracted c source : Renaming (StateT Journal n) Parts).run s result s') :
    s'.2.1 = s.2.1 := by
  have read : ∀ p, (unnoted exec).rel (FileStore.read p).run (FileStore.read p).run := by
    intro p s a s' given
    obtain ⟨value, between, _, done⟩ := exec.of_bind given
    exact congrArg Prod.snd (exec.of_pure done).1
  have kept := (((unnoted exec).above Tables).failing Failure).of_bind
    (unnoted exec).of_takeReferenced fun _ =>
      Simulation.of_parts (Simulation.of_supply read c.assetDir) source
  exact kept s.1 given

end Unnoted

variable {n : Type → Type} [Monad n] [LawfulMonad n] [FileStore n] {σ : Type}

/-- An entry point whose sources and assets are found is refused for keys without a value exactly if
a placeholder in one of its texts has a key that the dictionary lacks: in a style, in a script, in a
text of the markup or in the value of an attribute. The keys that are named are then all of these,
each once and in ascending order, and the entry point ends where the finding of its sources ended:
no change was asked for, and no tool was called, for a tool that is called may do anything here.

Proof: the parts before the bundles and after them fail for other causes, and the bundles are refused
before the first tool. -/
theorem entry_lacking (exec : Execution n σ) (use : ActingTools (StateT Journal n)) (c : Config)
    (l : Localizer) (source : Path) {s s' : Tables × (Journal × σ)}
    {result : Except Failure Outcome}
    (given : ((exec.above Journal).above Tables).gives (entryBy use c l source).run s result s') :
    (∀ (tools : Toolchain) (tables : Tables) (j : Journal),
      Prod.fst <$> ((entryBy (answering tools) c l source :
        Renaming (StateT Journal n) Outcome).run.run tables).run j =
          (entry c tools l source : Renaming n Outcome).run.run tables) ∧
    ∃ extraction t,
      ((exec.above Journal).above Tables).gives
        (extracted (context c) source : Renaming (StateT Journal n) Parts).run s extraction t ∧
      t.2.1 = s.2.1 ∧
      match extraction with
      | .error failure =>
        result = .error failure ∧ s' = t ∧ ∀ keys, failure ≠ .missingLocalization keys
      | .ok p =>
        ((∃ keys, result = .error (.missingLocalization keys)) ↔ ∃ key, p.Lacks l key) ∧
          ∀ keys, result = .error (.missingLocalization keys) →
            keys.Pairwise (· < ·) ∧ (∀ key, key ∈ keys ↔ p.Lacks l key) ∧ s' = t := by
  refine ⟨fun tools tables j => ?_, ?_⟩
  · rw [entryBy_answering]
    exact Journal.entry_watched c tools l source tables j
  rcases ((exec.above Journal).above Tables).any_bind given with
    ⟨p, t, found, later⟩ | ⟨e, failed, same⟩
  · exact ⟨.ok p, t, found, extracted_unnoted exec found,
      refused_iff (fun bundled => spares_finished c l source p bundled.1 bundled.2) later⟩
  · refine ⟨.error e, s', failed, extracted_unnoted exec failed, same, rfl, ?_⟩
    rintro keys rfl
    exact spares_extracted _ _ failed ⟨keys, rfl⟩

/-- Keys of a script, a style and an attribute, and one with a value, with tools that would delete
the sources. -/
theorem entry_lacking_three :
    let c : Config := { source := ⟨"/site"⟩, destination := ⟨"/out"⟩ }
    let l : Localizer := ⟨some [("d", "x")]⟩
    let store := ({} : Memory).insertFile ⟨"/site/a.html"⟩
      "<style>@namespace '#lang#b#';</style><script>#lang#a#</script><p id=#lang#c#>#lang#d#".toUTF8
    let use : ActingTools (StateT Journal (StateM Memory)) := fun _ _ => do
      let _ ← (FileStore.removeTree ⟨"/site"⟩).run
      pure (.ok "")
    ∃ keys s', (((Execution.ofState Memory).above Journal).above Tables).gives
        (entryBy use c l ⟨"/site/a.html"⟩).run ({}, {}, store)
        (.error (.missingLocalization keys)) s' ∧
      keys.Pairwise (· < ·) ∧ (∀ key, key ∈ keys ↔ key ∈ ["a", "b", "c"]) ∧ s'.2.1.changes = [] := by
  intro c l store use
  let isRead : Except Failure Parts → Bool
    | .ok p => p.texts == ["@namespace \"#lang#b#\";", "#lang#a#", "#lang#c#", "#lang#d#"]
    | .error _ => false
  have read : isRead (((extracted (context c) ⟨"/site/a.html"⟩ :
      Renaming (StateT Journal (StateM Memory)) Parts).run.run {}).run {} store).1.1.1 = true := by
    decide +kernel
  obtain ⟨result, s', given⟩ : ∃ result s',
      (((Execution.ofState Memory).above Journal).above Tables).gives
        (entryBy use c l ⟨"/site/a.html"⟩).run ({}, {}, store) result s' := ⟨_, (_, _, _), rfl⟩
  obtain ⟨_, extraction, t, found, unnoted, outcome⟩ := entry_lacking _ use c l _ given
  have same : (((extracted (context c) ⟨"/site/a.html"⟩ :
      Renaming (StateT Journal (StateM Memory)) Parts).run.run {}).run {} store).1.1.1 = extraction :=
    congrArg (fun ended => ended.1.1.1) found
  rw [same] at read
  cases extraction with
  | error failure => cases read
  | ok p =>
    have texts : p.texts = ["@namespace \"#lang#b#\";", "#lang#a#", "#lang#c#", "#lang#d#"] :=
      eq_of_beq read
    have lacks : ∀ key, p.Lacks l key ↔ key ∈ ["b", "a", "c"] := by
      intro key
      rw [lacks_iff, texts, show (List.flatMap _ _ : List String) = ["b", "a", "c"] by decide +kernel]
    obtain ⟨refused, named⟩ := outcome
    obtain ⟨keys, rfl⟩ := refused.mpr ⟨"a", (lacks "a").mpr (by decide)⟩
    obtain ⟨ascending, exact, rfl⟩ := named keys rfl
    refine ⟨keys, s', given, ascending, fun key => ?_, by rw [unnoted]⟩
    rw [exact, lacks]
    simp only [List.mem_cons, List.not_mem_nil, or_false]
    exact or_left_comm

end Bundle

end Pagefold
