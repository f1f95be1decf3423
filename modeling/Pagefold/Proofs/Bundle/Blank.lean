import Mathlib
import Pagefold.Proofs.Bundle.Documents
import Pagefold.Proofs.Bundle.Lacking
import Pagefold.Proofs.Html.Pieces
import Pagefold.Proofs.Localization.Joined

/-!
# Blank bundles

A bundle that is blank is given to no tool, and no element is written for it. The sources are joined
before this is looked at, and the separators are part of what is looked at. Those of styles are line
ends, which are blank. Those of scripts hold a semicolon, so two blank scripts make a bundle that is
compiled and written.
-/
namespace Pagefold

/-- Nothing is left of a text without the blanks at its ends if it has nothing but blanks. -/
theorem Text.trim_nil_iff (s : List Char) : trim s = [] ↔ ∀ c ∈ s, isBlank c = true := by
  rw [trim, List.reverse_eq_nil_iff, List.dropWhile_eq_nil_iff]
  constructor
  · intro rest c member
    rw [← List.takeWhile_append_dropWhile (p := isBlank) (l := s)] at member
    rcases List.mem_append.mp member with leading | later
    · exact List.mem_takeWhile_imp leading
    · exact rest c (List.mem_reverse.mpr later)
  · intro all c member
    exact all c ((List.dropWhile_sublist _).mem (List.mem_reverse.mp member))

/-- All characters of joined texts have a property if those of the texts have it, and those of the
separator as well if it is used. -/
theorem Text.forall_intercalate {P : Char → Prop} (separator : List Char) (chunks : List (List Char)) :
    (∀ c ∈ separator.intercalate chunks, P c) ↔
      (∀ chunk ∈ chunks, ∀ c ∈ chunk, P c) ∧ (1 < chunks.length → ∀ c ∈ separator, P c) := by
  induction chunks with
  | nil => simp
  | cons first rest inductionHypothesis =>
    cases rest with
    | nil => simp
    | cons second others =>
      rw [List.intercalate_cons_cons]
      simp only [List.forall_mem_append, inductionHypothesis, List.forall_mem_cons, List.length_cons,
        Nat.lt_add_left_iff_pos, Nat.succ_pos, true_imp_iff]
      constructor
      · rintro ⟨⟨one, marks⟩, more, _⟩
        exact ⟨⟨one, more⟩, marks⟩
      · rintro ⟨⟨one, more⟩, marks⟩
        exact ⟨⟨one, marks⟩, more, fun _ => marks⟩

namespace Tool.Role

/-- The element in which a bundle is written. -/
def element : Tool.Role → String
  | styles => "style"
  | scripts => "script"

/-- The element at whose end a bundle is written. -/
def place : Tool.Role → String
  | styles => "head"
  | scripts => "body"

end Tool.Role

/-- The size of a bundle in a document. -/
def DocumentReport.bytes (report : DocumentReport) : Tool.Role → Nat
  | .styles => report.cssBytes
  | .scripts => report.jsBytes

namespace Html

mutual

/-- No piece opens an element that is taken out. -/
theorem Node.opening_shown {mode : TextMode} {name : String} {attributes : List Attribute} :
    (node : Node) → .opening name attributes ∈ node.pieces mode → isInlined name attributes = false
  | .document children, member => by
    rw [Node.pieces] at member
    exact openingOf_shown children member
  | .doctype _, member => by simp [Node.pieces] at member
  | .text _, member => by simp [Node.pieces] at member
  | .comment _, member => by simp [Node.pieces] at member
  | .element tag others children, member => by
    rw [Node.pieces] at member
    cases inlined : isInlined tag others with
    | true => simp [inlined] at member
    | false =>
      cases empty : children.isEmpty && selfClosing.contains tag with
      | true =>
        simp only [inlined, empty, Bool.false_eq_true, if_false, if_true] at member
        obtain ⟨rfl, rfl⟩ : name = tag ∧ attributes = others := by simpa using member
        exact inlined
      | false =>
        simp only [inlined, empty, Bool.false_eq_true, if_false] at member
        obtain ⟨rfl, rfl⟩ | inner : (name = tag ∧ attributes = others) ∨
            .opening name attributes ∈ piecesOf (mode.inside tag) children := by
          simpa using member
        · exact inlined
        · exact openingOf_shown children inner

/-- No piece opens an element that is taken out. -/
theorem openingOf_shown {mode : TextMode} {name : String} {attributes : List Attribute} :
    (all : List Node) → .opening name attributes ∈ piecesOf mode all →
      isInlined name attributes = false
  | [], member => by simp [piecesOf] at member
  | node :: rest, member => by
    rw [piecesOf, List.mem_append] at member
    rcases member with here | there
    · exact node.opening_shown here
    · exact openingOf_shown rest there

end

/-- A document is written piece by piece, whatever is asked for its tokens. -/
theorem Emitter.writes_of_ok {m : Type → Type} [Monad m] {σ : Type} (exec : Execution m σ)
    (token : String → Renaming m String) (e : Emitter) {pieces : List Piece} {html : String}
    {s s' : Tables × σ}
    (given : (exec.above Tables).gives (writeAll token e pieces).run s (.ok html) s') :
    ∃ parts, html = String.join parts ∧ List.Forall₂ e.Writes parts pieces := by
  induction pieces generalizing s html with
  | nil =>
    obtain ⟨rfl, rfl⟩ := (exec.above Tables).ok_pure given
    exact ⟨[], String.join_nil.symm, .nil⟩
  | cons piece rest inductionHypothesis =>
    obtain ⟨first, between, here, later⟩ := (exec.above Tables).ok_bind given
    obtain ⟨others, last, run, done⟩ := (exec.above Tables).ok_bind later
    obtain ⟨rfl, rfl⟩ := (exec.above Tables).ok_pure done
    obtain ⟨parts, rfl, each⟩ := inductionHypothesis run
    refine ⟨first :: parts, (String.join_cons).symm, .cons ?_ each⟩
    cases piece with
    | opening name attrs =>
      obtain ⟨written, _, _, done⟩ := (exec.above Tables).ok_bind here
      obtain ⟨rfl, _⟩ := (exec.above Tables).ok_pure done
      exact ⟨written, rfl⟩
    | _ => exact ((exec.above Tables).ok_pure here).1

end Html

namespace Bundle

section Chunks

variable (p : Parts) (l : Localizer)

/-- The sources of a bundle. -/
def Parts.chunks : Tool.Role → List String
  | .styles => p.styles
  | .scripts => p.scripts

/-- A bundle before its tool. -/
def Parts.joined : Tool.Role → String
  | .styles => localized l p.joinedStyles
  | .scripts => localized l p.joinedScripts

/-- What the tool of a bundle is asked with. -/
def Parts.asked : Tool.Role → String
  | .styles => p.joined l .styles
  | .scripts => wrapScript (p.joined l .scripts)

/-- All sources of a bundle are blank once they are localized. -/
def Parts.Blank (role : Tool.Role) : Prop :=
  ∀ chunk ∈ p.chunks role, ∀ c ∈ (localized l chunk).toList, Text.isBlank c = true

/-- A bundle is left out: its sources are blank, and scripts have no separator between them. -/
def Parts.LeftOut (role : Tool.Role) : Prop :=
  p.Blank l role ∧ (role = .scripts → p.scripts.length ≤ 1)

theorem isBlank_iff (bundle : String) :
    isBlank bundle = true ↔ ∀ c ∈ bundle.toList, Text.isBlank c = true := by
  rw [isBlank, List.isEmpty_iff, Text.trim_nil_iff]

/-- Joined sources are blank if each of them is, and the separator too if there is one. -/
theorem isBlank_intercalate (separator : String) (chunks : List String) :
    isBlank (separator.intercalate chunks) = true ↔
      (∀ chunk ∈ chunks, ∀ c ∈ chunk.toList, Text.isBlank c = true) ∧
        (1 < chunks.length → isBlank separator = true) := by
  rw [isBlank_iff, isBlank_iff, String.toList_intercalate, Text.forall_intercalate,
    List.forall_mem_map, List.length_map]

/-- A bundle is blank exactly if it is left out. -/
theorem isBlank_joined (role : Tool.Role) : isBlank (p.joined l role) = true ↔ p.LeftOut l role := by
  cases role with
  | styles =>
    rw [Parts.joined, (styles_localized l p).1, isBlank_intercalate, List.forall_mem_map]
    simp [Parts.LeftOut, Parts.Blank, Parts.chunks, show isBlank "\n" = true by decide]
  | scripts =>
    rw [Parts.joined, (scripts_localized l p).1, isBlank_intercalate, List.forall_mem_map]
    simp [Parts.LeftOut, Parts.Blank, Parts.chunks, show isBlank ";\n" = false by decide]

end Chunks

variable {m : Type → Type} [Monad m] {p : Parts} {l : Localizer}

/-- The bundles are made one after the other. -/
theorem bundlesBy_complete (use : ActingTools m) (complete : p.missing l = []) :
    bundlesBy use l p = (do
      let css ← compressedBy use .styles (p.joined l .styles) (p.asked l .styles)
      let js ← compressedBy use .scripts (p.joined l .scripts) (p.asked l .scripts)
      pure (css, js)) := by
  rw [bundlesBy, complete]
  rfl

/-- A bundle that is left out is made without its tool. -/
theorem compressedBy_leftOut (use : ActingTools m) {role : Tool.Role} (leftOut : p.LeftOut l role) :
    compressedBy use role (p.joined l role) (p.asked l role) = pure "" := by
  rw [compressedBy, if_pos ((isBlank_joined p l role).mpr leftOut)]

/-- The tools of bundles that are left out play no part. -/
theorem bundlesBy_leftOut {use other : ActingTools m}
    (agree : ∀ role, ¬ p.LeftOut l role → other role = use role) :
    bundlesBy other l p = bundlesBy use l p := by
  have same : ∀ role, compressedBy other role (p.joined l role) (p.asked l role) =
      compressedBy use role (p.joined l role) (p.asked l role) := by
    intro role
    by_cases leftOut : p.LeftOut l role
    · rw [compressedBy_leftOut other leftOut, compressedBy_leftOut use leftOut]
    · rw [compressedBy, compressedBy, agree role leftOut]
  by_cases complete : p.missing l = []
  · rw [bundlesBy_complete other complete, bundlesBy_complete use complete, same, same]
  · rw [bundlesBy_refused other complete, bundlesBy_refused use complete]

variable {σ : Type} (exec : Execution m σ)

/-- What a bundle comes to: nothing if it is left out, and else what its tool gave for it. -/
structure Made (use : ActingTools m) (p : Parts) (l : Localizer) (role : Tool.Role)
    (bundle : String) : Prop where
  empty : p.LeftOut l role → bundle = ""
  asked : ¬ p.LeftOut l role →
    ∃ before after, exec.gives (use role (p.asked l role)) before (.ok bundle) after

variable {exec} {use : ActingTools m} {s s' : Tables × σ}

theorem made_of_ok {role : Tool.Role} {bundle : String}
    (given : (exec.above Tables).gives
      (compressedBy use role (p.joined l role) (p.asked l role)).run s (.ok bundle) s') :
    Made exec use p l role bundle := by
  by_cases leftOut : p.LeftOut l role
  · rw [compressedBy_leftOut use leftOut] at given
    exact ⟨fun _ => ((exec.above Tables).ok_pure given).1, fun kept => absurd leftOut kept⟩
  · refine ⟨fun out => absurd out leftOut, fun _ => ?_⟩
    rw [compressedBy, if_neg fun blank => leftOut ((isBlank_joined p l role).mp blank)] at given
    obtain ⟨answer, between, asking, done⟩ := (exec.above Tables).of_bind given
    obtain ⟨reply, after, asked, lifted⟩ := exec.of_bind asking
    obtain ⟨same, _⟩ := exec.of_pure lifted
    obtain rfl : answer = reply := congrArg Prod.fst same
    obtain ⟨worded, _⟩ := (exec.above Tables).of_pure done
    cases answer with
    | ok code =>
      cases worded
      exact ⟨s.2, after, asked⟩
    | error diagnostics => cases worded

/-- If bundles are made, each of them is what its sources come to. -/
theorem bundlesBy_made {css js : String}
    (given : (exec.above Tables).gives (bundlesBy use l p).run s (.ok (css, js)) s') :
    Made exec use p l .styles css ∧ Made exec use p l .scripts js := by
  by_cases complete : p.missing l = []
  · rw [bundlesBy_complete use complete] at given
    obtain ⟨styles, between, first, given⟩ := (exec.above Tables).ok_bind given
    obtain ⟨scripts, last, second, done⟩ := (exec.above Tables).ok_bind given
    cases ((exec.above Tables).ok_pure done).1
    exact ⟨made_of_ok first, made_of_ok second⟩
  · rw [bundlesBy_refused use complete] at given
    exact ((exec.above Tables).ok_throw given).elim

variable [FileStore m] {c : Config} {source : Path}

/-- The parts of a document that was written with some bundles. -/
structure Written (exec : Execution m σ) (c : Config) (l : Localizer) (source : Path) (p : Parts)
    (css js : String) (report : DocumentReport) (parts : List String) : Prop where
  stored : ∃ before after,
    exec.gives (FileStore.write (outputOf c source) (String.join parts).toUTF8).run before (.ok ())
      after
  pieces : List.Forall₂
    ({ localizer := l, assets := some p.assets, css := css, js := js } : Html.Emitter).Writes parts
    (p.document.pieces .collapse)
  styles : report.cssBytes = css.utf8ByteSize
  scripts : report.jsBytes = js.utf8ByteSize

/-- What is finished is written with its bundles. -/
theorem finished_written [LawfulMonad m] {css js : String} {outcome : Outcome}
    (given : (exec.above Tables).gives (finished c l source p css js : Renaming m Outcome).run s
      (.ok outcome) s') :
    ∃ parts, Written exec c l source p css js outcome.report parts := by
  obtain ⟨html, between, marking, publishing⟩ := (exec.above Tables).ok_bind given
  rw [markup, Html.Emitter.markup, Html.Emitter.node_pieces] at marking
  obtain ⟨parts, rfl, each⟩ := Html.Emitter.writes_of_ok exec _ _ marking
  obtain ⟨written, _, stored, _, rfl⟩ := publish_steps publishing
  exact ⟨parts, ⟨_, _, stored⟩, each, rfl, rfl⟩

/-- No element for a bundle is in a written document: the markup opens none, and nothing is put where
the bundle would stand. -/
def Bare (role : Tool.Role) (parts : List String) (pieces : List Html.Piece) : Prop :=
  (∀ attributes, .opening role.element attributes ∉ pieces) ∧
    ∀ part, (part, .bundle role.place) ∈ parts.zip pieces → part = ""

/-- An empty bundle has no element in a document. -/
theorem Written.bare (made : Tool.Role → String) {report : DocumentReport} {parts : List String}
    (written : Written exec c l source p (made .styles) (made .scripts) report parts)
    {role : Tool.Role} (empty : made role = "") : Bare role parts (p.document.pieces .collapse) := by
  constructor
  · intro attributes member
    have shown := p.document.opening_shown member
    cases role <;> simp [Html.isInlined, Tool.Role.element] at shown
  · intro part member
    have writes := (List.forall₂_iff_zip.mp written.pieces).2 member
    cases role <;> simpa [Html.Emitter.Writes, Html.Emitter.bundle, Tool.Role.place, empty] using writes

/-- Which bundles of an entry point are left out, once its sources are found.

A bundle of styles is left out exactly if all its sources are blank, a bundle of scripts exactly if
there is at most one source and it is blank. The rest of the entry point is then the same whatever the
tool of the bundle would do. If the entry point succeeds, the size of the bundle is zero and the
document that was written has no element for it. In all other cases the tool was asked for the bundle,
and so it was for two blank scripts. -/
theorem entry_blank [LawfulMonad m] (exec : Execution m σ) (use : ActingTools m) (c : Config) (l : Localizer)
    (source : Path) {s s' : Tables × σ} {result : Except Failure Outcome}
    (given : (exec.above Tables).gives (entryBy use c l source).run s result s') :
    (∀ tools, (entryBy (answering tools) c l source : Renaming m Outcome) =
      entry c tools l source) ∧
    ∃ extraction t,
      (exec.above Tables).gives (extracted (context c) source : Renaming m Parts).run s extraction t ∧
      match extraction with
      | .error failure => result = .error failure ∧ s' = t
      | .ok p =>
        let rest (use : ActingTools m) : Renaming m Outcome :=
          bundlesBy use l p >>= fun made => finished c l source p made.1 made.2
        (exec.above Tables).gives (rest use).run t result s' ∧
        (∀ other, (∀ role, ¬ p.LeftOut l role → other role = use role) → rest other = rest use) ∧
        ∀ outcome, result = .ok outcome →
          ∃ (made : Tool.Role → String) (parts : List String),
            Written exec c l source p (made .styles) (made .scripts) outcome.report parts ∧
            ∀ role,
              (p.LeftOut l role → outcome.report.bytes role = 0 ∧
                Bare role parts (p.document.pieces .collapse)) ∧
              (¬ p.LeftOut l role → ∃ before after,
                exec.gives (use role (p.asked l role)) before (.ok (made role)) after) := by
  refine ⟨fun tools => entryBy_answering tools c l source, ?_⟩
  rcases (exec.above Tables).any_bind given with ⟨p, t, found, later⟩ | ⟨e, failed, same⟩
  · refine ⟨.ok p, t, found, later, fun other agree => ?_, ?_⟩
    · simp only [bundlesBy_leftOut agree]
    · rintro outcome rfl
      obtain ⟨⟨css, js⟩, between, bundling, finishing⟩ := (exec.above Tables).ok_bind later
      obtain ⟨styles, scripts⟩ := bundlesBy_made bundling
      obtain ⟨parts, written⟩ := finished_written finishing
      let made : Tool.Role → String
        | .styles => css
        | .scripts => js
      have each : ∀ role, Made exec use p l role (made role) := by
        rintro (_ | _)
        · exact styles
        · exact scripts
      have sizes : ∀ role, outcome.report.bytes role = (made role).utf8ByteSize := by
        rintro (_ | _)
        · exact written.styles
        · exact written.scripts
      refine ⟨made, parts, written, fun role => ⟨fun leftOut => ⟨?_, ?_⟩, (each role).asked⟩⟩
      · rw [sizes role, (each role).empty leftOut]
        rfl
      · exact written.bare made ((each role).empty leftOut)
  · exact ⟨.error e, s', failed, same, rfl⟩

/-- Two blank styles and one script that is blank once it is localized, with tools that would delete the
sources. -/
theorem entry_blank_three :
    let c : Config := { source := ⟨"/site"⟩, destination := ⟨"/out"⟩ }
    let l : Localizer := ⟨some [("k", " ")]⟩
    let store := (({} : Memory).insertFile ⟨"/out/a.html"⟩ "".toUTF8).insertFile ⟨"/site/a.html"⟩
      "<style> </style><style></style><script>#lang#k#</script>".toUTF8
    let use : ActingTools (StateM Memory) := fun _ _ => do
      let _ ← (FileStore.removeTree ⟨"/site"⟩).run
      pure (.ok "x")
    ∃ outcome s', ((Execution.ofState Memory).above Tables).gives
        (entryBy use c l ⟨"/site/a.html"⟩).run ({}, store) (.ok outcome) s' ∧
      outcome.report.cssBytes = 0 ∧ outcome.report.jsBytes = 0 := by
  intro c l store use
  obtain ⟨outcome, s', given⟩ := Execution.exists_ok_above
    (entryBy use c l ⟨"/site/a.html"⟩ : Renaming (StateM Memory) Outcome) ({}, store)
    (by decide +kernel)
  refine ⟨outcome, s', given, ?_⟩
  obtain ⟨_, extraction, t, found, rest⟩ := entry_blank _ use c l _ given
  let isRead : Except Failure Parts → Bool
    | .ok p => (p.styles, p.scripts) == (["", ""], ["#lang#k#"])
    | .error _ => false
  have read : isRead (((extracted (context c) ⟨"/site/a.html"⟩ :
      Renaming (StateM Memory) Parts).run.run {}).run store).1.1 = true := by
    decide +kernel
  have same : (((extracted (context c) ⟨"/site/a.html"⟩ :
      Renaming (StateM Memory) Parts).run.run {}).run store).1.1 = extraction :=
    congrArg (fun ended => ended.1.1) found
  rw [same] at read
  cases extraction with
  | error failure => cases read
  | ok p =>
    obtain ⟨styles, scripts⟩ := Prod.mk.inj (eq_of_beq read)
    have leftOut : ∀ role, p.LeftOut l role := by
      intro role
      rw [← isBlank_joined]
      cases role with
      | styles =>
        rw [Parts.joined, Parts.joinedStyles, styles]
        decide +kernel
      | scripts =>
        rw [Parts.joined, Parts.joinedScripts, scripts]
        decide +kernel
    obtain ⟨_, _, written⟩ := rest
    obtain ⟨_, _, _, each⟩ := written outcome rfl
    exact ⟨((each .styles).1 (leftOut .styles)).1, ((each .scripts).1 (leftOut .scripts)).1⟩

/-- Two scripts without any text are compiled, and a script element is written for them. -/
theorem blank_scripts_compiled :
    let c : Config := { source := ⟨"/site"⟩, destination := ⟨"/out"⟩ }
    let store := (({} : Memory).insertFile ⟨"/out/i.html"⟩ "".toUTF8).insertFile ⟨"/site/i.html"⟩
      "<script></script><script></script>".toUTF8
    let found := (((extracted (context c) ⟨"/site/i.html"⟩ :
      Renaming (StateM Memory) Parts).run.run {}).run store).1.1.toOption
    let ran (tools : Toolchain) := ((entry c tools {} ⟨"/site/i.html"⟩ :
      Renaming (StateM Memory) Outcome).run.run {}).run store
    found.map (·.scripts) = some ["", ""] ∧
      (ran {}).1.1.toOption.map (·.report.jsBytes) = some 64 ∧
      (ran {}).2.file? ⟨"/out/i.html"⟩ =
        some ("<html><head></head><body><script>(function(window,document)\x7b'use strict';\n;\n\n" ++
          "\x7d)(window,document);</script></body></html>").toUTF8 ∧
      (ran { scripts := fun _ => .error {} }).1.1.toOption.isSome = false := by
  decide +kernel

end Bundle

end Pagefold
