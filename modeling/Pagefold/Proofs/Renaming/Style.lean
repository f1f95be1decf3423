import Mathlib
import Pagefold.Proofs.Renaming.Document
import Pagefold.Proofs.Renaming.Names

/-!
# What becomes of a stylesheet

A stylesheet that is accepted is written down with its names replaced by their tokens, and its rules
stay where they are. Which names are replaced is told here for all stylesheets. In the selectors of
style rules, each class becomes its token, whatever it stands in, but the selectors that bound a
scope keep their classes. Keyframes and the references to them are renamed alike, so that a
reference leads to the same keyframes as before. But a value that is not understood, such as one
with a variable in it, keeps the names that stand in it.
-/
namespace Pagefold

namespace Renaming

open Css (Sheet Rule Selector spelled)

variable {m : Type → Type} [Monad m] [FileStore m] {σ : Type} (exec : Execution m σ)
  {c : Context} {source text : String} {file : Option Path} {s s' : Tables × σ}

/-- A stylesheet that is accepted is read, its addresses get their new forms, and its names the
tokens of the tables after it. -/
theorem style_settled
    (given : (exec.above Tables).gives (style c source file : Renaming m String).run s (.ok text)
      s') :
    ∃ sheet renamed first second, Sheet.read? source = some sheet ∧
      s.1.Grows c.assetDir (fun _ _ => True) s'.1 (first ++ second) ∧
      (renameAll c (baseOf c file) [] sheet.urls : Settled _)
        ⟨s'.1.classes, s'.1.assets, fun _ _ => True⟩ first renamed ∧
      Rule.Answered s'.1.classes.written? sheet.inside ∧
      text = (replaceUrls renamed (sheet.rename (spelled s'.1.classes.written?))).text := by
  have observes : Observes exec (fun _ _ => True) fun _ => True := fun _ _ _ _ _ _ => ⟨⟨⟩, ⟨⟩⟩
  obtain ⟨_, answers, grown, settles⟩ :=
    Simulation.of_style (settling_answers observes) source file s text s' given ⟨⟩
  have settled := settles s'.1.classes s'.1.assets (.refl _) .same
  cases read : Sheet.read? source with
  | none =>
    simp only [style, read] at settled
    exact settled.elim
  | some sheet =>
    simp only [style, read] at settled
    obtain ⟨first, second, renamed, rfl, addresses, names, _, out, rfl, named, rfl, rfl⟩ := settled
    obtain ⟨known, rfl⟩ := Settled.names_settled named
    rw [List.append_nil] at grown
    exact ⟨sheet, renamed, first, names, rfl, grown, addresses, Sheet.answered_visits known, rfl⟩

/-- A stylesheet is written with the tokens of the tables after it, in which all its names are known.
Besides the names only addresses change. What was known before is still written alike. -/
theorem style_renamed
    (given : (exec.above Tables).gives (style c source file : Renaming m String).run s (.ok text)
      s') :
    ∃ sheet renamed, Sheet.read? source = some sheet ∧ s.1.classes.Within s'.1.classes ∧
      Rule.Answered s'.1.classes.written? sheet.inside ∧
      text = (replaceUrls renamed (sheet.rename (spelled s'.1.classes.written?))).text := by
  obtain ⟨sheet, renamed, _, _, read, grown, _, answered, written⟩ := style_settled exec given
  exact ⟨sheet, renamed, read, grown.within, answered, written⟩

/-- The stylesheet `out` is another one with its classes replaced, apart from those in the bounds of
scopes. Its rules at all depths, outer ones first, have the selectors of the other one, with the
tokens in the places of the classes. -/
structure ClassesReplaced (token : String → Option String) (sheet out : Sheet) : Prop where
  known : ∀ r ∈ sheet.inside, ∀ selector ∈ r.selectors, ∀ name ∈ selector.classes,
    (token name).isSome
  selectors : out.inside.map (·.selectors) =
    sheet.inside.map fun r => r.selectors.map (Selector.rename (spelled token))
  classes : out.inside.map (fun r => r.selectors.map (·.classes)) =
    sheet.inside.map fun r => r.selectors.map fun selector => selector.classes.map (spelled token)
  bounds : out.inside.map (·.bounds) = sheet.inside.map (·.bounds)

/-- The stylesheet `out` is another one with its keyframes and the references to them replaced.
Values that are not understood and the margins of pages stay as they are. -/
structure KeyframesReplaced (token : String → Option String) (sheet out : Sheet) : Prop where
  known : ∀ name ∈ sheet.targets ++ sheet.references, (token name).isSome
  names : out.inside.map (·.keyframesName?) =
    sheet.inside.map fun r => r.keyframesName?.map (spelled token)
  references : out.inside.map (·.references) =
    sheet.inside.map fun r => r.references.map (spelled token)
  free : out.inside.map (·.free) = sheet.inside.map (·.free)
  margins : out.inside.map (·.margins) = sheet.inside.map (·.margins)

section Written

variable {token : String → Option String} {sheet out : Sheet} (renamed : List (String × String))
  (answered : Rule.Answered token sheet.inside)

include answered

theorem classes_replaced :
    ClassesReplaced token sheet (replaceUrls renamed (sheet.rename (spelled token))) where
  known r inside selector among name stands := by
    refine ((Rule.forall_names r).mp (answered r inside)).1 name ?_
    exact List.mem_flatMap.mpr ⟨selector, among, stands⟩
  selectors := by simp [replaceUrls, Function.comp_def]
  classes := by simp [replaceUrls, Function.comp_def, Selector.classes_rename]
  bounds := by simp [replaceUrls, Function.comp_def]

theorem keyframes_replaced :
    KeyframesReplaced token sheet (replaceUrls renamed (sheet.rename (spelled token))) where
  known name member := by
    rcases List.mem_append.mp member with target | reference
    · obtain ⟨r, inside, named⟩ := List.mem_filterMap.mp target
      exact ((Rule.forall_names r).mp (answered r inside)).2.1 name named
    · obtain ⟨r, inside, refers⟩ := List.mem_flatMap.mp reference
      refine answered r inside name (List.mem_append_right _ refers)
  names := by simp [replaceUrls, Function.comp_def]
  references := by simp [replaceUrls, Function.comp_def]
  free := by simp [replaceUrls, Function.comp_def]
  margins := by simp [replaceUrls, Function.comp_def]

end Written

namespace KeyframesReplaced

variable {token : String → Option String} {sheet out : Sheet}
  (replaced : KeyframesReplaced token sheet out)

include replaced

theorem targets : out.targets = sheet.targets.map (spelled token) := by
  have flat := congrArg List.reduceOption replaced.names
  simpa [Sheet.targets, List.reduceOption, List.filterMap_map, List.map_filterMap,
    Function.comp_def] using flat

theorem all_references : out.references = sheet.references.map (spelled token) := by
  have flat := congrArg List.flatten replaced.references
  simpa [Sheet.references, List.flatMap, List.map_flatten, Function.comp_def] using flat

/-- A reference leads to the same keyframes as before. -/
theorem refers {reference target : Nat} (before : sheet.Refers reference target) :
    out.Refers reference target := by
  obtain ⟨name, refers, named⟩ := before
  refine ⟨spelled token name, ?_, ?_⟩
  · simp [replaced.all_references, refers]
  · simp [replaced.targets, named]

/-- A reference leads to no other keyframes than before if different names have different tokens. -/
theorem refers_only {reference target : Nat}
    (distinct : ∀ a b text, token a = some text → token b = some text → a = b)
    (after : out.Refers reference target) : sheet.Refers reference target := by
  obtain ⟨text, refers, named⟩ := after
  rw [replaced.all_references, List.getElem?_map, Option.map_eq_some_iff] at refers
  rw [replaced.targets, List.getElem?_map, Option.map_eq_some_iff] at named
  obtain ⟨a, first, rfl⟩ := refers
  obtain ⟨b, second, same⟩ := named
  have written : ∀ name, name ∈ sheet.targets ++ sheet.references →
      token name = some (spelled token name) := by
    intro name member
    obtain ⟨text, found⟩ := Option.isSome_iff_exists.mp (replaced.known name member)
    rw [found, Css.spelled_eq found]
  have left := written a (List.mem_append_right _ (List.mem_of_getElem? first))
  have right := written b (List.mem_append_left _ (List.mem_of_getElem? second))
  obtain rfl := distinct a b _ left (same ▸ right)
  exact ⟨a, first, second⟩

end KeyframesReplaced

/-- In each stylesheet that is accepted, all classes in the selectors of style rules are replaced by
their tokens, in rules at any depth and in the arguments of other selectors to any depth. The
selectors that bound a scope are written as they were. -/
theorem style_classes
    (given : (exec.above Tables).gives (style c source file : Renaming m String).run s (.ok text)
      s') :
    ∃ sheet out, Sheet.read? source = some sheet ∧ text = out.text ∧
      ClassesReplaced s'.1.classes.written? sheet out := by
  obtain ⟨sheet, renamed, read, _, answered, written⟩ := style_renamed exec given
  exact ⟨sheet, _, read, written, classes_replaced renamed answered⟩

/-- A class stands in a rule and in the head of a scope. The rule is written with its token. -/
theorem style_classes_scope :
    let source := ".a\x7b\x7d@scope (.a)\x7b\x7d"
    ∃ text s', ((Execution.ofState Memory).above Tables).gives
        (style { root := ⟨"/site"⟩, assetDir := ⟨"/out"⟩ } source none :
          Renaming (StateM Memory) String).run ({}, {}) (.ok text) s' ∧
      ∃ sheet out, Sheet.read? source = some sheet ∧ text = out.text ∧
        ClassesReplaced s'.1.classes.written? sheet out := by
  intro source
  obtain ⟨text, s', given⟩ := Execution.exists_ok_above
    (style { root := ⟨"/site"⟩, assetDir := ⟨"/out"⟩ } source none :
      Renaming (StateM Memory) String) ({}, {}) (by decide +kernel)
  exact ⟨text, s', given, style_classes _ given⟩

/-- The class has a token already. In the rule it is replaced, and in the head of the scope it is
not. -/
theorem style_bounds_kept :
    let source := ".a\x7b\x7d@scope (.a)\x7b\x7d"
    let tables : Tables := { classes := (({} : Class.Table).associate "a" .html).2 }
    ∃ text s', ((Execution.ofState Memory).above Tables).gives
        (style { root := ⟨"/site"⟩, assetDir := ⟨"/out"⟩ } source none :
          Renaming (StateM Memory) String).run (tables, {}) (.ok text) s' ∧
      s'.1.classes.written? "a" = some "_" ∧
      ∃ out : Sheet, text = out.text ∧
        out.inside.map (fun r => r.selectors.map (·.classes)) = [[["_"]], []] ∧
        out.inside.map (fun r => r.bounds.map (·.classes)) = [[], [["a"]]] := by
  intro source tables
  obtain ⟨text, s', given⟩ := Execution.exists_ok_above
    (style { root := ⟨"/site"⟩, assetDir := ⟨"/out"⟩ } source none :
      Renaming (StateM Memory) String) (tables, {}) (by decide +kernel)
  obtain ⟨sheet, renamed, read, within, answered, written⟩ := style_renamed _ given
  have token : s'.1.classes.written? "a" = some "_" :=
    within.written (Class.Table.associate_first "a" .html)
  have replaced := classes_replaced renamed answered
  have views : (Sheet.read? source).map (fun s =>
      (s.inside.map fun r => r.selectors.map (·.classes),
        s.inside.map fun r => r.bounds.map (·.classes))) =
      some ([[["a"]], []], [[], [["a"]]]) := by
    decide +kernel
  rw [read, Option.map_some, Option.some.injEq, Prod.mk.injEq] at views
  refine ⟨text, s', given, token, _, written, ?_, ?_⟩
  · have tokens := congrArg (List.map (List.map (List.map (spelled s'.1.classes.written?)))) views.1
    rw [replaced.classes]
    simpa [Function.comp_def, Css.spelled_eq token] using tokens
  · have bounds := congrArg (List.map (List.map Selector.classes)) replaced.bounds
    rw [List.map_map, List.map_map] at bounds
    exact bounds.trans views.2

/-- In each stylesheet that is accepted, keyframes and the references to them get the same tokens: a
reference leads to the keyframes that it led to before, and to no others as long as the tokens are
numbered. This holds of the values that are understood; others are written as they were. -/
theorem style_keyframes
    (given : (exec.above Tables).gives (style c source file : Renaming m String).run s (.ok text)
      s') :
    ∃ sheet out, Sheet.read? source = some sheet ∧ text = out.text ∧
      KeyframesReplaced s'.1.classes.written? sheet out ∧
      (∀ reference target, sheet.Refers reference target → out.Refers reference target) ∧
      ∀ names, s'.1.classes.Numbered names →
        ∀ reference target, out.Refers reference target → sheet.Refers reference target := by
  obtain ⟨sheet, renamed, read, _, answered, written⟩ := style_renamed exec given
  have replaced := keyframes_replaced renamed answered
  exact ⟨sheet, _, read, written, replaced, fun _ _ => replaced.refers, fun names numbered _ _ =>
    replaced.refers_only fun a b text => numbered.written_injective⟩

/-- Keyframes and a reference to them. The reference leads there before and after. -/
theorem style_keyframes_marked :
    let source := "@keyframes b\x7b\x7dp\x7b-o-animation-name:b\x7d"
    ∃ text s', ((Execution.ofState Memory).above Tables).gives
        (style { root := ⟨"/site"⟩, assetDir := ⟨"/out"⟩ } source none :
          Renaming (StateM Memory) String).run ({}, {}) (.ok text) s' ∧
      ∃ sheet out, Sheet.read? source = some sheet ∧ text = out.text ∧
        KeyframesReplaced s'.1.classes.written? sheet out ∧
        sheet.Refers 0 0 ∧ out.Refers 0 0 := by
  intro source
  obtain ⟨text, s', given⟩ := Execution.exists_ok_above
    (style { root := ⟨"/site"⟩, assetDir := ⟨"/out"⟩ } source none :
      Renaming (StateM Memory) String) ({}, {}) (by decide +kernel)
  obtain ⟨sheet, out, read, written, replaced, kept, _⟩ := style_keyframes _ given
  have views : (Sheet.read? source).map (fun s => (s.targets, s.references)) =
      some (["b"], ["b"]) := by
    decide +kernel
  rw [read, Option.map_some, Option.some.injEq, Prod.mk.injEq] at views
  have refers : sheet.Refers 0 0 := ⟨"b", by simp [views.2], by simp [views.1]⟩
  exact ⟨text, s', given, sheet, out, read, written, replaced, refers, kept 0 0 refers⟩

/-- A value with a variable in it is not understood. It keeps the old name of the keyframes, which
get another one. -/
theorem style_free_kept :
    let source := "@keyframes b\x7b\x7dp\x7b-o-animation-name:b var(--t)\x7d"
    let tables : Tables := { classes := (({} : Class.Table).associate "b" .html).2 }
    ∃ text s', ((Execution.ofState Memory).above Tables).gives
        (style { root := ⟨"/site"⟩, assetDir := ⟨"/out"⟩ } source none :
          Renaming (StateM Memory) String).run (tables, {}) (.ok text) s' ∧
      ∃ out : Sheet, text = out.text ∧ out.targets = ["_"] ∧ out.references = [] ∧
        out.inside.map (fun r => r.free.map fun entry => (entry.1, entry.2.text)) =
          [[], [("-o-animation-name", "b var(--t)")]] := by
  intro source tables
  obtain ⟨text, s', given⟩ := Execution.exists_ok_above
    (style { root := ⟨"/site"⟩, assetDir := ⟨"/out"⟩ } source none :
      Renaming (StateM Memory) String) (tables, {}) (by decide +kernel)
  obtain ⟨sheet, renamed, read, within, answered, written⟩ := style_renamed _ given
  have token : s'.1.classes.written? "b" = some "_" :=
    within.written (Class.Table.associate_first "b" .html)
  have replaced := keyframes_replaced renamed answered
  have views : (Sheet.read? source).map (fun s => (s.targets, s.references,
      s.inside.map fun r => r.free.map fun entry => (entry.1, entry.2.text))) =
      some (["b"], [], [[], [("-o-animation-name", "b var(--t)")]]) := by
    decide +kernel
  rw [read, Option.map_some, Option.some.injEq, Prod.mk.injEq, Prod.mk.injEq] at views
  refine ⟨text, s', given, _, written, ?_, ?_, ?_⟩
  · rw [replaced.targets, views.1, List.map_singleton, Css.spelled_eq token]
  · rw [replaced.all_references, views.2.1, List.map_nil]
  · have free := congrArg (List.map (List.map fun entry => (entry.1, Css.Value.text entry.2)))
      replaced.free
    rw [List.map_map, List.map_map] at free
    exact free.trans views.2.2

/-- What stands for an address that is seen from the directory `base`. If it leads into the source
tree, it is the public form of the record that its file has, which is noted as referred to. Any other
address stands for itself. -/
inductive Readdressed (c : Context) (base : Path) (tables : Tables) : String → String → Prop
  | renamed {link : String} {r : Asset.Record} : Link.isLocal link = true →
      r ∈ tables.referenced → c.recordFrom? tables.assets base link = some r →
      Readdressed c base tables link (c.urlOf link r)
  | kept {link : String} : Link.isLocal link = false → Readdressed c base tables link link

/-- With the new forms that some links have, something stands for each of them. -/
theorem links_readdressed {base : Path} {content : Path → Bytes → Prop} {tables : Tables}
    {links : List String} {renamed : List (String × String)} {answers : List Answer}
    (settled : (renameAll c base [] links : Settled _) ⟨tables.classes, tables.assets, content⟩
      answers renamed)
    (referenced : ∀ r ∈ Answer.records answers, r ∈ tables.referenced) :
    ∀ link ∈ links, Readdressed c base tables link ((renamed.lookup link).getD link) := by
  intro link among
  obtain ⟨added, same, formed, complete⟩ := renameAll_found settled
  rw [List.nil_append] at same
  subst same
  cases form : renamed.lookup link with
  | some url =>
    obtain ⟨before, after, split, _⟩ := List.lookup_eq_some_iff.mp form
    obtain ⟨inside, r, member, record, rfl⟩ := formed link url (by simp [split])
    exact .renamed inside (referenced r member) record
  | none =>
    refine .kept ?_
    by_contra inside
    rw [Bool.not_eq_false] at inside
    have known := complete link among inside
    rw [form] at known
    cases known

/-- The addresses of a stylesheet that is accepted are replaced at one stroke. Each address of the
stylesheet that is written stands for the one at its place in the source: for a link into the source
tree it is the public form of its file, with the fragment of the link, and any other link is kept.
Repeated links stand for one address, and an address that looks like another link of the source is
not replaced again. The names are replaced before, which touches no address. -/
theorem style_urls
    (given : (exec.above Tables).gives (style c source file : Renaming m String).run s (.ok text)
      s') :
    ∃ sheet out form, Sheet.read? source = some sheet ∧ text = out.text ∧
      out = (sheet.rename (spelled s'.1.classes.written?)).mapUrls form ∧
      (sheet.rename (spelled s'.1.classes.written?)).urls = sheet.urls ∧
      out.urls = sheet.urls.map form ∧
      ∀ link ∈ sheet.urls, Readdressed c (baseOf c file) s'.1 link (form link) := by
  obtain ⟨sheet, renamed, first, second, read, grown, addresses, _, written⟩ :=
    style_settled exec given
  have referenced : ∀ r ∈ Answer.records first, r ∈ s'.1.referenced := by
    intro r member
    rw [grown.noted, Answer.records_append]
    exact List.mem_append_right _ (List.mem_append_left _ member)
  refine ⟨sheet, _, fun link => (renamed.lookup link).getD link, read, written, rfl,
    sheet.urls_rename _, ?_, links_readdressed addresses referenced⟩
  rw [replaceUrls, Sheet.urls_mapUrls, Sheet.urls_rename]

/-- A repeated link to one file, and between its two places a link to another file that is called what
the first one is renamed to. -/
theorem style_urls_crossed :
    let c : Context := { root := ⟨"/s"⟩, assetDir := ⟨"/o"⟩ }
    let store :=
      (({} : Memory).insertFile ⟨"/s/a"⟩ "x".toUTF8).insertFile ⟨"/s/L"⟩ "y".toUTF8
    ∃ text s', ((Execution.ofState Memory).above Tables).gives
        (style c "@x url(a) url(L) url(a);" none : Renaming (StateM Memory) String).run ({}, store)
        (.ok text) s' ∧
      ∃ out : Sheet, text = out.text ∧ out.urls = ["L", "o", "L"] := by
  intro c store
  obtain ⟨text, s', given⟩ := Execution.exists_ok_above
    (style c "@x url(a) url(L) url(a);" none : Renaming (StateM Memory) String) ({}, store)
    (by decide +kernel)
  obtain ⟨sheet, out, form, read, written, _, _, urls, formed⟩ := style_urls _ given
  have views : (Sheet.read? "@x url(a) url(L) url(a);").map Sheet.urls = some ["a", "L", "a"] := by
    decide +kernel
  rw [read, Option.map_some, Option.some.injEq] at views
  have ran : ((style c "@x url(a) url(L) url(a);" none :
      Renaming (StateM Memory) String).run.run {}).run store = ((.ok text, s'.1), s'.2) := given
  have tables : (((style c "@x url(a) url(L) url(a);" none :
      Renaming (StateM Memory) String).run.run {}).run store).1.2 = s'.1 := by rw [ran]
  have names : ∀ entry ∈ [("a", "L"), ("L", "o")], Link.isLocal entry.1 = true ∧
      entry.1 ∈ ["a", "L", "a"] ∧
      (c.recordFrom? s'.1.assets c.root entry.1).map (c.urlOf entry.1) = some entry.2 := by
    rw [← tables]
    decide +kernel
  have stands : ∀ entry ∈ [("a", "L"), ("L", "o")], form entry.1 = entry.2 := by
    intro entry member
    obtain ⟨inside, among, found⟩ := names entry member
    have replaced := formed entry.1 (views ▸ among)
    generalize form entry.1 = new at replaced ⊢
    cases replaced with
    | renamed _ _ record =>
      have same : c.recordFrom? s'.1.assets c.root entry.1 = some _ := record
      rw [same] at found
      exact Option.some.inj found
    | kept outside =>
      rw [inside] at outside
      cases outside
  refine ⟨text, s', given, out, written, ?_⟩
  have first := stands ("a", "L") (by decide)
  have second := stands ("L", "o") (by decide)
  simp only at first second
  rw [urls, views, List.map_cons, List.map_cons, List.map_cons, List.map_nil, first, second]

end Renaming

end Pagefold
