import Mathlib
import Pagefold.Bundle
import Pagefold.Proofs.Renaming.Document

/-!
# The asset attributes of the documents of a run

When the document of an entry point is made, its asset attributes are written by their values in the
source, and the assets that it refers to are those of these values. What placeholders come to plays
no part in it: they are replaced where no file is renamed, and left as they are where one is.
-/
namespace Pagefold.Bundle

variable {m : Type → Type} [Monad m] [FileStore m] {σ : Type} (exec : Execution m σ)
  {c : Config} {tools : Toolchain} {l : Localizer} {source : Path} {s s' : Tables × σ} {made : Page}

/-- The bundles of a document are only made if its markup lacks no key. -/
theorem bundles_complete {p : Parts} {css js : String}
    (made : bundles tools l p = .ok (css, js)) : p.document.missing l = [] := by
  unfold bundles at made
  split at made
  · next complete =>
    exact (List.append_eq_nil_iff.mp (Localizer.report_nil complete)).2
  · cases made

/-- A result that was computed without asking succeeds only if it is a value. -/
theorem ok_result {α : Type} {result : Except Failure α} {a : α}
    (given : (exec.above Tables).gives (Renaming.pureResult result : Renaming m α).run s (.ok a)
      s') : result = .ok a ∧ s' = s := by
  cases result with
  | ok b =>
    obtain ⟨rfl, rfl⟩ := (exec.above Tables).ok_pure given
    exact ⟨rfl, rfl⟩
  | error failure => exact ((exec.above Tables).ok_throw given).elim

/-- A placeholder of a value in the markup has a value, once the bundles of the document are made. -/
theorem bundles_known {p : Parts} {css js element : String} {attributes : List Html.Attribute}
    (made : bundles tools l p = .ok (css, js)) (shown : (element, attributes) ∈ p.document.written)
    {name raw : String} (value : Html.attribute? attributes name = some raw) (key : String)
    (member : .placeholder key ∈ Segment.scan raw.toList) : (l.value? key).isSome = true := by
  obtain ⟨a, found, rfl⟩ := Option.map_eq_some_iff.mp value
  have complete := p.document.known_written (bundles_complete made) _ shown a
    (List.mem_of_find?_eq_some found)
  exact Localizer.known_of_missing complete key member

/-- The steps in which the document of an entry point is made. -/
theorem page_steps
    (given : (exec.above Tables).gives (page c tools l source : Renaming m Page).run s (.ok made)
      s') :
    ∃ text read styles styled scripts scripted forms linked css js,
      (exec.above Tables).gives (Supply.text source : Renaming m String).run s (.ok text) read ∧
      (exec.above Tables).gives (Renaming.styles (context c) (Html.parse text) : Renaming m _).run
        read (.ok styles) styled ∧
      (exec.above Tables).gives (Renaming.scripts (context c) (Html.parse text) : Renaming m _).run
        styled (.ok scripts) scripted ∧
      (exec.above Tables).gives (Renaming.assets (context c) (Html.parse text) : Renaming m _).run
        scripted (.ok forms) linked ∧
      bundles tools l ⟨Html.parse text, styles, scripts, forms⟩ = .ok (css, js) ∧
      (exec.above Tables).gives
        (markup l ⟨Html.parse text, styles, scripts, forms⟩ css js : Renaming m String).run
        linked (.ok made.html) s' := by
  obtain ⟨p, parted, parting, given⟩ := (exec.above Tables).ok_bind given
  obtain ⟨⟨css, js⟩, checked, checking, given⟩ := (exec.above Tables).ok_bind given
  obtain ⟨html, finished, writing, done⟩ := (exec.above Tables).ok_bind given
  obtain ⟨rfl, rfl⟩ := (exec.above Tables).ok_pure done
  obtain ⟨text, read, reading, parting⟩ := (exec.above Tables).ok_bind parting
  obtain ⟨styles, styled, styling, parting⟩ := (exec.above Tables).ok_bind parting
  obtain ⟨scripts, scripted, scripting, parting⟩ := (exec.above Tables).ok_bind parting
  obtain ⟨forms, linked, linking, done⟩ := (exec.above Tables).ok_bind parting
  obtain ⟨rfl, rfl⟩ := (exec.above Tables).ok_pure done
  obtain ⟨bundled, rfl⟩ := ok_result exec checking
  exact ⟨text, read, styles, styled, scripts, scripted, forms, _, css, js, reading, styling,
    scripting, linking, bundled, writing⟩

/-- What the asset attributes of a document are written as.

The attributes are those of the elements that are written, at any depth. By its value in the source,
each is either written as the new form of a link into the source tree, or localized. The records that
the document refers to are those of its styles and those of its links into the source tree.

If the values of the dictionary hold no number signs, then a value with a placeholder that leads into
the source tree is never written as it would be with the placeholder replaced by hand, in this run or
another one, as long as no names hold number signs. If they hold no blanks and the value leads
elsewhere, with its placeholders and without them, then it is written as by hand. -/
theorem page_assets
    (given : (exec.above Tables).gives (page c tools l source : Renaming m Page).run s (.ok made)
      s') :
    ∃ text read styles styled e records,
      (exec.above Tables).gives (Supply.text source : Renaming m String).run s (.ok text) read ∧
      (exec.above Tables).gives (Renaming.styles (context c) (Html.parse text) : Renaming m _).run
        read (.ok styles) styled ∧
      s'.1.referenced = styled.1.referenced ++ records ∧
      e.localizer = l ∧
      (∃ answers, (e.markup (Supply.token · .html) (Html.parse text) : Settled String)
        ⟨s'.1.classes, s'.1.assets, fun _ _ => True⟩ answers made.html) ∧
      (Html.parse text).AssetsWritten (context c) l s'.1.assets e records ∧
      ∀ element attributes, (element, attributes) ∈ (Html.parse text).written →
        ∀ name ∈ Html.assetAttributes element attributes, ∀ raw,
          Html.attribute? attributes name = some raw →
          ∀ written, (context c).Writes l s'.1.assets raw written →
          ∀ others byHand, (context c).Writes l others (l.byHand raw) byHand →
            (l.Unmarked → Link.isLocal raw = true →
              (∃ key, .placeholder key ∈ Segment.scan raw.toList) →
              (∀ r ∈ others.records, '#' ∉ r.name.toList) → byHand ≠ written) ∧
            (l.Dense → Link.isLocal raw = false → Link.isLocal (l.byHand raw) = false →
              l.apply (l.byHand raw).toList = (l.byHand raw).toList → byHand = written) := by
  have observes : Observes exec (fun _ _ => True) fun _ => True := fun _ _ _ _ _ _ => ⟨⟨⟩, ⟨⟩⟩
  have answers : (settling exec (context c).assetDir (fun _ _ => True) fun _ => True).Answers
      (context c).assetDir := settling_answers observes
  obtain ⟨text, read, styles, styled, scripts, scripted, forms, linked, css, js, reading, styling,
    scripting, linking, bundled, writing⟩ := page_steps exec given
  -- Each later part only lets the tables grow, so that its answers hold in the last tables.
  obtain ⟨_, first, scriptGrown, scriptSettles⟩ := Simulation.of_mapM _
    (Simulation.of_scriptSource answers.toReadings) _ _ _ _ scripting ⟨⟩
  obtain ⟨_, second, linkGrown, linkSettles⟩ :=
    Simulation.of_renameAll answers _ _ _ _ _ _ linking ⟨⟩
  obtain ⟨_, third, markupGrown, markupSettles⟩ := Simulation.of_node _ _
    (fun name => answers.token name .html) _ _ _ _ _ writing ⟨⟩
  have scriptRecords : Answer.records first = [] :=
    Settled.unrecorded.of_mapM (Simulation.of_scriptSource Settled.unrecorded_readings) _ _ _ _
      (scriptSettles _ _ (.refl _) .same)
  have settled := markupSettles _ _ (.refl _) .same
  have markupRecords : Answer.records third = [] :=
    Settled.unrecorded.of_node _ (fun name => Settled.unrecorded_readings.token name .html) _ _
      _ _ _ settled
  have noted : s'.1.referenced = styled.1.referenced ++ Answer.records second := by
    rw [markupGrown.noted, linkGrown.noted, scriptGrown.noted, scriptRecords, markupRecords,
      List.append_nil, List.append_nil]
  have values : (Html.parse text).AssetsWritten (context c) l s'.1.assets
      { localizer := l, assets := some forms, css := css, js := js } (Answer.records second) := by
    refine Renaming.assets_written ?_ ?_ (linkSettles _ _ markupGrown.within markupGrown.assets)
    · rfl
    · rfl
  refine ⟨text, read, styles, styled, _, _, reading, styling, noted, rfl, ⟨third, settled⟩,
    values, ?_⟩
  intro element attributes shown name _ raw value written writes others byHand handwritten
  constructor
  · rintro unmarked inside ⟨key, placeholder⟩ plain
    have known := bundles_known bundled shown value key placeholder
    exact writes.apart unmarked inside ⟨key, placeholder, known⟩ plain handwritten
  · intro dense outside outsideByHand replaced
    exact writes.same dense outside outsideByHand replaced handwritten

/-- Of two images, one lies in the source tree. It is copied and its placeholder stays in the
fragment, while the other one is written as by hand. -/
theorem page_assets_fragment :
    let c : Config := { source := ⟨"/site"⟩, destination := ⟨"/out"⟩ }
    let l : Localizer := { dictionary := some [("X", "x")] }
    let markup := "<img src=s.svg##lang#X#><img src=//h/#lang#X#>"
    let store := (({} : Memory).insertFile ⟨"/site/s.svg"⟩ "s".toUTF8).insertFile
      ⟨"/site/i.html"⟩ markup.toUTF8
    ∃ made s', ((Execution.ofState Memory).above Tables).gives
        (page c {} l ⟨"/site/i.html"⟩ : Renaming (StateM Memory) Page).run ({}, store) (.ok made) s' ∧
      ∃ e records, (Html.parse markup).AssetsWritten (context c) l s'.1.assets e records ∧
        records.length = 1 ∧
        ∀ others written byHand,
          ((context c).Writes l s'.1.assets "s.svg##lang#X#" written →
            (context c).Writes l others "s.svg#x" byHand →
            (∀ r ∈ others.records, '#' ∉ r.name.toList) → byHand ≠ written) ∧
          ((context c).Writes l s'.1.assets "//h/#lang#X#" written →
            (context c).Writes l others "//h/x" byHand → byHand = written) := by
  intro c l markup store
  obtain ⟨made, s', given⟩ := Execution.exists_ok_above
    (page c {} l ⟨"/site/i.html"⟩ : Renaming (StateM Memory) Page) ({}, store) (by decide +kernel)
  obtain ⟨text, read, styles, styled, e, records, reading, _, _, _, _, values, compared⟩ :=
    page_assets _ given
  have same : text = markup := by
    have found := congrArg (fun outcome => outcome.1.1.toOption) reading
    have held : (((Supply.text ⟨"/site/i.html"⟩ : Renaming (StateM Memory) String).run.run {}).run
        store).1.1.toOption = some markup := by
      decide +kernel
    exact Option.some.inj (found.symm.trans held)
  rw [same] at values compared
  have only : ∀ key value, l.value? key = some value → value = "x" := by
    intro key value found
    simp only [Localizer.value?, l, Option.bind_some, List.lookup_cons] at found
    split at found
    · exact (Option.some.inj found).symm
    · cases found
  have images : ("img", [⟨"src", "s.svg##lang#X#"⟩]) ∈ (Html.parse markup).written ∧
      ("img", [⟨"src", "//h/#lang#X#"⟩]) ∈ (Html.parse markup).written := by
    decide +kernel
  have links : ((Html.parse markup).assetLinks.filter Link.isLocal).length = 1 := by
    decide +kernel
  have byHands : l.byHand "s.svg##lang#X#" = "s.svg#x" ∧ l.byHand "//h/#lang#X#" = "//h/x" := by
    decide +kernel
  refine ⟨made, s', given, e, records, values, values.records.length_eq.symm.trans links, ?_⟩
  intro others written byHand
  constructor
  · intro writes handwritten plain
    rw [← byHands.1] at handwritten
    have unmarked : l.Unmarked := by
      rintro key value found
      rw [only key value found]
      decide +kernel
    exact (compared "img" _ images.1 "src" (by decide +kernel) _ (by decide +kernel) written writes
      others byHand handwritten).1 unmarked (by decide +kernel) ⟨"X", by decide +kernel⟩ plain
  · intro writes handwritten
    rw [← byHands.2] at handwritten
    have dense : l.Dense := by
      rintro key value found
      rw [only key value found]
      refine ⟨by decide, fun c member => ?_⟩
      obtain rfl : c = 'x' := by simpa using member
      decide
    exact (compared "img" _ images.2 "src" (by decide +kernel) _ (by decide +kernel) written writes
      others byHand handwritten).2 dense (by decide +kernel) (by decide +kernel) (by decide +kernel)

/-- A value that leads to a file keeps its placeholder in the fragment, and a placeholder for the
name of a file is replaced by the name that the file has in the source. By hand, the one is replaced
and the other is renamed, and the file is copied. -/
theorem page_placeholder_kept :
    let c : Config := { source := ⟨"/site"⟩, destination := ⟨"/out"⟩ }
    let l : Localizer := { dictionary := some [("X", "x"), ("L", "s.svg")] }
    let made (value : String) : Option (String × Nat) :=
      let store := (({} : Memory).insertFile ⟨"/site/s.svg"⟩ "s".toUTF8).insertFile
        ⟨"/site/i.html"⟩ ("<img src=" ++ value ++ ">").toUTF8
      let ran := ((page c {} l ⟨"/site/i.html"⟩ : Renaming (StateM Memory) Page).run.run {}).run store
      ran.1.1.toOption.map fun made => (made.html, ran.1.2.referenced.length)
    l.byHand "s.svg##lang#X#" = "s.svg#x" ∧
      made "s.svg##lang#X#" =
        some ("<html><head></head><body><img src=B.svg##lang#X#></body></html>", 1) ∧
      made "s.svg#x" = some ("<html><head></head><body><img src=B.svg#x></body></html>", 1) ∧
    l.byHand "#lang#L#" = "s.svg" ∧
      made "#lang#L#" = some ("<html><head></head><body><img src=s.svg></body></html>", 0) ∧
      made "s.svg" = some ("<html><head></head><body><img src=B.svg></body></html>", 1) := by
  decide +kernel

end Pagefold.Bundle
