import Mathlib
import Pagefold.Proofs.Bundle.Placement
import Pagefold.Proofs.Bundle.Preparation

/-!
# The files of a run

After a run that succeeds, the files below the destination are the documents of the entry points
and the copies of the assets that they refer to, each once, and there are no others. What is shown
of one entry point is that it adds its document and the assets that are new; a run follows by
induction on the entry points.
-/
namespace Pagefold.Bundle

/-- What is reported about a document. -/
def Document.report (c : Config) (d : Document) : DocumentReport :=
  ⟨c.source.child d.name, c.destination.child d.name, d.page.cssBytes, d.page.jsBytes⟩

/-- Some entry points are published. Their documents and all assets that these refer to are in
place, and the documents are what they come to by all later tables and files. -/
structure Published (c : Config) (tools : Toolchain) (l : Localizer) (start : Memory)
    (documents : List Document) (copies : List Copy) (s : Tables × Memory) : Prop where
  placed : Placed c start documents copies s
  complete : ∀ r ∈ s.1.assets.records, ∃ e ∈ copies, e.record = r
  referenced : ∀ r, r ∈ s.1.assets.records ↔ ∃ d ∈ documents, r ∈ Answer.records d.answers
  settled : ∀ d ∈ documents, ∀ classes assets content, s.1.classes.Within classes →
    s.1.assets.Reaches assets →
    (∀ file bytes, s.2.file? file = some bytes → content file bytes) →
      (page c tools l (c.source.child d.name) : Settled Page) ⟨classes, assets, content⟩ d.answers
        d.page

section Run

variable {c : Config} {tools : Toolchain} {l : Localizer} {start : Memory}
  {documents : List Document} {copies : List Copy} {s : Tables × Memory}

/-- The document of an entry point has the name of the entry point. -/
theorem outputOf_child (c : Config) (name : String) (isName : IsName name) :
    outputOf c (c.source.child name) = c.destination.child name := by
  rw [outputOf, Path.fileName_child _ _ isName]
  rfl

variable (separate : c.Separate)
  (clear : ∀ entry ∈ start.files, entry.1.isBelow c.destination = false)

include separate clear

/-- An entry point adds its document, and the assets that no earlier one referred to. -/
theorem Published.entry (published : Published c tools l start documents copies s) {name : String}
    (isName : IsName name) (new : ∀ d ∈ documents, d.name ≠ name) {made : Page}
    {outcome : Outcome} {between s' : Tables × Memory}
    (making : ((Execution.ofState Memory).above Tables).gives
      (page c tools l (c.source.child name) : Renaming (StateM Memory) Page).run
      ({ s.1 with referenced := [] }, s.2) (.ok made) between)
    (publishing : ((Execution.ofState Memory).above Tables).gives
      (publish c (c.source.child name) made : Renaming (StateM Memory) Outcome).run between
      (.ok outcome) s') :
    ∃ answers more, Published c tools l start (documents ++ [⟨name, made, answers⟩])
        (copies ++ more) s' ∧
      outcome.report = Document.report c ⟨name, made, answers⟩ ∧
      outcome.assetsCopied = more.length := by
  obtain ⟨placed, files, answers, noted, known, added, within, reaches, value⟩ :=
    published.placed.page making
  obtain ⟨written, copied, writing, copying, rfl⟩ := publish_steps publishing
  rw [outputOf_child c name isName] at writing
  obtain ⟨wrote, early⟩ := placed.write separate clear name isName new made answers writing
  obtain ⟨⟨more, placed, count, covered⟩, records, late⟩ :=
    (wrote.of_assets { between.1 with referenced := [] } rfl).copyAll separate clear
      (noted ▸ known) copying
  obtain ⟨classes, claims⟩ := copyAssets_tables copying
  have grown : s.2.files <+: s'.2.files := files ▸ early.trans late
  -- what was read for this document is still there when its assets are copied
  have kept : ∀ {file bytes}, between.2.file? file = some bytes → s'.2.file? file = some bytes :=
    fun found => Memory.file_later _ _ (early.trans late) _ _ found
  refine ⟨answers, more, ⟨placed, ?_, ?_, ?_⟩, by rw [outputOf_child c name isName]; rfl, count⟩
  · intro r member
    rcases added r (records ▸ member) with old | new
    · obtain ⟨e, copied, same⟩ := published.complete r old
      exact ⟨e, List.mem_append_left _ copied, same⟩
    · exact covered r (noted ▸ new)
  · intro r
    have all : r ∈ s'.1.assets.records ↔ r ∈ s.1.assets.records ∨ r ∈ Answer.records answers := by
      rw [records]
      refine ⟨added r, ?_⟩
      rintro (old | new)
      · exact reaches.records.subset old
      · exact known r new
    rw [all, published.referenced r]
    simp [or_and_right, exists_or]
  · intro d member classes' assets content further extended holds
    rcases List.mem_append.mp member with old | last
    · refine published.settled d old classes' assets content ?_
        ((reaches.trans claims).trans extended) fun file bytes found => ?_
      · exact within.trans (classes ▸ further)
      · exact holds file bytes (Memory.file_later _ _ grown _ _ found)
    · rw [List.mem_singleton.mp last]
      have settles := value classes' assets (classes ▸ further) (claims.trans extended)
      exact Settled.widening.of_page (Settled.widening_answers c.assetOutputDir) tools l _ _
        answers made settles content fun file bytes found => holds file bytes (kept found)

/-- The entry points of a run add their documents, and all assets that these refer to.

Proof: by induction on the entry points. The names of the others are still new after each. -/
theorem Published.entries {names : List String} {sources : List Path}
    {made : List (Page × Outcome)} {s' : Tables × Memory}
    (chain : Chain (Execution.ofState Memory) c tools l sources s made s')
    (published : Published c tools l start documents copies s)
    (among : sources = names.map c.source.child) (plain : ∀ name ∈ names, IsName name)
    (apart : names.Nodup) (new : ∀ d ∈ documents, d.name ∉ names) :
    ∃ further more, Published c tools l start (documents ++ further) (copies ++ more) s' ∧
      further.map (·.name) = names ∧ made.map Prod.fst = further.map (·.page) ∧
      made.map (·.2.report) = further.map (·.report c) ∧
      (made.map (·.2.assetsCopied)).sum = more.length := by
  induction chain generalizing names documents copies with
  | done s =>
    obtain rfl : names = [] := List.map_eq_nil_iff.mp among.symm
    exact ⟨[], [], by simpa using published, rfl, rfl, rfl, rfl⟩
  | next source rest page outcome others s between middle s' making publishing _
      inductionHypothesis =>
    cases names with
    | nil => cases among
    | cons name names =>
      obtain ⟨rfl, rfl⟩ := List.cons.inj among
      rw [List.nodup_cons] at apart
      have first : ∀ d ∈ documents, d.name ≠ name := by
        rintro d member rfl
        exact new d member List.mem_cons_self
      obtain ⟨answers, early, published', report, count⟩ :=
        published.entry separate clear (plain name List.mem_cons_self) first making publishing
      obtain ⟨further, late, published'', named, pages, reports, counts⟩ :=
        inductionHypothesis published' rfl
          (fun other member => plain other (List.mem_cons_of_mem _ member)) apart.2 (by
            intro d member
            rcases List.mem_append.mp member with old | last
            · exact fun later => new d old (List.mem_cons_of_mem _ later)
            · rw [List.mem_singleton.mp last]
              exact apart.1)
      refine ⟨⟨name, page, answers⟩ :: further, early ++ late, ?_, ?_, ?_, ?_, ?_⟩
      · simpa using published''
      · rw [List.map_cons, named]
      · rw [List.map_cons, List.map_cons, pages]
      · rw [List.map_cons, List.map_cons, report, reports]
      · rw [List.map_cons, List.sum_cons, count, counts, List.length_append]

end Run

/-- The counts of the entry points add up. -/
theorem counted_assets (outcomes : List Outcome) (classes : Class.Table) :
    (reportOf outcomes classes).assetsCopied = (outcomes.map (·.assetsCopied)).sum := by
  have loop : ∀ n, outcomes.foldl (fun count outcome => count + outcome.assetsCopied) n =
      n + (outcomes.map (·.assetsCopied)).sum := by
    induction outcomes with
    | nil => simp
    | cons outcome rest inductionHypothesis => simp [inductionHypothesis, Nat.add_assoc]
  exact (loop 0).trans (Nat.zero_add _)

end Pagefold.Bundle
