import Mathlib
import Pagefold.Proofs.Settled

/-!
# The documents of a run

A run makes and publishes one document after the other with the same tables. Each document is what
its making comes to with the tables at the end of the run. The names of classes, keyframes and
animations in all documents are therefore written by one map, which the last class table holds,
and this map keeps different names apart as long as the counter of the tokens has not run out.
-/
namespace Pagefold.Bundle

variable {m : Type → Type} [Monad m] {σ : Type} (exec : Execution m σ)

/-- Taking the list of references empties it and changes nothing else. -/
theorem any_takeReferenced {s s' : Tables × σ} {result : Except Failure (List Asset.Record)}
    (given : (exec.above Tables).gives (Renaming.takeReferenced : Renaming m _).run s result s') :
    result = .ok s.1.referenced ∧ s' = ({ s.1 with referenced := [] }, s.2) := by
  have rest := exec.after_get given
  have done := exec.after_set rest
  exact (exec.above Tables).of_pure done

variable [FileStore m]

/-- The documents of some entry points, made and published in turn. The making starts without
references, and the publishing starts where the making ended. -/
inductive Chain (c : Config) (tools : Toolchain) (l : Localizer) :
    List Path → Tables × σ → List (Page × Outcome) → Tables × σ → Prop
  | done (s : Tables × σ) : Chain c tools l [] s [] s
  | next (source : Path) (rest : List Path) (made : Page) (outcome : Outcome)
      (others : List (Page × Outcome)) (s between published s' : Tables × σ) :
      (exec.above Tables).gives (page c tools l source : Renaming m Page).run
        ({ s.1 with referenced := [] }, s.2) (.ok made) between →
      (exec.above Tables).gives (publish c source made : Renaming m Outcome).run between
        (.ok outcome) published →
      Chain c tools l rest published others s' →
      Chain c tools l (source :: rest) s ((made, outcome) :: others) s'

variable {exec} {c : Config} {tools : Toolchain} {l : Localizer}

/-- A run over entry points is such a chain. -/
theorem chain_of_entries {sources : List Path} {outcomes : List Outcome} {s s' : Tables × σ}
    (given : (exec.above Tables).gives (entries c tools l sources : Renaming m _).run s
      (.ok outcomes) s') :
    ∃ made, Chain exec c tools l sources s made s' ∧ outcomes = made.map Prod.snd := by
  induction sources generalizing s outcomes with
  | nil =>
    obtain ⟨rfl, rfl⟩ := (exec.above Tables).ok_pure given
    exact ⟨[], .done _, rfl⟩
  | cons source rest inductionHypothesis =>
    obtain ⟨outcome, published, first, later⟩ := (exec.above Tables).ok_bind given
    obtain ⟨others, last, run, done⟩ := (exec.above Tables).ok_bind later
    obtain ⟨rfl, rfl⟩ := (exec.above Tables).ok_pure done
    obtain ⟨made, chain, rfl⟩ := inductionHypothesis run
    obtain ⟨_, cleared, taken, first⟩ := (exec.above Tables).ok_bind first
    obtain ⟨_, rfl⟩ := any_takeReferenced exec taken
    obtain ⟨here, between, making, publishing⟩ := (exec.above Tables).ok_bind first
    exact ⟨(here, outcome) :: made,
      .next source rest here outcome made s between published s' making publishing chain, rfl⟩

/-- The documents of entry points come from such a chain, which starts with new tables. -/
theorem chain_of_documents {sources : List Path} {start finish : σ} {report : Report}
    (given : exec.gives (documents c tools l sources).run start (.ok report) finish) :
    ∃ tables made, Chain exec c tools l sources ({}, start) made (tables, finish) ∧
      report = reportOf (made.map Prod.snd) tables.classes := by
  obtain ⟨⟨result, tables⟩, last, run, done⟩ := exec.of_bind given
  obtain ⟨answer, rfl⟩ := exec.of_pure done
  cases result with
  | error failure => cases answer
  | ok outcomes =>
    have entered : (exec.above Tables).gives (entries c tools l sources : Renaming m _).run
        ({}, start) (.ok outcomes) (tables, finish) := run
    obtain ⟨made, chain, rfl⟩ := chain_of_entries entered
    exact ⟨tables, made, chain, Except.ok.inj answer⟩

/-- An asset whose copy is claimed is passed over. Any other one is copied and claimed. -/
theorem copyAssets_cons {record : Asset.Record} {rest : List Asset.Record} {copied : Nat}
    {s s' : Tables × σ}
    (given : (exec.above Tables).gives (copyAssets (record :: rest) : Renaming m Nat).run s
      (.ok copied) s') :
    (s.1.assets.claimed.contains record.source = true ∧
      (exec.above Tables).gives (copyAssets rest : Renaming m Nat).run s (.ok copied) s') ∨
    (s.1.assets.claimed.contains record.source = false ∧ ∃ store others,
      exec.gives (FileStore.copy record.source record.destination).run s.2 (.ok ()) store ∧
      (exec.above Tables).gives (copyAssets rest : Renaming m Nat).run
        ({ s.1 with assets := (s.1.assets.claim record).2 }, store) (.ok others) s' ∧
      copied = others + 1) := by
  have later := exec.after_get given
  cases claimed : s.1.assets.claimed.contains record.source with
  | true =>
    have refused : s.1.assets.claim record = (false, s.1.assets) := by
      simp [Asset.Table.claim, claimed]
    rw [refused] at later
    exact Or.inl ⟨rfl, exec.after_set later⟩
  | false =>
    have granted : s.1.assets.claim record = (true, (s.1.assets.claim record).2) := by
      simp [Asset.Table.claim, claimed]
    rw [granted] at later
    obtain ⟨_, between, stored, later⟩ := (exec.above Tables).ok_bind (exec.after_set later)
    obtain ⟨store, rfl, lower⟩ := exec.ok_store stored
    obtain ⟨others, last, run, done⟩ := (exec.above Tables).ok_bind later
    obtain ⟨rfl, rfl⟩ := (exec.above Tables).ok_pure done
    exact Or.inr ⟨rfl, store, others, lower, run, rfl⟩

/-- Copying claims assets and leaves the classes alone. -/
theorem copyAssets_tables {records : List Asset.Record} {copied : Nat} {s s' : Tables × σ}
    (given : (exec.above Tables).gives (copyAssets records : Renaming m Nat).run s (.ok copied)
      s') :
    s'.1.classes = s.1.classes ∧ s.1.assets.Reaches s'.1.assets := by
  induction records generalizing s copied with
  | nil =>
    obtain ⟨_, rfl⟩ := (exec.above Tables).ok_pure given
    exact ⟨rfl, .same⟩
  | cons record rest inductionHypothesis =>
    rcases copyAssets_cons given with ⟨_, later⟩ | ⟨_, store, others, _, later, _⟩
    · exact inductionHypothesis later
    · obtain ⟨classes, reaches⟩ := inductionHypothesis later
      exact ⟨classes, .trans (.claimed _ record .same) reaches⟩

/-- Publishing writes the document and copies the assets that were noted. -/
theorem publish_steps {source : Path} {made : Page} {outcome : Outcome} {s s' : Tables × σ}
    (given : (exec.above Tables).gives (publish c source made : Renaming m Outcome).run s
      (.ok outcome) s') :
    ∃ written copied,
      exec.gives (FileStore.write (outputOf c source) made.html.toUTF8).run s.2 (.ok ()) written ∧
      (exec.above Tables).gives (copyAssets s.1.referenced : Renaming m Nat).run
        ({ s.1 with referenced := [] }, written) (.ok copied) s' ∧
      outcome = ⟨⟨source, outputOf c source, made.cssBytes, made.jsBytes⟩, made.unusedConstants,
        copied⟩ := by
  obtain ⟨_, written, stored, later⟩ := (exec.above Tables).ok_bind given
  obtain ⟨store, rfl, lower⟩ := exec.ok_store stored
  obtain ⟨referenced, taken, asked, later⟩ := (exec.above Tables).ok_bind later
  obtain ⟨same, rfl⟩ := any_takeReferenced exec asked
  cases same
  obtain ⟨copied, last, run, done⟩ := (exec.above Tables).ok_bind later
  obtain ⟨rfl, rfl⟩ := (exec.above Tables).ok_pure done
  exact ⟨store, copied, lower, run, rfl⟩

/-- What holds of a document by the tables at the end holds by all later ones.

Proof: by induction on the entry points. The making of the first document settles at its end, and
everything after it lets the tables grow. -/
theorem chain_settled {content : Path → Bytes → Prop} {sources : List Path}
    {made : List (Page × Outcome)} {s s' : Tables × σ}
    (observes : Observes exec content fun _ => True)
    (chain : Chain exec c tools l sources s made s') :
    (∃ calls, s'.1.classes = (s.1.classes.associateAll calls).2) ∧
      s.1.assets.Reaches s'.1.assets ∧
      ∀ classes assets, s'.1.classes.Within classes → s'.1.assets.Reaches assets →
        ∀ source page outcome, (source, page, outcome) ∈ sources.zip made →
          ∃ answers, (Bundle.page c tools l source : Settled Page)
            ⟨classes, assets, content⟩ answers page := by
  induction chain with
  | done s => exact ⟨⟨[], rfl⟩, .same, by simp⟩
  | next source rest page outcome others s between published s' making publishing _
      inductionHypothesis =>
    obtain ⟨⟨later, last⟩, reached, settled⟩ := inductionHypothesis
    obtain ⟨_, answers, grown, value⟩ :=
      (settling exec c.assetOutputDir content fun _ => True).of_page
        (settling_answers observes) tools l source _ page between making trivial
    obtain ⟨written, copied, _, copying, _⟩ := publish_steps publishing
    obtain ⟨classes, claims⟩ := copyAssets_tables copying
    have within : between.1.classes.Within s'.1.classes := by
      rw [last, ← classes]
      exact Class.Table.within_associateAll _ later
    have reaches : between.1.assets.Reaches s'.1.assets := claims.trans reached
    refine ⟨?_, grown.assets.trans reaches, ?_⟩
    · exact ⟨Answer.calls answers ++ later, by
        rw [last, classes, grown.classes, Class.Table.associateAll_append]⟩
    · intro final assets more extended other made outcome member
      rcases List.mem_cons.mp member with here | there
      · cases here
        exact ⟨answers, value final assets (within.trans more) (reaches.trans extended)⟩
      · exact settled final assets more extended other made outcome there

/-- What the store can give for a file in some state. -/
def Given (exec : Execution m σ) (file : Path) (bytes : Bytes) : Prop :=
  ∃ before after, exec.gives (FileStore.read file).run before (.ok bytes) after

end Pagefold.Bundle
