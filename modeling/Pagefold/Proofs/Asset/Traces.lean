import Mathlib
import Pagefold.Proofs.Asset.Table
import Pagefold.Proofs.Simulation.Store
import Pagefold.Proofs.Store.Cached

/-!
# Failed calls leave no trace

A table is used together with its store: files are associated, records are looked up, listed and
claimed, and in between the store is changed, through its operations or from outside. If the calls
that failed are left out, everything else is answered as before. So a file that could not be read
has no record, takes no name and is not remembered by a cache, and when it can be read later, its
name is the one that it would have got without the failure.

A failed call does count as a read of the store. Counts matter to no operation, and that is all in
which two stores can differ after such uses.
-/
namespace Pagefold.Asset

/-- Something is put into a store in memory from outside, or a path of it is marked. -/
inductive Placing
  | file (p : Path) (content : Bytes)
  | dir (p : Path)
  | readOnly (p : Path)
  | unlistable (p : Path)

/-- The store afterwards. -/
def Placing.apply : Placing → Memory → Memory
  | file p content, s => s.insertFile p content
  | dir p, s => s.insertDir p
  | readOnly p, s => s.setReadOnly p
  | unlistable p, s => s.setUnlistable p

/-- Carries it out on a store in memory. -/
def Placing.direct (placing : Placing) : StateM Memory Unit := modify placing.apply

/-- Carries it out below a cache, which does not notice. -/
def Placing.below (placing : Placing) : StateT Cache (StateM Memory) Unit :=
  StateT.lift placing.direct

/-- A use of a table, or of the store below it. -/
inductive Use
  | associate (url : String) (dir : Path)
  | get (url : String)
  | claim (record : Record)
  | records
  | size
  | store (operation : Operation)
  | place (placing : Placing)

/-- What a use is answered. -/
inductive Outcome
  | associated (answer : Except StoreError Record)
  | found (record : Option Record)
  | granted (first : Bool)
  | listed (records : List Record)
  | counted (number : Nat)
  | replied (reply : Reply)
  | placed

/-- The call of a file failed. -/
def Outcome.failed : Outcome → Bool
  | associated (.error _) => true
  | _ => false

section Uses

variable {m : Type → Type} [Monad m] [FileStore m] (place : Placing → m Unit)

/-- What a use of the table is answered, and the table after it. Calls that fail leave the table
as it is. -/
def Use.perform (t : Table) : Use → m (Outcome × Table)
  | .associate url dir => do
    match ← (t.associate url dir).run with
    | .ok (record, next) => pure (.associated (.ok record), next)
    | .error failure => pure (.associated (.error failure), t)
  | .get url => pure (.found (t.get? url), t)
  | .claim record => pure (.granted (t.claim record).1, (t.claim record).2)
  | .records => pure (.listed t.sorted, t)
  | .size => pure (.counted t.size, t)
  | .store operation => do pure (.replied (← operation.perform), t)
  | .place placing => do
    place placing
    pure (.placed, t)

/-- Uses one after the other. -/
def Use.performAll (t : Table) : List Use → m (List Outcome × Table)
  | [] => pure ([], t)
  | use :: rest => do
    let (outcome, next) ← use.perform place t
    let (outcomes, last) ← performAll next rest
    pure (outcome :: outcomes, last)

end Uses

/-- The uses without the calls that failed. -/
def Use.kept (uses : List Use) (outcomes : List Outcome) : List Use :=
  ((uses.zip outcomes).filter (!·.2.failed)).map Prod.fst

section Related

variable {first second : Type → Type} [Monad first] [Monad second] {sim : Simulation first second}

/-- An action is related with what it gives in another form. -/
theorem of_map [LawfulMonad first] [LawfulMonad second] {α β : Type} {x : first α} {y : second α}
    (related : sim.rel x y) (f : α → β) : sim.rel (f <$> x) (f <$> y) := by
  rw [map_eq_pure_bind, map_eq_pure_bind]
  exact sim.of_last related f

section Remembering

open Cached

theorem of_cache :
    ((sim.above Cache).failing StoreError).rel
      (get : ExceptT StoreError (StateT Cache first) Cache)
      (get : ExceptT StoreError (StateT Cache second) Cache) := fun c =>
  sim.of_bind (sim.of_pure (c, c)) fun found => sim.of_pure (Except.ok found.1, found.2)

theorem of_modify (f : Cache → Cache) :
    ((sim.above Cache).failing StoreError).rel
      (modify f : ExceptT StoreError (StateT Cache first) PUnit)
      (modify f : ExceptT StoreError (StateT Cache second) PUnit) := fun c =>
  sim.of_bind (sim.of_pure (PUnit.unit, f c)) fun found => sim.of_pure (Except.ok found.1, found.2)

variable {α : Type}

theorem of_below {x : ExceptT StoreError first α} {y : ExceptT StoreError second α}
    (related : sim.rel x.run y.run) :
    ((sim.above Cache).failing StoreError).rel (below x) (below y) := fun c =>
  sim.of_bind related fun result => sim.of_pure (result, c)

theorem of_remembering {x : ExceptT StoreError first α} {y : ExceptT StoreError second α}
    (p : Path) (slots : Cache → List (Path × α)) (keep : List (Path × α) → Cache → Cache)
    (related : sim.rel x.run y.run) :
    ((sim.above Cache).failing StoreError).rel (remembering p slots keep x)
      (remembering p slots keep y) := by
  let above := (sim.above Cache).failing StoreError
  refine above.of_bind of_cache fun c => ?_
  split
  · exact above.of_pure _
  · exact above.of_bind (of_below related) fun found => above.of_last (of_modify _) fun _ => found

theorem of_changing {x : ExceptT StoreError first Unit} {y : ExceptT StoreError second Unit}
    (touched : Cache → Cache) (related : sim.rel x.run y.run) :
    ((sim.above Cache).failing StoreError).rel (changing x touched) (changing y touched) :=
  ((sim.above Cache).failing StoreError).of_bind (of_below related) fun _ => of_modify touched

/-- Caches above related stores are related. -/
theorem of_cached [FileStore first] [FileStore second] (operations : sim.Operations) :
    (sim.above Cache).Operations where
  workingDir c := sim.of_bind operations.workingDir fun found => sim.of_pure (found, c)
  entry p := of_remembering p _ _ (operations.entry p)
  hasEntry p := by
    refine (sim.above Cache).of_bind (fun c => sim.of_pure (c, c)) fun c => ?_
    split
    · exact (sim.above Cache).of_pure true
    · exact fun c => sim.of_bind (operations.hasEntry p) fun found => sim.of_pure (found, c)
  allows p access c := sim.of_bind (operations.allows p access) fun found => sim.of_pure (found, c)
  list p := of_remembering p _ _ (operations.list p)
  read p := of_remembering p _ _ (operations.read p)
  write p content := of_changing _ (operations.write p content)
  createDir p all := of_changing _ (operations.createDir p all)
  removeTree p := of_changing _ (operations.removeTree p)
  copy source target := of_changing _ (operations.copy source target)

end Remembering

variable [FileStore first] [FileStore second]

/-- Operations of related stores are related with their replies. -/
theorem of_operation [LawfulMonad first] [LawfulMonad second] (operations : sim.Operations)
    (operation : Operation) :
    sim.rel (operation.perform : first Reply) (operation.perform : second Reply) := by
  cases operation with
  | read p => exact of_map (operations.read p) _
  | write p content => exact of_map (operations.write p content) _
  | entry p => exact of_map (operations.entry p) _
  | hasEntry p => exact of_map (operations.hasEntry p) _
  | allows p access => exact of_map (operations.allows p access) _
  | createDir p above => exact of_map (operations.createDir p above) _
  | removeTree p => exact of_map (operations.removeTree p) _
  | list p => exact of_map (operations.list p) _
  | copy source target => exact of_map (operations.copy source target) _

/-- A use is answered alike over related stores. -/
theorem Use.related [LawfulMonad first] [LawfulMonad second] (operations : sim.Operations)
    {place : Placing → first Unit} {place' : Placing → second Unit}
    (placed : ∀ placing, sim.rel (place placing) (place' placing)) (t : Table) (use : Use) :
    sim.rel (use.perform place t) (use.perform place' t) := by
  cases use with
  | associate url dir =>
    refine sim.of_bind (Simulation.of_associate operations.read t url dir) fun result => ?_
    cases result with
    | ok answer => exact sim.of_pure _
    | error failure => exact sim.of_pure _
  | store operation => exact sim.of_last (of_operation operations operation) _
  | place placing => exact sim.of_last (placed placing) _
  | get url => exact sim.of_pure _
  | claim record => exact sim.of_pure _
  | records => exact sim.of_pure _
  | size => exact sim.of_pure _

end Related

/-- Actions of two stores in memory that differ in counts of reads give the same, and stores that
differ in counts again. -/
def counting : Simulation (StateM Memory) (StateM Memory) where
  rel x y := ∀ (s : Memory) (reads : List (Path × Nat)), ∃ counts,
    y.run { s with reads } = ((x.run s).1, { (x.run s).2 with reads := counts })
  of_pure a s reads := ⟨reads, rfl⟩
  of_bind {_ _ x y f g} first second s reads := by
    obtain ⟨between, early⟩ := first s reads
    obtain ⟨counts, late⟩ := second (x.run s).1 (x.run s).2 between
    refine ⟨counts, ?_⟩
    change (g (y.run { s with reads }).1).run (y.run { s with reads }).2 = _
    rw [early]
    exact late

/-- Counts of reads matter to no operation. -/
theorem counting_operations : counting.Operations where
  workingDir s reads := ⟨reads, rfl⟩
  entry p s reads := ⟨reads, s.entry_counted reads p⟩
  hasEntry p s reads := ⟨reads, rfl⟩
  allows p access s reads := ⟨reads, by cases access <;> rfl⟩
  list p s reads := by
    have left : (Memory.list p s).2 = s := by
      unfold Memory.list
      split <;> [rfl; split <;> rfl]
    refine ⟨reads, ?_⟩
    change Memory.list p { s with reads } =
      ((Memory.list p s).1, { (Memory.list p s).2 with reads })
    rw [s.list_counted reads p, left]
  read p s reads := by
    obtain ⟨own, alone⟩ := s.read_counted s.reads p
    obtain ⟨counts, given⟩ := s.read_counted reads p
    refine ⟨counts, given.trans ?_⟩
    change _ = ((Memory.read p s).1, { (Memory.read p s).2 with reads := counts })
    rw [show Memory.read p s = ((Memory.read p s).1, { s with reads := own }) from alone]
  write p content s reads := ⟨reads, s.write_counted reads p content⟩
  createDir p all s reads := ⟨reads, s.createDir_counted reads p all⟩
  removeTree p s reads := ⟨reads, s.removeTree_counted reads p⟩
  copy source target s reads := s.copy_counted reads source target

/-- How the actions of a monad run, each to one result. -/
structure Running (m : Type → Type) [Monad m] (σ : Type) where
  run : {α : Type} → m α → σ → α × σ
  run_pure : ∀ {α : Type} (a : α) (s : σ), run (pure a) s = (a, s)
  run_bind : ∀ {α β : Type} (x : m α) (f : α → m β) (s : σ),
    run (x >>= f) s = run (f (run x s).1) (run x s).2

namespace Running

/-- Over a store in memory. -/
def direct : Running (StateM Memory) Memory where
  run x s := x.run s
  run_pure _ _ := rfl
  run_bind _ _ _ := rfl

/-- Through a cache above a store in memory. -/
def cached : Running (StateT Cache (StateM Memory)) (Cache × Memory) where
  run x s := (((x.run s.1).run s.2).1.1, ((x.run s.1).run s.2).1.2, ((x.run s.1).run s.2).2)
  run_pure _ _ := rfl
  run_bind _ _ _ := rfl

variable {m : Type → Type} [Monad m] [FileStore m] {σ : Type} (runs : Running m σ)
  {place : Placing → m Unit} {R : σ → σ → Prop}

theorem performAll_cons (t : Table) (use : Use) (rest : List Use) (s : σ) :
    let here := runs.run (use.perform place t) s
    let later := runs.run (Use.performAll place here.1.2 rest) here.2
    runs.run (Use.performAll place t (use :: rest)) s =
      ((here.1.1 :: later.1.1, later.1.2), later.2) := by
  simp only [Use.performAll, runs.run_bind, runs.run_pure]

/-- What a call makes of what was read for it. -/
def made (t : Table) (source dir : Path) : Except StoreError Bytes → Outcome × Table
  | .ok content =>
    (.associated (.ok (t.add source dir content).1), (t.add source dir content).2)
  | .error failure => (.associated (.error failure), t)

/-- A call of a file without a record is its reading and an answer to what was read. -/
theorem perform_unknown {t : Table} {url : String} (unknown : t.find? (Table.sourceOf url) = none)
    (dir : Path) {s s' : σ} {result : Except StoreError Bytes}
    (read : runs.run (FileStore.read (Table.sourceOf url) : ExceptT _ m _).run s = (result, s')) :
    runs.run (Use.perform place t (.associate url dir)) s =
      (made t (Table.sourceOf url) dir result, s') := by
  have asked : (t.associate url dir : ExceptT StoreError m _).run =
      (FileStore.read (Table.sourceOf url) : ExceptT _ m _).run >>=
        ExceptT.bindCont fun content => pure (t.add (Table.sourceOf url) dir content) := by
    rw [Table.associate, unknown]
    rfl
  rw [Use.perform, asked, runs.run_bind, runs.run_bind, read]
  cases result with
  | ok content =>
    have given : runs.run (ExceptT.bindCont
        (fun content => (pure (t.add (Table.sourceOf url) dir content) : ExceptT StoreError m _))
        (Except.ok content)) s' = (.ok (t.add (Table.sourceOf url) dir content), s') :=
      runs.run_pure _ _
    rw [given]
    exact runs.run_pure _ _
  | error failure =>
    have failed : runs.run (ExceptT.bindCont
        (fun content => (pure (t.add (Table.sourceOf url) dir content) : ExceptT StoreError m _))
        (Except.error failure)) s' = (.error failure, s') :=
      runs.run_pure _ _
    rw [failed]
    exact runs.run_pure _ _

/-- A call of a file with a record is answered with it. -/
theorem perform_known {t : Table} {url : String} {record : Record}
    (known : t.find? (Table.sourceOf url) = some record) (dir : Path) (s : σ) :
    runs.run (Use.perform place t (.associate url dir)) s =
      ((.associated (.ok record), t), s) := by
  rw [Use.perform, Table.associate_known t url dir record known, runs.run_bind,
    show (pure (record, t) : ExceptT StoreError m _).run = pure (Except.ok (record, t)) from rfl,
    runs.run_pure]
  exact runs.run_pure _ _

/-- A call that failed leaves the table as it was, and what a failed read leaves of the state. -/
theorem failed_left (unread : ∀ p s e, (runs.run (FileStore.read p : ExceptT _ m _).run s).1 =
      .error e → ∀ u, R s u → R (runs.run (FileStore.read p : ExceptT _ m _).run s).2 u)
    (t : Table) (use : Use) (s : σ)
    (failed : (runs.run (use.perform place t) s).1.1.failed = true) :
    (runs.run (use.perform place t) s).1.2 = t ∧
      ∀ u, R s u → R (runs.run (use.perform place t) s).2 u := by
  cases use with
  | associate url dir =>
    cases known : t.find? (Table.sourceOf url) with
    | some record =>
      rw [runs.perform_known known] at failed
      cases failed
    | none =>
      rcases read : runs.run (FileStore.read (Table.sourceOf url) : ExceptT _ m _).run s with
        ⟨result, s'⟩
      rw [runs.perform_unknown known dir read] at failed ⊢
      cases result with
      | ok content => cases failed
      | error failure =>
        have left := unread (Table.sourceOf url) s failure (congrArg Prod.fst read)
        rw [read] at left
        exact ⟨rfl, left⟩
  | get url | claim record | records | size =>
    rw [Use.perform, runs.run_pure] at failed
    cases failed
  | store operation | place placing =>
    rw [Use.perform, runs.run_bind, runs.run_pure] at failed
    cases failed

variable (place) in
/-- Without the calls that failed, uses have the other outcomes, and the table after them is the
same.

Proof: by induction on the uses, from two states that are alike. A use that is kept has the same
outcome from both. A call that failed left the table as it was, and the state alike. -/
theorem performAll_kept (unread : ∀ p s e, (runs.run (FileStore.read p : ExceptT _ m _).run s).1 =
      .error e → ∀ u, R s u → R (runs.run (FileStore.read p : ExceptT _ m _).run s).2 u)
    (alike : ∀ (use : Use) (t : Table) (s u : σ), R s u →
      (runs.run (use.perform place t) u).1 = (runs.run (use.perform place t) s).1 ∧
        R (runs.run (use.perform place t) s).2 (runs.run (use.perform place t) u).2)
    (t : Table) (uses : List Use) (s u : σ) (related : R s u) :
    let full := runs.run (Use.performAll place t uses) s
    let rest := runs.run (Use.performAll place t (Use.kept uses full.1.1)) u
    rest.1.1 = full.1.1.filter (!·.failed) ∧ rest.1.2 = full.1.2 ∧ R full.2 rest.2 := by
  induction uses generalizing t s u with
  | nil =>
    have none : ∀ s, runs.run (Use.performAll place t []) s = (([], t), s) := runs.run_pure _
    have empty : ∀ outcomes, Use.kept [] outcomes = [] := fun _ => rfl
    dsimp only
    rw [empty, none, none]
    exact ⟨rfl, rfl, related⟩
  | cons use later inductionHypothesis =>
    rw [runs.performAll_cons]
    dsimp only
    cases failed : (runs.run (use.perform place t) s).1.1.failed with
    | true =>
      obtain ⟨same, left⟩ := runs.failed_left unread t use s failed
      have others := inductionHypothesis t _ u (left u related)
      rw [same]
      simpa [Use.kept, failed] using others
    | false =>
      obtain ⟨same, after⟩ := alike use t s u related
      have others := inductionHypothesis (runs.run (use.perform place t) s).1.2 _ _ after
      have split : ∀ outcomes, Use.kept (use :: later)
          ((runs.run (use.perform place t) s).1.1 :: outcomes) =
            use :: Use.kept later outcomes := by
        intro outcomes
        simp [Use.kept, failed]
      rw [split, runs.performAll_cons, same]
      dsimp only
      rw [List.filter_cons, failed]
      exact ⟨congrArg _ others.1, others.2⟩

end Running

/-- What is put into place does not depend on counts of reads. -/
theorem counting_placed (placing : Placing) : counting.rel placing.direct placing.direct := by
  intro s reads
  refine ⟨reads, ?_⟩
  cases placing <;> rfl

/-- Two stores are the same but for the counts of reads. -/
def SameButCounts (s u : Memory) : Prop := ∃ reads, u = { s with reads }

/-- The same cache is above stores that are the same but for the counts of reads. -/
def SameBelow (a b : Cache × Memory) : Prop := b.1 = a.1 ∧ SameButCounts a.2 b.2

/-- Reading changes a store in memory by counts at most. -/
theorem read_left (p : Path) {s u : Memory} (same : SameButCounts s u) :
    SameButCounts (Memory.read p s).2 u := by
  obtain ⟨reads, rfl⟩ := same
  obtain ⟨own, alone⟩ := s.read_counted s.reads p
  have left : (Memory.read p s).2 = { s with reads := own } := (Prod.ext_iff.mp alone).2
  exact ⟨reads, by rw [left]⟩

/-- A read that failed leaves a cache as it was. -/
theorem cached_read_left (p : Path) (a b : Cache × Memory) (e : StoreError)
    (failed : (Running.cached.run
      (FileStore.read p : ExceptT StoreError (StateT Cache (StateM Memory)) _).run a).1 = .error e)
    (same : SameBelow a b) :
    SameBelow (Running.cached.run
      (FileStore.read p : ExceptT StoreError (StateT Cache (StateM Memory)) _).run a).2 b := by
  obtain ⟨c, s⟩ := a
  have ran : ((FileStore.read p : ExceptT StoreError (StateT Cache (StateM Memory)) _).run.run
      c).run s = _ :=
    Mirrors.remembering_run p (·.contents) (fun slots c => { c with contents := slots })
      (FileStore.read p) c s
  cases found : c.contents.lookup p with
  | some known =>
    simp only [Running.cached, ran, found] at failed
    cases failed
  | none =>
    rcases read : (FileStore.read p : ExceptT StoreError (StateM Memory) _).run.run s with
      ⟨answer, s'⟩
    simp only [Running.cached, ran, found, read] at failed ⊢
    cases answer with
    | ok content => cases failed
    | error e =>
      have left := read_left p same.2
      rw [show Memory.read p s = (.error e, s') from read] at left
      exact ⟨same.1, left⟩

/-- Calls that failed leave no trace, neither in the table nor in a cache, whatever table, store and
cache the uses begin with. Without these calls, all other uses are answered as before, the table is
the same at the end, and so are the cache and the store, but for the counts of reads.

Proof: two stores that differ in counts of reads answer every use alike, also below a cache. A call
fails because its file could not be read. Such a read changes nothing but a count, and the cache
remembers only what was read. -/
theorem performAll_without_failed (t : Table) (uses : List Use) :
    (∀ s : Memory,
      let full := (Use.performAll Placing.direct t uses).run s
      let rest := (Use.performAll Placing.direct t (Use.kept uses full.1.1)).run s
      rest.1.1 = full.1.1.filter (!·.failed) ∧ rest.1.2 = full.1.2 ∧
        SameButCounts full.2 rest.2) ∧
    ∀ (c : Cache) (s : Memory),
      let full := ((Use.performAll Placing.below t uses).run c).run s
      let rest := ((Use.performAll Placing.below t (Use.kept uses full.1.1.1)).run c).run s
      rest.1.1.1 = full.1.1.1.filter (!·.failed) ∧ rest.1.1.2 = full.1.1.2 ∧
        rest.1.2 = full.1.2 ∧ SameButCounts full.2 rest.2 := by
  constructor
  · intro s
    refine Running.direct.performAll_kept Placing.direct (R := SameButCounts) ?_ ?_ t uses s s
      ⟨s.reads, rfl⟩
    · intro p s e _ u same
      exact read_left p same
    · rintro use t s u ⟨reads, rfl⟩
      obtain ⟨counts, same⟩ := Use.related counting_operations counting_placed t use s reads
      exact ⟨(Prod.ext_iff.mp same).1, counts, (Prod.ext_iff.mp same).2⟩
  · intro c s
    refine Running.cached.performAll_kept Placing.below (R := SameBelow) ?_ ?_ t uses
      (c, s) (c, s) ⟨rfl, s.reads, rfl⟩
    · exact fun p a e failed b same => cached_read_left p a b e failed same
    · intro use t a b same
      obtain ⟨c, s⟩ := a
      obtain ⟨d, u⟩ := b
      obtain ⟨cache, reads, store⟩ := same
      obtain rfl : d = c := cache
      obtain rfl : u = { s with reads } := store
      have placed : ∀ placing : Placing, (counting.above Cache).rel placing.below placing.below :=
        fun placing c => counting.of_bind (counting_placed placing) fun done =>
          counting.of_pure (done, c)
      obtain ⟨counts, ran⟩ := Use.related (of_cached counting_operations) placed t use d s reads
      obtain ⟨given, store⟩ := Prod.ext_iff.mp ran
      exact ⟨(Prod.ext_iff.mp given).1, (Prod.ext_iff.mp given).2, counts, store⟩

end Pagefold.Asset
