import Mathlib
import Pagefold.Proofs.Asset.Sharing

/-!
# Requests one after the other

A request that no other disturbs gets from the shared table what a call of the table gets, over any
store: the record of a known path, the failure of a read, or a new record with the same name. So
calls in a row are one of the orders in which requests can move.
-/
namespace Pagefold.Asset

/-- The table after a call, which stays as it is if the call fails. -/
def Table.after (t : Table) : Except StoreError (Record × Table) → Table
  | .ok (_, next) => next
  | .error _ => t

/-- Calls in a row are the first call, and then the others with the table after it. -/
theorem Table.associateAll_cons {m : Type → Type} [Monad m] [FileStore m] {σ : Type}
    (exec : Execution m σ) {t last : Table} {url : String} {dir : Path}
    {rest : List (String × Path)} {answers : List (Except StoreError Record)} {s s' : σ}
    (given : exec.gives (t.associateAll ((url, dir) :: rest)) s (answers, last) s') :
    ∃ result between others, exec.gives (t.associate url dir).run s result between ∧
      exec.gives ((t.after result).associateAll rest) between (others, last) s' ∧
      answers = result.map Prod.fst :: others := by
  rw [associateAll] at given
  obtain ⟨result, between, first, later⟩ := exec.of_bind given
  refine ⟨result, between, ?_⟩
  cases result with
  | error failure =>
    obtain ⟨⟨others, final⟩, _, run, done⟩ := exec.of_bind later
    obtain ⟨answer, rfl⟩ := exec.of_pure done
    obtain ⟨rfl, rfl⟩ := Prod.mk.inj answer
    exact ⟨others, first, run, rfl⟩
  | ok found =>
    obtain ⟨⟨others, final⟩, _, run, done⟩ := exec.of_bind later
    obtain ⟨answer, rfl⟩ := exec.of_pure done
    obtain ⟨rfl, rfl⟩ := Prod.mk.inj answer
    exact ⟨others, first, run, rfl⟩

namespace Sharing

/-- No request is filling a cell. -/
def Quiet (s : Sharing) : Prop := ∀ entry ∈ s.cells, ∀ owner, entry.2 ≠ .busy owner

/-- The table has the published records and the prefixes taken. -/
structure Agrees (s : Sharing) (t : Table) : Prop where
  taken : t.taken = s.taken
  records : t.records.Perm s.published

theorem goes_goes (s : Sharing) (i : Nat) (first second : Phase) :
    (s.goes i first).goes i second = s.goes i second := by
  simp [goes, List.modify_modify_eq, Function.comp_def]

theorem puts_puts (s : Sharing) (k : Nat) (first second : Cell) :
    (s.puts k first).puts k second = s.puts k second := by
  simp [puts, List.modify_modify_eq, Function.comp_def]

/-- What a request does that has come to a phase. -/
theorem step_goes {s : Sharing} {i : Nat} {r : Request} (found : s.requests[i]? = some r)
    (phase : Phase) :
    (s.goes i phase).step (.advance i) = (s.goes i phase).advance i { r with phase } := by
  have there : (s.goes i phase).requests[i]? = some { r with phase } := by
    rw [getElem?_goes, if_pos rfl, found]
    rfl
  rw [Sharing.step, there]
  rfl

theorem quiet_puts {s : Sharing} (quiet : s.Quiet) (k : Nat) (cell : Cell)
    (free : ∀ owner, cell ≠ .busy owner) : (s.puts k cell).Quiet := by
  intro entry member owner busy
  obtain ⟨j, there⟩ := List.getElem?_of_mem member
  rw [getElem?_puts] at there
  split at there
  · obtain ⟨old, _, rfl⟩ := Option.map_eq_some_iff.mp there
    exact free owner busy
  · exact quiet entry (List.mem_of_getElem? there) owner busy

/-- A request finds or makes the cell of its path, and nothing else changes. -/
theorem enters {s : Sharing} (placed : s.Placed) (quiet : s.Quiet) {i : Nat} {r : Request}
    (found : s.requests[i]? = some r) (called : r.phase = .called) :
    ∃ (k : Nat) (p : Path) (c : Cell) (cells : List (Path × Cell)),
      s.step (.advance i) = some ({ s with cells }.goes i (.waiting k)) ∧
      ({ s with cells }.goes i (.waiting k)).Placed ∧ Quiet { s with cells } ∧
      published { s with cells } = s.published ∧
      cells[k]? = some (p, c) ∧ (p == Table.sourceOf r.url) = true := by
  have known : s.step (.advance i) = some
      ((s.cellOf (Table.sourceOf r.url)).2.goes i
        (.waiting (s.cellOf (Table.sourceOf r.url)).1)) := by
    simp [Sharing.step, advance, found, called]
  obtain ⟨j, other, found', moves⟩ := step_moves known
  have later := placed.step found' moves
  revert known later
  unfold cellOf
  split
  · next k there =>
    intro known later
    obtain ⟨inside, key, _⟩ := List.findIdx?_eq_some_iff_getElem.mp there
    exact ⟨k, s.cells[k].1, s.cells[k].2, s.cells, known, later, quiet, rfl,
      List.getElem?_eq_getElem inside, key⟩
  · intro known later
    refine ⟨s.cells.length, _, .vacant, _, known, later, ?_, ?_, List.getElem?_concat_length,
      Path.beq_self _⟩
    · intro entry member owner
      rcases List.mem_append.mp member with old | new
      · exact quiet entry old owner
      · rw [List.mem_singleton.mp new]
        simp
    · simp [published, Cell.record?]

/-- A move, and then the others. -/
theorem run_cons {s between : Sharing} {move : Move} (first : s.step move = some between)
    (rest : List Move) : s.run (move :: rest) = between.run rest := by
  rw [run, List.foldlM_cons, first]
  rfl

/-- The cell of a path without a record is vacant, if no request fills one. -/
theorem Placed.vacant {s : Sharing} (placed : s.Placed) (quiet : s.Quiet) {k : Nat}
    {p source : Path} {c : Cell} (there : s.cells[k]? = some (p, c)) (key : (p == source) = true)
    (unknown : ∀ record ∈ s.published, (record.source == source) ≠ true) : c = .vacant := by
  have entry := List.mem_of_getElem? there
  cases c with
  | vacant => rfl
  | busy owner => exact absurd rfl (quiet _ entry owner)
  | filled record =>
    have member : record ∈ s.published := List.mem_filterMap.mpr ⟨_, entry, rfl⟩
    exact absurd (Path.beq_trans (placed.source there) key) (unknown record member)

section Waiting

variable {s : Sharing} {i k : Nat} {r : Request} {p : Path} (found : s.requests[i]? = some r)

include found

/-- A request that finds a record in its cell is answered with it. -/
theorem learns_run {record : Record} (there : s.cells[k]? = some (p, .filled record)) :
    (s.goes i (.waiting k)).run [.advance i] = some (s.goes i (.answered (.ok record))) := by
  have learned : (s.goes i (.waiting k)).step (.advance i) =
      some (s.goes i (.answered (.ok record))) := by
    rw [step_goes found, advance]
    dsimp only
    rw [show (s.goes i (.waiting k)).cells[k]? = _ from there]
    exact congrArg some (goes_goes s i _ _)
  exact run_cons learned []

/-- A request that finds its cell vacant begins to fill it. -/
theorem begins (there : s.cells[k]? = some (p, .vacant)) :
    (s.goes i (.waiting k)).step (.advance i) =
      some ((s.puts k (.busy i)).goes i (.reading k)) := by
  rw [step_goes found, advance]
  dsimp only
  rw [show (s.goes i (.waiting k)).cells[k]? = _ from there]
  exact congrArg some (goes_goes (s.puts k (.busy i)) i _ _)

theorem reading_puts (cell : Cell) :
    ((s.puts k cell).goes i (.reading k)).requests[i]? = some { r with phase := .reading k } := by
  rw [getElem?_goes, if_pos rfl, show (s.puts k cell).requests[i]? = _ from found]
  rfl

/-- A request that cannot read its file leaves its cell vacant. -/
theorem fails_run (there : s.cells[k]? = some (p, .vacant)) (failure : StoreError) :
    (s.goes i (.waiting k)).run [.advance i, .read i (.error failure)] =
      some ((s.puts k .vacant).goes i (.answered (.error failure))) := by
  have failed : ((s.puts k (.busy i)).goes i (.reading k)).step (.read i (.error failure)) =
      some ((s.puts k .vacant).goes i (.answered (.error failure))) := by
    rw [Sharing.step, reading_puts found]
    change some ((((s.puts k (.busy i)).puts k .vacant).goes i _).goes i _) = _
    rw [puts_puts, goes_goes]
  rw [run_cons (begins found there), run_cons failed]
  rfl

/-- A request that reads its file takes a prefix and puts the record into its cell. -/
theorem makes_run (there : s.cells[k]? = some (p, .vacant)) (content : Bytes) :
    let made := s.table.add (Table.sourceOf r.url) r.dir content
    (s.goes i (.waiting k)).run [.advance i, .read i (.ok content), .advance i, .advance i] =
      some (({ s with taken := made.2.taken }.puts k (.filled made.1)).goes i
        (.answered (.ok made.1))) := by
  intro made
  let reserving : Sharing := { s with taken := made.2.taken }
  have loaded : ((s.puts k (.busy i)).goes i (.reading k)).step (.read i (.ok content)) =
      some ((s.puts k (.busy i)).goes i (.hashing k content)) := by
    rw [Sharing.step, reading_puts found]
    exact congrArg some (goes_goes _ i _ _)
  have reserved : ((s.puts k (.busy i)).goes i (.hashing k content)).step (.advance i) =
      some ((reserving.puts k (.busy i)).goes i (.publishing k made.1)) := by
    let hashing := (s.puts k (.busy i)).goes i (.hashing k content)
    -- The cell that the request fills is no record yet, but the prefixes are those of `s`.
    obtain ⟨record, taken⟩ := add_congr (t := hashing.table) (u := s.table) rfl
      (Table.sourceOf r.url) r.dir content
    rw [step_goes (s := s.puts k (.busy i)) found]
    let named := hashing.table.add (Table.sourceOf r.url) r.dir content
    change some (Sharing.goes { hashing with taken := named.2.taken } i
      (.publishing k named.1)) = _
    rw [show named.1 = made.1 from record, show named.2.taken = made.2.taken from taken]
    exact congrArg some (goes_goes (reserving.puts k (.busy i)) i _ _)
  have put : ((reserving.puts k (.busy i)).goes i (.publishing k made.1)).step (.advance i) =
      some ((reserving.puts k (.filled made.1)).goes i (.answered (.ok made.1))) := by
    rw [step_goes (s := reserving.puts k (.busy i)) found]
    change some ((((reserving.puts k (.busy i)).puts k _).goes i _).goes i _) = _
    rw [puts_puts, goes_goes]
  rw [run_cons (begins found there), run_cons loaded, run_cons reserved, run_cons put]
  rfl

end Waiting

/-- A request that no other disturbs is answered as the table answers it, over any store.

Proof: a request for a known path finds the cell of its record. Otherwise its cell is vacant, and
it goes on by itself: what it reads is what the table reads, and it reserves the prefix that the
table takes. -/
theorem alone {m : Type → Type} [Monad m] [FileStore m] {σ : Type} (exec : Execution m σ)
    {s : Sharing} {t : Table} (placed : s.Placed) (quiet : s.Quiet) (agrees : s.Agrees t) {i : Nat}
    {r : Request} (found : s.requests[i]? = some r) (called : r.phase = .called)
    {result : Except StoreError (Record × Table)} {store store' : σ}
    (given : exec.gives (t.associate r.url r.dir).run store result store') :
    ∃ moves next, s.run moves = some next ∧ next.Quiet ∧
      next.requests = (s.goes i (.answered (result.map Prod.fst))).requests ∧
      next.Agrees (t.after result) := by
  obtain ⟨k, p, c, cells, entered, placed', quiet', published', there, key⟩ :=
    enters placed quiet found called
  let entering : Sharing := { s with cells }
  have found' : entering.requests[i]? = some r := found
  have records : t.records.Perm entering.published := published' ▸ agrees.records
  simp only [Table.associate] at given
  cases known : t.find? (Table.sourceOf r.url) with
  | some record =>
    rw [known] at given
    obtain ⟨rfl, _⟩ := exec.of_pure given
    have chosen : t.records.find? (·.source == Table.sourceOf r.url) = some record := known
    have same := Table.find_source known
    obtain rfl : c = .filled record :=
      placed'.held (records.subset (List.mem_of_find?_eq_some chosen)) same there key
    refine ⟨[.advance i, .advance i], entering.goes i (.answered (.ok record)), ?_, quiet', rfl,
      agrees.taken, records⟩
    rw [run_cons entered]
    exact learns_run found' there
  | none =>
    rw [known] at given
    have chosen : t.records.find? (·.source == Table.sourceOf r.url) = none := known
    obtain rfl : c = .vacant := placed'.vacant quiet' there key fun record member =>
      List.find?_eq_none.mp chosen record (records.symm.subset member)
    rcases exec.any_bind given with ⟨content, between, read, added⟩ | ⟨failure, read, rfl⟩
    · obtain ⟨rfl, _⟩ := exec.of_pure added
      let made := entering.table.add (Table.sourceOf r.url) r.dir content
      let reserving : Sharing := { entering with taken := made.2.taken }
      obtain ⟨record, taken⟩ := add_congr (t := t) (u := entering.table) agrees.taken
        (Table.sourceOf r.url) r.dir content
      have published : (reserving.puts k (.filled made.1)).published.Perm
          (made.1 :: entering.published) :=
        filterMap_modify_gain there rfl rfl
      refine ⟨.advance i :: [.advance i, .read i (.ok content), .advance i, .advance i],
        (reserving.puts k (.filled made.1)).goes i (.answered (.ok made.1)), ?_,
        quiet_puts quiet' k (.filled made.1) (by simp), ?_, taken, ?_⟩
      · rw [run_cons entered]
        exact makes_run found' there content
      · rw [show made.1 = _ from record.symm]
        rfl
      · refine List.Perm.trans ?_ published.symm
        rw [show made.1 = _ from record.symm]
        exact (List.perm_append_singleton _ _).trans (records.cons _)
    · have published : (entering.puts k .vacant).published = entering.published :=
        published_puts there _ rfl
      refine ⟨.advance i :: [.advance i, .read i (.error failure)],
        (entering.puts k .vacant).goes i (.answered (.error failure)), ?_,
        quiet_puts quiet' k .vacant (by simp), rfl, agrees.taken, ?_⟩
      · rw [run_cons entered]
        exact fails_run found' there failure
      · exact published ▸ records

theorem run_placed {s next : Sharing} {moves : List Move} (placed : s.Placed)
    (ran : s.run moves = some next) : next.Placed := by
  induction moves generalizing s with
  | nil =>
    obtain rfl : s = next := Option.some.inj ran
    exact placed
  | cons move rest inductionHypothesis =>
    obtain ⟨between, first, later⟩ := Option.bind_eq_some_iff.mp ran
    obtain ⟨i, r, found, moves⟩ := step_moves first
    exact inductionHypothesis (placed.step found moves) later

theorem modify_between {α : Type} (before after : List α) (a : α) (f : α → α) :
    (before ++ a :: after).modify before.length f = before ++ f a :: after := by
  induction before with
  | nil => rfl
  | cons head tail inductionHypothesis =>
    exact congrArg (List.cons head) inductionHypothesis

/-- Requests that go on one after the other behind requests that are done. -/
theorem run_row_from {m : Type → Type} [Monad m] [FileStore m] {σ : Type} (exec : Execution m σ)
    (calls : List (String × Path)) {s : Sharing} {t last : Table} {store store' : σ}
    {answers : List (Except StoreError Record)} (placed : s.Placed) (quiet : s.Quiet)
    (agrees : s.Agrees t) (done : List Request)
    (requests : s.requests = done ++ (start calls).requests)
    (given : exec.gives (t.associateAll calls) store (answers, last) store') :
    ∃ moves next, s.run moves = some next ∧
      next.requests.map (·.phase) = done.map (·.phase) ++ answers.map .answered ∧
      next.Agrees last := by
  induction calls generalizing s t store answers done with
  | nil =>
    obtain ⟨answer, _⟩ := exec.of_pure given
    cases answer
    exact ⟨[], s, rfl, by simp [requests, start], agrees⟩
  | cons call rest inductionHypothesis =>
    obtain ⟨url, dir⟩ := call
    obtain ⟨result, between, others, first, later, rfl⟩ := Table.associateAll_cons exec given
    have found : s.requests[done.length]? = some { url, dir } := by
      simp [requests, start]
    obtain ⟨moves, next, ran, still, changed, agreed⟩ :=
      alone exec placed quiet agrees found rfl first
    have split : next.requests =
        (done ++ [{ url, dir, phase := .answered (result.map Prod.fst) }]) ++
          (start rest).requests := by
      rw [changed, goes, requests]
      exact (modify_between done (start rest).requests _ _).trans (List.append_cons _ _ _)
    obtain ⟨moves', next', ran', phases, agreed'⟩ :=
      inductionHypothesis (run_placed placed ran) still agreed _ split later
    refine ⟨moves ++ moves', next', ?_, ?_, agreed'⟩
    · rw [run_append, ran]
      exact ran'
    · rw [phases]
      simp

/-- Requests that are answered one after the other get what calls of the table get in a row. -/
theorem run_row {m : Type → Type} [Monad m] [FileStore m] {σ : Type} (exec : Execution m σ)
    (calls : List (String × Path)) (store store' : σ) (answers : List (Except StoreError Record))
    (last : Table)
    (given : exec.gives (({} : Table).associateAll calls) store (answers, last) store') :
    ∃ moves s, (start calls).run moves = some s ∧
      s.requests.map (·.phase) = answers.map .answered ∧ s.Agrees last :=
  run_row_from exec calls (start_holds calls).placed (by simp [Quiet, start]) ⟨rfl, List.Perm.nil⟩
    [] rfl given

end Sharing

end Pagefold.Asset
