import Mathlib
import Pagefold.Asset.Sharing
import Pagefold.Proofs.Asset.Table

/-!
# What requests can do to each other

Two invariants hold after any moves. The first is about places: a request that fills a cell is the
one that the cell names, and a filled cell keeps its record. So no two requests fill one cell, and
a cell is not filled twice. The second is about accounts: the prefixes taken are those of the
records in cells and of the records on their way into one, and the successful reads are those
behind these records and behind the digests still to be named. A table that makes the same records
one after the other accounts for the names.
-/
namespace Pagefold.Asset

section Lists

variable {α β : Type} {f : α → Option β} {g : α → α} {l : List α} {i : Nat} {a : α}

/-- Changing an entry of a list changes what is chosen from the list in one place. -/
theorem filterMap_modify (found : l[i]? = some a) :
    ∃ before after, l.filterMap f = before ++ (f a).toList ++ after ∧
      (l.modify i g).filterMap f = before ++ (f (g a)).toList ++ after := by
  induction l generalizing i with
  | nil => simp at found
  | cons head tail inductionHypothesis =>
    cases i with
    | zero =>
      obtain rfl : head = a := by simpa using found
      refine ⟨[], tail.filterMap f, ?_, ?_⟩
      · cases chosen : f head <;> simp [chosen]
      · cases chosen : f (g head) <;> simp [chosen]
    | succ i =>
      obtain ⟨before, after, old, new⟩ := inductionHypothesis (by simpa using found)
      refine ⟨(f head).toList ++ before, after, ?_, ?_⟩
      · cases chosen : f head <;> simp [chosen, old]
      · cases chosen : f head <;> simp [chosen, new]

theorem filterMap_modify_same (found : l[i]? = some a) (same : f (g a) = f a) :
    (l.modify i g).filterMap f = l.filterMap f := by
  obtain ⟨before, after, old, new⟩ := filterMap_modify (f := f) (g := g) found
  rw [old, new, same]

theorem filterMap_modify_gain {b : β} (found : l[i]? = some a) (none : f a = none)
    (gained : f (g a) = some b) : ((l.modify i g).filterMap f).Perm (b :: l.filterMap f) := by
  obtain ⟨before, after, old, new⟩ := filterMap_modify (f := f) (g := g) found
  rw [old, new, none, gained]
  simp

theorem filterMap_modify_loss {b : β} (found : l[i]? = some a) (some : f a = some b)
    (lost : f (g a) = none) : (l.filterMap f).Perm (b :: (l.modify i g).filterMap f) := by
  obtain ⟨before, after, old, new⟩ := filterMap_modify (f := f) (g := g) found
  rw [old, new, some, lost]
  simp

/-- Changing an entry of a list changes a sum over it by what it changes of the entry. -/
theorem sum_modify {f : α → Nat} (found : l[i]? = some a) :
    ((l.modify i g).map f).sum + f a = (l.map f).sum + f (g a) := by
  induction l generalizing i with
  | nil => simp at found
  | cons head tail inductionHypothesis =>
    cases i with
    | zero =>
      obtain rfl : head = a := by simpa using found
      simp
      omega
    | succ i =>
      have rest := inductionHypothesis (i := i) (by simpa using found)
      simp
      omega

/-- Among entries for different paths there is one for the path of an entry. -/
theorem filter_single {l : List (Path × β)} {entry : Path × β}
    (apart : l.Pairwise fun a b => (a.1 == b.1) = false) (member : entry ∈ l) :
    l.filter (·.1 == entry.1) = [entry] := by
  induction l with
  | nil => cases member
  | cons head tail inductionHypothesis =>
    obtain ⟨first, rest⟩ := List.pairwise_cons.mp apart
    rcases List.mem_cons.mp member with rfl | later
    · have others : tail.filter (·.1 == entry.1) = [] := by
        rw [List.filter_eq_nil_iff]
        intro other inside
        rw [Path.beq_comm, first other inside]
        exact Bool.false_ne_true
      rw [List.filter_cons, if_pos (Path.beq_self _), others]
    · rw [List.filter_cons, if_neg, inductionHypothesis rest later]
      rw [first entry later]
      exact Bool.false_ne_true

/-- Among entries for different paths there is at most one for a path. -/
theorem filter_length {l : List (Path × β)} (apart : l.Pairwise fun a b => (a.1 == b.1) = false)
    (path : Path) : (l.filter (·.1 == path)).length ≤ 1 := by
  cases chosen : l.filter (·.1 == path) with
  | nil => exact Nat.zero_le 1
  | cons entry rest =>
    have inside : entry ∈ l.filter (·.1 == path) := by
      rw [chosen]
      exact List.mem_cons_self
    have member : entry ∈ l := (List.mem_filter.mp inside).1
    have same : (entry.1 == path) = true := (List.mem_filter.mp inside).2
    have tests : (fun other : Path × β => other.1 == entry.1) = fun other => other.1 == path := by
      funext other
      rw [Bool.eq_iff_iff, Path.beq_iff, Path.beq_iff, (Path.beq_iff _ _).mp same]
    have single := filter_single apart member
    rw [tests, chosen] at single
    rw [single, List.length_singleton]

end Lists

/-- The cell that a request has to itself. -/
def Phase.fills : Phase → Option Nat
  | .reading k | .hashing k _ | .publishing k _ => some k
  | .called | .waiting _ | .answered _ => none

/-- The record for which a request has taken a prefix and which it has not yet put into a cell. -/
def Request.reserved (r : Request) : Option Record :=
  match r.phase with
  | .publishing _ record => some record
  | _ => none

/-- The file that a request has read for a cell it has not yet filled, and the digest of what
was read. -/
def Request.past (r : Request) : Option (Path × String) :=
  match r.phase with
  | .hashing _ content => some (Table.sourceOf r.url, Digest.ofContent content)
  | .publishing _ record => some (record.source, record.hash)
  | _ => none

/-- How far a request is from its answer at most, in moves. -/
def Phase.left : Phase → Nat
  | .called => 5
  | .waiting _ => 4
  | .reading _ => 3
  | .hashing _ _ => 2
  | .publishing _ _ => 1
  | .answered _ => 0

namespace Sharing

/-- The records on their way into a cell. -/
def reserved (s : Sharing) : List Record := s.requests.filterMap Request.reserved

/-- The files read for cells that are not yet filled. -/
def past (s : Sharing) : List (Path × String) := s.requests.filterMap Request.past

/-- What a move of the request `r` with number `i` is, and to what state it leads. -/
inductive Moves (s : Sharing) (i : Nat) (r : Request) : Move → Sharing → Prop
  | finds (k : Nat) (p : Path) (c : Cell) (phase : r.phase = .called)
    (there : s.cells[k]? = some (p, c)) (key : (p == Table.sourceOf r.url) = true) :
    Moves s i r (.advance i) (s.goes i (.waiting k))
  | makes (phase : r.phase = .called)
    (absent : ∀ entry ∈ s.cells, (entry.1 == Table.sourceOf r.url) = false) :
    Moves s i r (.advance i)
      ({ s with cells := s.cells ++ [(Table.sourceOf r.url, Cell.vacant)] }.goes i
        (.waiting s.cells.length))
  | begins (k : Nat) (p : Path) (phase : r.phase = .waiting k)
    (there : s.cells[k]? = some (p, .vacant)) :
    Moves s i r (.advance i) ((s.puts k (.busy i)).goes i (.reading k))
  | learns (k : Nat) (p : Path) (record : Record) (phase : r.phase = .waiting k)
    (there : s.cells[k]? = some (p, .filled record)) :
    Moves s i r (.advance i) (s.goes i (.answered (.ok record)))
  | loads (k : Nat) (content : Bytes) (phase : r.phase = .reading k) :
    Moves s i r (.read i (.ok content)) (s.goes i (.hashing k content))
  | fails (k : Nat) (failure : StoreError) (phase : r.phase = .reading k) :
    Moves s i r (.read i (.error failure))
      ((s.puts k .vacant).goes i (.answered (.error failure)))
  | reserves (k : Nat) (content : Bytes) (phase : r.phase = .hashing k content) :
    Moves s i r (.advance i)
      ((s.reserve (Table.sourceOf r.url) r.dir content).2.goes i
        (.publishing k (s.reserve (Table.sourceOf r.url) r.dir content).1))
  | publishes (k : Nat) (record : Record) (phase : r.phase = .publishing k record) :
    Moves s i r (.advance i) ((s.puts k (.filled record)).goes i (.answered (.ok record)))

/-- Every move is one of these. -/
theorem step_moves {s next : Sharing} {move : Move} (given : s.step move = some next) :
    ∃ i r, s.requests[i]? = some r ∧ s.Moves i r move next := by
  cases move with
  | advance i =>
    obtain ⟨r, found, given⟩ := Option.bind_eq_some_iff.mp given
    refine ⟨i, r, found, ?_⟩
    unfold advance at given
    split at given
    · next phase =>
      obtain rfl := Option.some.inj given
      split
      · next k known =>
        obtain ⟨inside, key, _⟩ := List.findIdx?_eq_some_iff_getElem.mp known
        exact .finds k s.cells[k].1 s.cells[k].2 phase (List.getElem?_eq_getElem inside) key
      · next unknown => exact .makes phase (List.findIdx?_eq_none_iff.mp unknown)
    · next k phase =>
      split at given
      · next p there =>
        obtain rfl := Option.some.inj given
        exact .begins k p phase there
      · next p record there =>
        obtain rfl := Option.some.inj given
        exact .learns k p record phase there
      · cases given
    · next k content phase =>
      obtain rfl := Option.some.inj given
      exact .reserves k content phase
    · next k record phase =>
      obtain rfl := Option.some.inj given
      exact .publishes k record phase
    · cases given
    · cases given
  | read i answer =>
    obtain ⟨r, found, given⟩ := Option.bind_eq_some_iff.mp given
    refine ⟨i, r, found, ?_⟩
    split at given
    · next k content phase _ =>
      obtain rfl := Option.some.inj given
      exact .loads k content phase
    · next k failure phase _ =>
      obtain rfl := Option.some.inj given
      exact .fails k failure phase
    · cases given

/-- How a request with number `i` stands to the cells. A waiting request has the cell of its path,
a request that fills a cell is named in it, and an answer can be seen in the cell of its path. -/
def Fits (cells : List (Path × Cell)) (i : Nat) (r : Request) : Prop :=
  match r.phase with
  | .called | .answered (.error _) => True
  | .waiting k => ∃ p c, cells[k]? = some (p, c) ∧ (p == Table.sourceOf r.url) = true
  | .reading k | .hashing k _ =>
    ∃ p, cells[k]? = some (p, Cell.busy i) ∧ (p == Table.sourceOf r.url) = true
  | .publishing k record =>
    record.source = Table.sourceOf r.url ∧
      ∃ p, cells[k]? = some (p, Cell.busy i) ∧ (p == Table.sourceOf r.url) = true
  | .answered (.ok record) =>
    ∃ (k : Nat) (p : Path), cells[k]? = some (p, Cell.filled record) ∧
      (p == Table.sourceOf r.url) = true

/-- What moves of the request `i` leave of the cells: each cell has its path, and unless it is
vacant or filled by the request, it also has its contents. -/
structure Leaves (i : Nat) (cells later : List (Path × Cell)) : Prop where
  key : ∀ {k : Nat} {p : Path} {c : Cell}, cells[k]? = some (p, c) → ∃ c', later[k]? = some (p, c')
  kept : ∀ {k : Nat} {p : Path} {c : Cell}, cells[k]? = some (p, c) → c ≠ .vacant → c ≠ .busy i →
    later[k]? = some (p, c)

/-- Other requests stand to the cells as before. -/
theorem Fits.leaves {i j : Nat} {r : Request} {cells later : List (Path × Cell)}
    (fits : Fits cells j r) (leaves : Leaves i cells later) (other : j ≠ i) : Fits later j r := by
  have busy : ∀ {k : Nat} {p : Path}, cells[k]? = some (p, Cell.busy j) →
      later[k]? = some (p, Cell.busy j) := by
    intro k p there
    exact leaves.kept there (by simp) (by simpa using other)
  unfold Fits at fits ⊢
  split at fits
  · trivial
  · trivial
  · obtain ⟨p, c, there, key⟩ := fits
    obtain ⟨c', later⟩ := leaves.key there
    exact ⟨p, c', later, key⟩
  · obtain ⟨p, there, key⟩ := fits
    exact ⟨p, busy there, key⟩
  · obtain ⟨p, there, key⟩ := fits
    exact ⟨p, busy there, key⟩
  · obtain ⟨made, p, there, key⟩ := fits
    exact ⟨made, p, busy there, key⟩
  · obtain ⟨k, p, there, key⟩ := fits
    exact ⟨k, p, leaves.kept there (by simp) (by simp), key⟩

/-- The places of requests and records. -/
structure Placed (s : Sharing) : Prop where
  keys : s.cells.Pairwise fun a b => (a.1 == b.1) = false
  fits : ∀ {i : Nat} {r : Request}, s.requests[i]? = some r → Fits s.cells i r
  owner : ∀ {k : Nat} {p : Path} {i : Nat}, s.cells[k]? = some (p, Cell.busy i) →
    ∃ r : Request, s.requests[i]? = some r ∧ r.phase.fills = some k
  source : ∀ {k : Nat} {p : Path} {record : Record}, s.cells[k]? = some (p, Cell.filled record) →
    (record.source == p) = true

/-- A request that fills a cell is named in it. -/
theorem Placed.busy {s : Sharing} (placed : s.Placed) {i k : Nat} {r : Request}
    (found : s.requests[i]? = some r) (fills : r.phase.fills = some k) :
    ∃ p, s.cells[k]? = some (p, Cell.busy i) ∧ (p == Table.sourceOf r.url) = true := by
  have fits := placed.fits found
  unfold Fits at fits
  unfold Phase.fills at fills
  split at fits <;> simp_all

/-- Two cells of one path are one cell. -/
theorem Placed.meets {s : Sharing} (placed : s.Placed) {k k' : Nat} {p p' q : Path} {c c' : Cell}
    (first : s.cells[k]? = some (p, c)) (second : s.cells[k']? = some (p', c'))
    (key : (p == q) = true) (key' : (p' == q) = true) : k = k' ∧ c = c' := by
  have same : (p == p') = true := by
    rw [Path.beq_comm] at key'
    exact Path.beq_trans key key'
  obtain ⟨inside, here⟩ := List.getElem?_eq_some_iff.mp first
  obtain ⟨inside', there⟩ := List.getElem?_eq_some_iff.mp second
  have one : k = k' := by
    rcases Nat.lt_trichotomy k k' with before | equal | after
    · have apart := List.pairwise_iff_getElem.mp placed.keys k k' inside inside' before
      rw [here, there, same] at apart
      cases apart
    · exact equal
    · have apart := List.pairwise_iff_getElem.mp placed.keys k' k inside' inside after
      rw [here, there, Path.beq_comm, same] at apart
      cases apart
  subst one
  exact ⟨rfl, congrArg Prod.snd (Option.some.inj (first.symm.trans second))⟩

/-- The requests after one has gone to another phase. -/
theorem getElem?_goes (s : Sharing) (i j : Nat) (phase : Phase) :
    (s.goes i phase).requests[j]? =
      if i = j then s.requests[j]?.map fun r => { r with phase } else s.requests[j]? := by
  rw [Sharing.goes, List.getElem?_modify]
  split
  · rfl
  · simp

/-- The request with number `i` goes to another phase, and the cells to other contents: the
places are in order if the request and the changed cells fit together.

Proof: the cells of other requests are left, so these requests stand to them as before, and a cell
that names one of them named it before. -/
theorem Placed.moves {s : Sharing} (placed : s.Placed) {i : Nat} {r : Request} {phase : Phase}
    {later : List (Path × Cell)} (taken : List (String × String))
    (found : s.requests[i]? = some r) (leaves : Leaves i s.cells later)
    (keys : later.Pairwise fun a b => (a.1 == b.1) = false)
    (fits : Fits later i { r with phase })
    (owner : ∀ {k : Nat} {p : Path} {j : Nat}, later[k]? = some (p, Cell.busy j) →
      j ≠ i ∧ s.cells[k]? = some (p, Cell.busy j) ∨ j = i ∧ phase.fills = some k)
    (source : ∀ {k : Nat} {p : Path} {record : Record}, later[k]? = some (p, Cell.filled record) →
      (record.source == p) = true) :
    Placed { ({ s with cells := later } : Sharing).goes i phase with taken } where
  keys := keys
  fits := by
    intro j other there
    rw [show _ = _ from getElem?_goes { s with cells := later } i j phase] at there
    split at there
    · next same =>
      subst same
      rw [found] at there
      obtain rfl := Option.some.inj there
      exact fits
    · next different => exact (placed.fits there).leaves leaves (Ne.symm different)
  owner := by
    intro k p j there
    rw [show _ = _ from getElem?_goes { s with cells := later } i j phase]
    rcases owner there with ⟨different, old⟩ | ⟨rfl, fills⟩
    · obtain ⟨other, named, filling⟩ := placed.owner old
      rw [if_neg (Ne.symm different), named]
      exact ⟨other, rfl, filling⟩
    · rw [if_pos rfl, found]
      exact ⟨_, rfl, fills⟩
  source := source

/-- A request goes to another phase in which it fills the same cell, or again none. -/
theorem Placed.goes {s : Sharing} (placed : s.Placed) {i : Nat} {r : Request} {phase : Phase}
    (taken : List (String × String)) (found : s.requests[i]? = some r)
    (fills : phase.fills = r.phase.fills) (fits : Fits s.cells i { r with phase }) :
    Placed { s.goes i phase with taken } := by
  have leaves : Leaves i s.cells s.cells := ⟨fun there => ⟨_, there⟩, fun there _ _ => there⟩
  refine placed.moves taken found leaves placed.keys fits ?_ placed.source
  intro k p j there
  by_cases same : j = i
  · obtain ⟨owner, named, filling⟩ := placed.owner there
    rw [same, found] at named
    obtain rfl := Option.some.inj named
    exact Or.inr ⟨same, fills.trans filling⟩
  · exact Or.inl ⟨same, there⟩

/-- The contents of a cell that was changed. -/
theorem getElem?_puts (s : Sharing) (k j : Nat) (cell : Cell) :
    (s.puts k cell).cells[j]? =
      if k = j then s.cells[j]?.map fun entry => (entry.1, cell) else s.cells[j]? := by
  rw [puts, List.getElem?_modify]
  split
  · rfl
  · simp

/-- Changing a cell that is vacant or filled by the request leaves the others. -/
theorem leaves_puts (s : Sharing) {i k : Nat} {p : Path} {c : Cell} (cell : Cell)
    (there : s.cells[k]? = some (p, c)) (free : c = .vacant ∨ c = .busy i) :
    Leaves i s.cells (s.puts k cell).cells where
  key := by
    intro j q d here
    rw [getElem?_puts]
    split
    · exact ⟨cell, by rw [here]; rfl⟩
    · exact ⟨d, here⟩
  kept := by
    intro j q d here vacant busy
    rw [getElem?_puts, if_neg, here]
    rintro rfl
    obtain ⟨rfl, rfl⟩ : p = q ∧ c = d := by simpa [there] using here
    exact free.elim vacant busy

/-- A request changes the contents of the only cell it can fill, and goes to another phase. -/
theorem Placed.puts {s : Sharing} (placed : s.Placed) {i k : Nat} {r : Request} {phase : Phase}
    {p : Path} {c cell : Cell} (found : s.requests[i]? = some r)
    (there : s.cells[k]? = some (p, c)) (free : c = .vacant ∨ c = .busy i)
    (only : ∀ k', r.phase.fills = some k' → k' = k)
    (fits : Fits (s.puts k cell).cells i { r with phase })
    (owner : ∀ j, cell = .busy j → j = i ∧ phase.fills = some k)
    (source : ∀ record, cell = .filled record → (record.source == p) = true) :
    ((s.puts k cell).goes i phase).Placed := by
  refine placed.moves s.taken found (leaves_puts s cell there free) ?_ fits ?_ ?_
  · rw [List.pairwise_iff_getElem]
    intro j j' inside inside' before
    have apart := List.pairwise_iff_getElem.mp placed.keys j j'
      (by simpa [Sharing.puts] using inside) (by simpa [Sharing.puts] using inside') before
    simp only [List.getElem_modify]
    split <;> split <;> exact apart
  · intro k' q j busy
    change (s.puts k cell).cells[k']? = _ at busy
    rw [getElem?_puts] at busy
    split at busy
    · next same =>
      subst same
      rw [there] at busy
      exact Or.inr (owner j (congrArg Prod.snd (Option.some.inj busy)))
    · next different =>
      refine Or.inl ⟨?_, busy⟩
      rintro rfl
      obtain ⟨other, named, filling⟩ := placed.owner busy
      rw [found] at named
      obtain rfl := Option.some.inj named
      exact different (only k' filling).symm
  · intro k' q record filled
    change (s.puts k cell).cells[k']? = _ at filled
    rw [getElem?_puts] at filled
    split at filled
    · next same =>
      subst same
      rw [there] at filled
      obtain ⟨rfl, same⟩ := Prod.mk.inj (Option.some.inj filled)
      exact source record same
    · exact placed.source filled

/-- A request makes the cell of its path. -/
theorem Placed.makes {s : Sharing} (placed : s.Placed) {i : Nat} {r : Request}
    (found : s.requests[i]? = some r) (phase : r.phase = .called)
    (absent : ∀ entry ∈ s.cells, (entry.1 == Table.sourceOf r.url) = false) :
    ({ s with cells := s.cells ++ [(Table.sourceOf r.url, Cell.vacant)] }.goes i
      (.waiting s.cells.length)).Placed := by
  have inside : ∀ {k : Nat} {entry : Path × Cell}, s.cells[k]? = some entry →
      (s.cells ++ [(Table.sourceOf r.url, Cell.vacant)])[k]? = some entry := by
    intro k entry there
    obtain ⟨bound, _⟩ := List.getElem?_eq_some_iff.mp there
    rw [List.getElem?_append_left bound, there]
  have old : ∀ {k : Nat} {p : Path} {c : Cell}, c ≠ .vacant →
      (s.cells ++ [(Table.sourceOf r.url, Cell.vacant)])[k]? = some (p, c) →
      s.cells[k]? = some (p, c) := by
    intro k p c full there
    rw [List.getElem?_append] at there
    split at there
    · exact there
    · obtain ⟨_, same⟩ := List.getElem?_eq_some_iff.mp there
      rw [List.getElem_singleton] at same
      exact absurd (congrArg Prod.snd same).symm full
  refine placed.moves s.taken found ⟨fun there => ⟨_, inside there⟩, fun there _ _ => inside there⟩
    ?_ ⟨_, _, List.getElem?_concat_length, Path.beq_self _⟩ ?_ ?_
  · rw [List.pairwise_append]
    refine ⟨placed.keys, List.pairwise_singleton _ _, ?_⟩
    intro entry member new last
    rw [List.mem_singleton.mp last]
    exact absent entry member
  · intro k p j there
    have busy := old (by simp) there
    refine Or.inl ⟨?_, busy⟩
    rintro rfl
    obtain ⟨other, named, filling⟩ := placed.owner busy
    rw [found] at named
    obtain rfl := Option.some.inj named
    rw [phase] at filling
    cases filling
  · intro k p record there
    exact placed.source (old (by simp) there)

/-- Moves keep the places. -/
theorem Placed.step {s next : Sharing} {i : Nat} {r : Request} {move : Move} (placed : s.Placed)
    (found : s.requests[i]? = some r) (moves : s.Moves i r move next) : next.Placed := by
  have fits := placed.fits found
  cases moves with
  | finds k p c phase there key =>
    exact placed.goes s.taken found (by rw [phase]; rfl) ⟨p, c, there, key⟩
  | makes phase absent => exact placed.makes found phase absent
  | begins k p phase there =>
    rw [Fits, phase] at fits
    obtain ⟨q, c, here, key⟩ := fits
    obtain ⟨rfl, rfl⟩ : p = q ∧ Cell.vacant = c := by simpa [there] using here
    refine placed.puts found there (Or.inl rfl) (by simp [phase, Phase.fills]) ?_ ?_ (by simp)
    · exact ⟨p, by rw [getElem?_puts, if_pos rfl, there]; rfl, key⟩
    · rintro j ⟨⟩
      exact ⟨rfl, rfl⟩
  | learns k p record phase there =>
    rw [Fits, phase] at fits
    obtain ⟨q, c, here, key⟩ := fits
    obtain ⟨rfl, rfl⟩ : p = q ∧ Cell.filled record = c := by simpa [there] using here
    exact placed.goes s.taken found (by rw [phase]; rfl) ⟨k, p, there, key⟩
  | loads k content phase =>
    rw [Fits, phase] at fits
    exact placed.goes s.taken found (by rw [phase]; rfl) fits
  | fails k failure phase =>
    rw [Fits, phase] at fits
    obtain ⟨p, there, key⟩ := fits
    exact placed.puts found there (Or.inr rfl) (by simp [phase, Phase.fills]) trivial (by simp)
      (by simp)
  | reserves k content phase =>
    rw [Fits, phase] at fits
    exact placed.goes _ found (by rw [phase]; rfl) ⟨rfl, fits⟩
  | publishes k record phase =>
    rw [Fits, phase] at fits
    obtain ⟨origin, p, there, key⟩ := fits
    refine placed.puts found there (Or.inr rfl) (by simp [phase, Phase.fills]) ?_ (by simp) ?_
    · exact ⟨k, p, by rw [getElem?_puts, if_pos rfl, there]; rfl, key⟩
    · rintro other ⟨⟩
      rw [origin, Path.beq_comm]
      exact key

/-- A published record is in the cell of its path. -/
theorem Placed.published {s : Sharing} (placed : s.Placed) {record : Record}
    (member : record ∈ s.published) :
    ∃ (k : Nat) (p : Path), s.cells[k]? = some (p, Cell.filled record) ∧
      (p == record.source) = true := by
  obtain ⟨⟨p, c⟩, entry, held⟩ := List.mem_filterMap.mp member
  obtain ⟨k, there⟩ := List.getElem?_of_mem entry
  cases c with
  | filled other =>
    obtain rfl : other = record := Option.some.inj held
    exact ⟨k, p, there, by rw [Path.beq_comm]; exact placed.source there⟩
  | vacant => cases held
  | busy owner => cases held

/-- A request that has read its file fills the cell of the file. -/
theorem Placed.past {s : Sharing} (placed : s.Placed) {i : Nat} {r : Request}
    {file : Path × String} (found : s.requests[i]? = some r) (read : r.past = some file) :
    ∃ (k : Nat) (p : Path), s.cells[k]? = some (p, Cell.busy i) ∧ (p == file.1) = true := by
  have fits := placed.fits found
  unfold Request.past at read
  split at read
  · next k content phase =>
    obtain rfl := Option.some.inj read
    rw [Fits, phase] at fits
    obtain ⟨p, there, key⟩ := fits
    exact ⟨k, p, there, key⟩
  · next k record phase =>
    obtain rfl := Option.some.inj read
    rw [Fits, phase] at fits
    obtain ⟨origin, p, there, key⟩ := fits
    exact ⟨k, p, there, by rw [origin]; exact key⟩
  · cases read

/-- The cell of the path of a published record has the record. -/
theorem Placed.held {s : Sharing} (placed : s.Placed) {k : Nat} {p source : Path} {c : Cell}
    {record : Record} (member : record ∈ s.published) (same : (record.source == source) = true)
    (there : s.cells[k]? = some (p, c)) (key : (p == source) = true) : c = .filled record := by
  obtain ⟨k', p', there', origin⟩ := placed.published member
  exact (placed.meets there there' key (Path.beq_trans origin same)).2

/-- The cell of the path of a file names the request that has read the file. -/
theorem Placed.claimed {s : Sharing} (placed : s.Placed) {i k : Nat} {r : Request}
    {file : Path × String} {p source : Path} {c : Cell} (found : s.requests[i]? = some r)
    (read : r.past = some file) (same : (file.1 == source) = true)
    (there : s.cells[k]? = some (p, c)) (key : (p == source) = true) : c = .busy i := by
  obtain ⟨k', p', there', origin⟩ := placed.past found read
  exact (placed.meets there there' key (Path.beq_trans origin same)).2

/-- The published records and the files read for other cells are of different paths. -/
theorem Placed.apart {s : Sharing} (placed : s.Placed) :
    (s.published.map (fun record => (record.source, record.hash)) ++ s.past).Pairwise
      fun a b => (a.1 == b.1) = false := by
  rw [List.pairwise_append]
  refine ⟨?_, ?_, ?_⟩
  · rw [List.pairwise_map, Sharing.published, List.pairwise_filterMap]
    refine placed.keys.imp_of_mem ?_
    rintro ⟨p, c⟩ ⟨p', c'⟩ first second different record held record' held'
    obtain ⟨k, there⟩ := List.getElem?_of_mem first
    obtain ⟨k', there'⟩ := List.getElem?_of_mem second
    cases c <;> cases held
    cases c' <;> cases held'
    have key := (Path.beq_iff _ _).mp (placed.source there)
    have key' := (Path.beq_iff _ _).mp (placed.source there')
    rw [← Bool.not_eq_true, Path.beq_iff] at different ⊢
    rwa [key, key']
  · rw [Sharing.past, List.pairwise_filterMap, List.pairwise_iff_getElem]
    intro i j inside inside' before file read file' read'
    rw [← Bool.not_eq_true]
    intro same
    obtain ⟨k, p, there, key⟩ := placed.past (List.getElem?_eq_getElem inside') read'
    have one := placed.claimed (List.getElem?_eq_getElem inside) read same there key
    obtain rfl : j = i := Cell.busy.inj one
    exact Nat.lt_irrefl _ before
  · intro named member file read
    obtain ⟨record, known, rfl⟩ := List.mem_map.mp member
    obtain ⟨r, request, behind⟩ := List.mem_filterMap.mp read
    obtain ⟨i, found⟩ := List.getElem?_of_mem request
    obtain ⟨k, p, there, key⟩ := placed.past found behind
    rw [← Bool.not_eq_true]
    intro same
    cases placed.held known same there key

/-- A request goes to another phase, which is nearer to its answer. -/
theorem Moves.requests {s next : Sharing} {i : Nat} {r : Request} {move : Move}
    (moves : s.Moves i r move next) :
    ∃ phase : Phase, phase.left < r.phase.left ∧
      next.requests = s.requests.modify i fun r => { r with phase } := by
  cases moves with
  | finds k p c phase => exact ⟨_, by simp [phase, Phase.left], rfl⟩
  | makes phase => exact ⟨_, by simp [phase, Phase.left], rfl⟩
  | begins k p phase => exact ⟨_, by simp [phase, Phase.left], rfl⟩
  | learns k p record phase => exact ⟨.answered _, by simp [phase, Phase.left], rfl⟩
  | loads k content phase => exact ⟨.hashing k content, by simp [phase, Phase.left], rfl⟩
  | fails k failure phase => exact ⟨.answered _, by simp [phase, Phase.left], rfl⟩
  | reserves k content phase => exact ⟨.publishing k _, by simp [phase, Phase.left], rfl⟩
  | publishes k record phase => exact ⟨.answered _, by simp [phase, Phase.left], rfl⟩

/-- What requests have done, told by the records: `t` has made the same records one after the
other, and `files` have been read successfully. -/
structure Accounted (s : Sharing) (t : Table) (files : List (Path × Bytes)) : Prop where
  reached : ({} : Table).Reaches t
  taken : t.taken = s.taken
  records : t.records.Perm (s.published ++ s.reserved)
  files : (files.map fun file => (file.1, Digest.ofContent file.2)).Perm
    (s.published.map (fun record => (record.source, record.hash)) ++ s.past)

/-- A request that is about to make a record has a path without one. -/
theorem Placed.fresh {s : Sharing} (placed : s.Placed) {i k : Nat} {r : Request} {content : Bytes}
    (found : s.requests[i]? = some r) (phase : r.phase = .hashing k content) :
    ∀ record ∈ s.published ++ s.reserved, (record.source == Table.sourceOf r.url) = false := by
  obtain ⟨p, there, key⟩ := placed.busy found (k := k) (by rw [phase]; rfl)
  intro record member
  rw [← Bool.not_eq_true]
  intro same
  rcases List.mem_append.mp member with known | coming
  · cases placed.held known same there key
  · obtain ⟨other, request, held⟩ := List.mem_filterMap.mp coming
    obtain ⟨j, found'⟩ := List.getElem?_of_mem request
    have behind : other.past = some (record.source, record.hash) := by
      unfold Request.reserved at held
      split at held
      · next phase' =>
        obtain rfl := Option.some.inj held
        rw [Request.past, phase']
      · cases held
    obtain rfl : i = j := Cell.busy.inj (placed.claimed found' behind same there key)
    rw [found] at found'
    obtain rfl := Option.some.inj found'
    rw [Request.reserved, phase] at held
    cases held

theorem reserved_goes {s : Sharing} {i : Nat} {r : Request} (found : s.requests[i]? = some r)
    (phase : Phase) (same : ({ r with phase } : Request).reserved = r.reserved) :
    (s.goes i phase).reserved = s.reserved :=
  filterMap_modify_same found same

theorem past_goes {s : Sharing} {i : Nat} {r : Request} (found : s.requests[i]? = some r)
    (phase : Phase) (same : ({ r with phase } : Request).past = r.past) :
    (s.goes i phase).past = s.past :=
  filterMap_modify_same found same

theorem published_puts {s : Sharing} {k : Nat} {p : Path} {c : Cell}
    (there : s.cells[k]? = some (p, c)) (cell : Cell) (same : cell.record? = c.record?) :
    (s.puts k cell).published = s.published :=
  filterMap_modify_same there same

/-- A move that takes no prefix and neither reads a file nor makes or publishes a record changes
no account. -/
theorem Accounted.quiet {s next : Sharing} {t : Table} {files : List (Path × Bytes)}
    {calls : List (String × Path)} {move : Move} (accounted : s.Accounted t files)
    (unread : readBy calls move = none) (taken : next.taken = s.taken)
    (published : next.published = s.published) (reserved : next.reserved = s.reserved)
    (past : next.past = s.past) : next.Accounted t (files ++ (readBy calls move).toList) where
  reached := accounted.reached
  taken := accounted.taken.trans taken.symm
  records := by
    rw [published, reserved]
    exact accounted.records
  files := by
    rw [published, past, unread, Option.toList_none, List.append_nil]
    exact accounted.files

/-- What is made of a file depends on a table through the names taken in it. -/
theorem add_congr {t u : Table} (taken : t.taken = u.taken) (source dir : Path)
    (content : Bytes) : (t.add source dir content).1 = (u.add source dir content).1 ∧
      (t.add source dir content).2.taken = (u.add source dir content).2.taken := by
  have used : ∀ ext, t.used ext = u.used ext := by
    intro ext
    rw [Table.used, taken, ← Table.used]
  simp only [Table.add, used, taken, and_self]

/-- Moves keep the accounts.

Proof: a read adds to the files read and to those behind a digest to be named. A reservation adds
a record to the table, which has none of the path, and to the records on their way; what was read
for it stays the same. Publishing takes the record from its way and puts it into its cell. -/
theorem Accounted.step {s next : Sharing} {t : Table} {files : List (Path × Bytes)}
    {calls : List (String × Path)} {i : Nat} {r : Request} {move : Move}
    (accounted : s.Accounted t files) (placed : s.Placed) (found : s.requests[i]? = some r)
    (called : calls[i]? = some (r.url, r.dir)) (moves : s.Moves i r move next) :
    ∃ u, next.Accounted u (files ++ (readBy calls move).toList) := by
  have fits := placed.fits found
  cases moves with
  | finds k p c phase there key =>
    exact ⟨t, accounted.quiet rfl rfl rfl
      (reserved_goes found _ (by simp [Request.reserved, phase]))
      (past_goes found _ (by simp [Request.past, phase]))⟩
  | makes phase absent =>
    have published : (s.cells ++ [(Table.sourceOf r.url, Cell.vacant)]).filterMap (·.2.record?) =
        s.published := by
      simp [Sharing.published, Cell.record?]
    exact ⟨t, accounted.quiet rfl rfl published
      (reserved_goes (s := { s with cells := _ }) found _ (by simp [Request.reserved, phase]))
      (past_goes (s := { s with cells := _ }) found _ (by simp [Request.past, phase]))⟩
  | begins k p phase there =>
    exact ⟨t, accounted.quiet rfl rfl (published_puts there _ rfl)
      (reserved_goes found _ (by simp [Request.reserved, phase]))
      (past_goes found _ (by simp [Request.past, phase]))⟩
  | learns k p record phase there =>
    exact ⟨t, accounted.quiet rfl rfl rfl
      (reserved_goes found _ (by simp [Request.reserved, phase]))
      (past_goes found _ (by simp [Request.past, phase]))⟩
  | loads k content phase =>
    have reserved := reserved_goes found (.hashing k content) (by simp [Request.reserved, phase])
    have past : (s.goes i (.hashing k content)).past.Perm
        ((Table.sourceOf r.url, Digest.ofContent content) :: s.past) :=
      filterMap_modify_gain found (by rw [Request.past, phase]) rfl
    have read : readBy calls (.read i (.ok content)) = some (Table.sourceOf r.url, content) := by
      rw [readBy, called]
      rfl
    refine ⟨t, accounted.reached, accounted.taken, ?_, ?_⟩
    · rw [reserved]
      exact accounted.records
    · rw [read, Option.toList_some, List.map_append]
      refine (accounted.files.append_right _).trans ?_
      rw [List.append_assoc]
      exact ((List.perm_append_singleton _ _).trans past.symm).append_left _
  | fails k failure phase =>
    rw [Fits, phase] at fits
    obtain ⟨p, there, key⟩ := fits
    exact ⟨t, accounted.quiet rfl rfl (published_puts there _ rfl)
      (reserved_goes found _ (by simp [Request.reserved, phase]))
      (past_goes found _ (by simp [Request.past, phase]))⟩
  | reserves k content phase =>
    obtain ⟨record, taken⟩ := add_congr (u := s.table) accounted.taken (Table.sourceOf r.url) r.dir
      content
    have fresh : t.find? (Table.sourceOf r.url) = none := by
      rw [Table.find?, List.find?_eq_none]
      intro other member
      rw [Bool.not_eq_true]
      exact placed.fresh found phase other (accounted.records.subset member)
    let made := (s.reserve (Table.sourceOf r.url) r.dir content).1
    have reserved : (s.goes i (.publishing k made)).reserved.Perm (made :: s.reserved) :=
      filterMap_modify_gain found (by rw [Request.reserved, phase]) rfl
    have past : (s.goes i (.publishing k made)).past = s.past :=
      past_goes found _ (by simp only [Request.past, phase]; rfl)
    refine ⟨_, .added t _ r.dir content fresh accounted.reached, taken, ?_, ?_⟩
    · have records : (t.add (Table.sourceOf r.url) r.dir content).2.records =
          t.records ++ [made] := by
        rw [show made = _ from record.symm]
        rfl
      rw [records]
      refine (accounted.records.append_right _).trans ?_
      rw [List.append_assoc]
      exact ((List.perm_append_singleton _ _).trans reserved.symm).append_left _
    · rw [show readBy calls (.advance i) = none from rfl, Option.toList_none, List.append_nil]
      refine accounted.files.trans ?_
      rw [← past]
      exact List.Perm.refl _
  | publishes k record phase =>
    rw [Fits, phase] at fits
    obtain ⟨origin, p, there, key⟩ := fits
    have published : (s.puts k (.filled record)).published.Perm (record :: s.published) :=
      filterMap_modify_gain there rfl rfl
    have reserved : s.reserved.Perm (record :: (s.goes i (.answered (.ok record))).reserved) :=
      filterMap_modify_loss found (by rw [Request.reserved, phase]) rfl
    have past : s.past.Perm
        ((record.source, record.hash) :: (s.goes i (.answered (.ok record))).past) :=
      filterMap_modify_loss found (by rw [Request.past, phase]) rfl
    refine ⟨t, accounted.reached, accounted.taken, ?_, ?_⟩
    · refine accounted.records.trans ((reserved.append_left _).trans ?_)
      exact List.perm_middle.trans (published.symm.append_right _)
    · rw [show readBy calls (.advance i) = none from rfl, Option.toList_none, List.append_nil]
      refine accounted.files.trans ((past.append_left _).trans ?_)
      exact List.perm_middle.trans
        ((published.symm.map fun record => (record.source, record.hash)).append_right _)

/-- Runs of moves go on from where they came to. -/
theorem run_append (s : Sharing) (moves later : List Move) :
    s.run (moves ++ later) = s.run moves >>= (·.run later) := by
  simp only [run, List.foldlM_append]

/-- What holds of calls after moves. -/
structure Holds (calls : List (String × Path)) (moves : List Move) (s : Sharing) : Prop where
  called : s.requests.map (fun r => (r.url, r.dir)) = calls
  placed : s.Placed
  accounted : ∃ t, s.Accounted t (reads calls moves)
  bounded : moves.length + (s.requests.map (·.phase.left)).sum ≤ 5 * calls.length

theorem start_holds (calls : List (String × Path)) : Holds calls [] (start calls) where
  called := by
    rw [start, List.map_map]
    exact List.map_id calls
  placed := by
    refine ⟨List.Pairwise.nil, ?_, by simp [start], by simp [start]⟩
    intro i r found
    obtain ⟨call, _, rfl⟩ := List.mem_map.mp (List.mem_of_getElem? found)
    trivial
  accounted := by
    have called : ∀ {β : Type} (f : Request → Option β),
        (∀ url dir, f { url, dir } = none) → (start calls).requests.filterMap f = [] := by
      intro β f unset
      simp [start, List.filterMap_map, unset]
    refine ⟨{}, .same, rfl, ?_, ?_⟩
    · rw [reserved, called _ (fun _ _ => rfl)]
      exact List.Perm.nil
    · rw [past, called _ (fun _ _ => rfl)]
      exact List.Perm.nil
  bounded := by
    have five : (start calls).requests.map (·.phase.left) = List.replicate calls.length 5 := by
      simp [start, Phase.left, Function.comp_def]
    rw [five, List.sum_replicate]
    simp [Nat.mul_comm]

theorem Holds.step {calls : List (String × Path)} {moves : List Move} {s next : Sharing}
    {move : Move} (holds : Holds calls moves s) (given : s.step move = some next) :
    Holds calls (moves ++ [move]) next := by
  obtain ⟨i, r, found, kind⟩ := step_moves given
  obtain ⟨phase, nearer, requests⟩ := kind.requests
  have called : calls[i]? = some (r.url, r.dir) := by
    rw [← holds.called, List.getElem?_map, found]
    rfl
  obtain ⟨t, accounted⟩ := holds.accounted
  refine ⟨?_, holds.placed.step found kind, ?_, ?_⟩
  · rw [requests, ← holds.called]
    apply List.ext_getElem?
    intro j
    rw [List.getElem?_map, List.getElem?_map, List.getElem?_modify]
    cases s.requests[j]? with
    | none => rfl
    | some other =>
      simp only [Option.map_eq_map, Option.map_some]
      split <;> rfl
  · rw [reads, List.filterMap_append]
    have last : [move].filterMap (readBy calls) = (readBy calls move).toList := by
      cases read : readBy calls move <;> simp [read]
    rw [last]
    exact accounted.step holds.placed found called kind
  · have change := sum_modify (f := fun r : Request => r.phase.left)
      (g := fun r => { r with phase }) found
    have bounded := holds.bounded
    rw [requests, List.length_append, List.length_singleton]
    dsimp only at change
    omega

theorem run_holds {calls : List (String × Path)} {moves : List Move} {s : Sharing}
    (ran : (start calls).run moves = some s) : Holds calls moves s := by
  induction moves using List.reverseRecOn generalizing s with
  | nil =>
    obtain rfl : start calls = s := Option.some.inj ran
    exact start_holds calls
  | append_singleton moves move inductionHypothesis =>
    rw [run_append] at ran
    obtain ⟨between, first, last⟩ := Option.bind_eq_some_iff.mp ran
    exact (inductionHypothesis first).step (by simpa [run] using last)

/-- A request that fills a cell can move. -/
theorem fills_moves {s : Sharing} {i k : Nat} {r : Request} (found : s.requests[i]? = some r)
    (fills : r.phase.fills = some k) : ∃ move, (s.step move).isSome = true := by
  cases phase : r.phase with
  | reading k' => exact ⟨.read i (.ok .empty), by simp [Sharing.step, found, phase]⟩
  | hashing k' content => exact ⟨.advance i, by simp [Sharing.step, advance, found, phase]⟩
  | publishing k' record => exact ⟨.advance i, by simp [Sharing.step, advance, found, phase]⟩
  | called | waiting _ | answered _ =>
    rw [phase] at fills
    cases fills

/-- Unless all requests are answered, one of them can move.

Proof: a request that waits for a cell can move unless the cell is being filled, and then the
request that fills the cell can move. -/
theorem Placed.progress {s : Sharing} (placed : s.Placed) :
    (∃ move, (s.step move).isSome = true) ∨
      ∀ r ∈ s.requests, ∃ answer, r.phase = .answered answer := by
  by_cases all : ∀ r ∈ s.requests, ∃ answer, r.phase = .answered answer
  · exact Or.inr all
  left
  push Not at all
  obtain ⟨r, member, unanswered⟩ := all
  obtain ⟨i, found⟩ := List.getElem?_of_mem member
  cases phase : r.phase with
  | called => exact ⟨.advance i, by simp [Sharing.step, advance, found, phase]⟩
  | waiting k =>
    have fits := placed.fits found
    rw [Fits, phase] at fits
    obtain ⟨p, c, there, _⟩ := fits
    cases c with
    | vacant => exact ⟨.advance i, by simp [Sharing.step, advance, found, phase, there]⟩
    | filled record => exact ⟨.advance i, by simp [Sharing.step, advance, found, phase, there]⟩
    | busy owner =>
      obtain ⟨other, named, fills⟩ := placed.owner there
      exact fills_moves named fills
  | answered answer => exact absurd phase (unanswered answer)
  | reading k | hashing k content | publishing k record =>
    exact fills_moves found (k := k) (by rw [phase]; rfl)

/-- A record that is published is found as the record of its path. -/
theorem Placed.found {s : Sharing} (placed : s.Placed) {record : Record} {source : Path}
    (member : record ∈ s.published) (same : (record.source == source) = true) :
    s.table.find? source = some record := by
  obtain ⟨other, found⟩ : ∃ other, s.table.find? source = some other :=
    Option.isSome_iff_exists.mp (List.find?_isSome.mpr ⟨record, member, same⟩)
  have key := Table.find_source found
  obtain ⟨k, p, there, origin⟩ := placed.published member
  have one := placed.held (List.mem_of_find?_eq_some found) key there (Path.beq_trans origin same)
  rw [found, Cell.filled.inj one]

/-- What requests come to that share a new table, whatever the order of their moves and whatever
the store answers. There is at most one record for a path, and each answered request has the record
that a look-up finds for it. The file of a record was read successfully once and the record has the
digest of what was read; no file was read successfully twice. The prefixes taken are those of the
published records and of the records on their way, each named by its prefix, and no prefix was
taken twice for one extension. No request makes more than five moves, and as long as one is not
answered there is a move to make. When all are answered, every prefix taken and every file read
belongs to a published record.

Proof: the invariants hold of a new table, and moves keep them. The names are those of a table
that makes the records one after the other. -/
theorem run_shared (calls : List (String × Path)) (moves : List Move) (s : Sharing)
    (ran : (start calls).run moves = some s) :
    s.requests.map (fun r => (r.url, r.dir)) = calls ∧
    s.published.Pairwise (fun a b => (a.source == b.source) = false) ∧
    (∀ r ∈ s.requests, ∀ record, r.phase = .answered (.ok record) →
      s.table.get? r.url = some record) ∧
    (∀ record ∈ s.published, ∃ content, record.hash = Digest.ofContent content ∧
      (reads calls moves).filter (·.1 == record.source) = [(record.source, content)]) ∧
    (∀ path, ((reads calls moves).filter (·.1 == path)).length ≤ 1) ∧
    s.taken.Perm ((s.published ++ s.reserved).map fun r => (extension r.source, r.short)) ∧
    s.taken.Nodup ∧
    (∀ record ∈ s.published ++ s.reserved, record.Named) ∧
    moves.length ≤ 5 * calls.length ∧
    ((∃ move, (s.step move).isSome = true) ∨
      (∀ r ∈ s.requests, ∃ answer, r.phase = .answered answer) ∧
        s.taken.Perm (s.published.map fun r => (extension r.source, r.short)) ∧
        (reads calls moves).length = s.published.length) := by
  obtain ⟨called, placed, ⟨t, accounted⟩, bounded⟩ := run_holds ran
  have sound : t.Sound := accounted.reached.sound Table.sound_empty
  have apart := placed.apart
  have taken : s.taken.Perm
      ((s.published ++ s.reserved).map fun r => (extension r.source, r.short)) := by
    rw [← accounted.taken, sound.taken]
    exact accounted.records.map _
  have single : (reads calls moves).Pairwise fun a b => (a.1 == b.1) = false := by
    have digests := (accounted.files.pairwise_iff (by
      intro a b different
      rw [Path.beq_comm]
      exact different)).mpr apart
    exact List.pairwise_map.mp digests
  refine ⟨called, ?_, ?_, ?_, filter_length single, taken, ?_, ?_, ?_, ?_⟩
  · exact List.pairwise_map.mp (List.pairwise_append.mp apart).1
  · intro r member record answered
    obtain ⟨i, found⟩ := List.getElem?_of_mem member
    have fits := placed.fits found
    rw [Fits, answered] at fits
    obtain ⟨k, p, there, key⟩ := fits
    have inside : record ∈ s.published :=
      List.mem_filterMap.mpr ⟨_, List.mem_of_getElem? there, rfl⟩
    exact placed.found inside (Path.beq_trans (placed.source there) key)
  · intro record member
    have behind : (record.source, record.hash) ∈
        (reads calls moves).map fun file => (file.1, Digest.ofContent file.2) :=
      accounted.files.symm.subset (List.mem_append_left _
        (List.mem_map_of_mem (f := fun r : Record => (r.source, r.hash)) member))
    obtain ⟨file, read, same⟩ := List.mem_map.mp behind
    obtain ⟨source, hash⟩ := Prod.mk.inj same
    refine ⟨file.2, hash.symm, ?_⟩
    rw [← source]
    exact filter_single single read
  · rw [← accounted.taken]
    exact sound.distinct
  · intro record member
    exact sound.named record (accounted.records.symm.subset member)
  · omega
  · refine placed.progress.imp id fun answered => ⟨answered, ?_, ?_⟩
    · have none : s.reserved = [] := by
        rw [reserved, List.filterMap_eq_nil_iff]
        intro r member
        obtain ⟨answer, phase⟩ := answered r member
        rw [Request.reserved, phase]
      rwa [none, List.append_nil] at taken
    · have none : s.past = [] := by
        rw [past, List.filterMap_eq_nil_iff]
        intro r member
        obtain ⟨answer, phase⟩ := answered r member
        rw [Request.past, phase]
      have length := accounted.files.length_eq
      rwa [none, List.append_nil, List.length_map, List.length_map] at length

/-- Three requests, two of them for one path and all for one content. The first read fails, so the
waiting request reads the file again, while the third one reads its own file and is the first to
reserve a prefix. -/
theorem run_shared_retried :
    let calls : List (String × Path) :=
      [("/a.png", ⟨"/out"⟩), ("/a.png?v=2", ⟨"/out"⟩), ("/b.png", ⟨"/out"⟩)]
    let content := "same".toUTF8
    let moves : List Move :=
      [.advance 0, .advance 1, .advance 0, .advance 2, .read 0 (.error (.refused "busy")),
        .advance 1, .advance 2, .read 1 (.ok content), .read 2 (.ok content), .advance 2,
        .advance 1, .advance 1, .advance 2]
    ((start calls).run moves).map (·.published.map (·.name)) = some ["CW.png", "C.png"] ∧
      ∀ s, (start calls).run moves = some s → s.taken.Nodup ∧
        ∀ path, ((reads calls moves).filter (·.1 == path)).length ≤ 1 := by
  intro calls content moves
  have names : ((start calls).run moves).map (·.published.map (·.name)) =
      some ["CW.png", "C.png"] := by
    decide +kernel
  refine ⟨names, ?_⟩
  intro s ran
  obtain ⟨_, _, _, _, once, _, distinct, _⟩ := run_shared calls moves s ran
  exact ⟨distinct, once⟩

end Sharing

end Pagefold.Asset
