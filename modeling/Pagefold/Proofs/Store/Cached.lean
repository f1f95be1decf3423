import Mathlib
import Pagefold.Proofs.Config
import Pagefold.Proofs.Store.Operation
import Pagefold.Store.Cached

/-!
# A cache answers as its store does

What is remembered is what the store would answer. A change of the store is felt at the paths that
it touches and in the listings of their parents, and each change forgets at least these. So the
operations have the same replies with a cache as without one, and leave the same store behind but
for the counts of reads.
-/
namespace Pagefold

/-- All that is remembered is what the store answers. -/
structure Cache.Agrees (c : Cache) (s : Memory) : Prop where
  contents : ∀ slot ∈ c.contents, s.file? slot.1 = some slot.2
  entries : ∀ slot ∈ c.entries, s.entry? slot.1 = some slot.2
  listings : ∀ slot ∈ c.listings, (Memory.list slot.1 s).1 = .ok slot.2

namespace Cache

/-- A slot that is found is one for the path under some spelling. -/
theorem slot_found {α : Type} {slots : List (Path × α)} {p : Path} {a : α}
    (found : slots.lookup p = some a) : ∃ q, (q, a) ∈ slots ∧ q.components = p.components := by
  rw [List.lookup_eq_findSome?] at found
  obtain ⟨slot, member, chosen⟩ := List.exists_of_findSome?_eq_some found
  split at chosen
  · next same =>
    obtain rfl : slot.2 = a := by simpa using chosen
    exact ⟨slot.1, member, ((Path.beq_iff p slot.1).mp same).symm⟩
  · cases chosen

section Spelling

variable {s : Memory} {p q : Path} (same : q.components = p.components)

include same

theorem hasDir_congr : s.hasDir q = s.hasDir p := by
  rw [Bool.eq_iff_iff, Memory.hasDir_iff, Memory.hasDir_iff, same]

/-- What is known about a path is known under every spelling. -/
theorem entry_congr : s.entry? q = s.entry? p := by
  have marked : s.readOnly.contains q = s.readOnly.contains p := by
    rw [Bool.eq_iff_iff, Memory.contains_iff, Memory.contains_iff, same]
  simp only [ Memory.entry?, s.file_congr q p same, hasDir_congr same, marked]

/-- A listing that is given for a path is given under every spelling. -/
theorem list_congr {names : List String} (given : (Memory.list q s).1 = .ok names) :
    (Memory.list p s).1 = .ok names := by
  have marked : s.unlistable.contains q = s.unlistable.contains p := by
    rw [Bool.eq_iff_iff, Memory.contains_iff, Memory.contains_iff, same]
  have listed : s.names q = s.names p := by
    have spelled : ∀ parent : Path, (parent == q) = (parent == p) := by
      intro parent
      rw [Bool.eq_iff_iff, Path.beq_iff, Path.beq_iff, same]
    simp only [Memory.names, spelled]
  rw [← given]
  simp only [Memory.list, hasDir_congr same, marked, listed] at given ⊢
  split at given
  · cases given
  · split at given
    · cases given
    · next known listable => simp [known, listable]

end Spelling

section Forgetting

variable {c c' : Cache} {s s' : Memory} {touched : Path → Bool}

/-- What a cache keeps when some paths are touched. -/
structure Clears (c c' : Cache) (touched : Path → Bool) : Prop where
  contents : ∀ slot ∈ c'.contents, slot ∈ c.contents ∧ touched slot.1 = false
  entries : ∀ slot ∈ c'.entries, slot ∈ c.entries ∧ touched slot.1 = false
  listings : ∀ slot ∈ c'.listings, slot ∈ c.listings ∧ touched slot.1 = false ∧
    ∀ p parent, touched p = true → p.parent? = some parent → (parent == slot.1) = false

/-- A cache that forgets what is touched agrees with the store after the change. -/
theorem Agrees.change (agrees : c.Agrees s) (spelled : Memory.Spelled touched)
    (same : Memory.SameOutside touched s s') (clears : c.Clears c' touched) : c'.Agrees s' where
  contents := by
    intro slot member
    obtain ⟨old, outside⟩ := clears.contents slot member
    rw [same.file spelled _ outside, agrees.contents slot old]
  entries := by
    intro slot member
    obtain ⟨old, outside⟩ := clears.entries slot member
    rw [same.entry spelled _ outside, agrees.entries slot old]
  listings := by
    intro slot member
    obtain ⟨old, outside, above⟩ := clears.listings slot member
    rw [same.list spelled _ outside above, agrees.listings slot old]

theorem mem_dropWhere {α : Type} {gone : Path → Bool} {slots : List (Path × α)}
    {slot : Path × α} : slot ∈ dropWhere gone slots ↔ slot ∈ slots ∧ gone slot.1 = false := by
  simp [dropWhere]

/-- The parent of a spelling of a path is the parent of the path. -/
theorem parent_of_same {p q parent : Path} (same : (p == q) = true)
    (found : p.parent? = some parent) :
    ∃ other, q.parent? = some other ∧ ∀ slot : Path, (parent == slot) = (slot == other) := by
  obtain ⟨other, higher, equal⟩ := Path.parent_congr ((Path.beq_iff p q).mp same) found
  refine ⟨other, higher, fun slot => ?_⟩
  rw [Bool.eq_iff_iff, Path.beq_iff, Path.beq_iff, equal, eq_comm]

theorem forget_contents (c : Cache) (p : Path) :
    (c.forget p).contents = dropWhere (· == p) c.contents := rfl

theorem forget_entries (c : Cache) (p : Path) :
    (c.forget p).entries =
      dropWhere (fun q => q == p || (p.parent?.map (q == ·)).getD false) c.entries := rfl

theorem forget_listings (c : Cache) (p : Path) :
    (c.forget p).listings =
      dropWhere (fun q => q == p || (p.parent?.map (q == ·)).getD false) c.listings := rfl

/-- Forgetting a path clears it. -/
theorem clears_forget (c : Cache) (p : Path) : c.Clears (c.forget p) (· == p) := by
  constructor
  · intro slot member
    rwa [forget_contents, mem_dropWhere] at member
  · intro slot member
    rw [forget_entries, mem_dropWhere] at member
    exact ⟨member.1, (Bool.or_eq_false_iff.mp member.2).1⟩
  · intro slot member
    rw [forget_listings, mem_dropWhere] at member
    obtain ⟨apart, notParent⟩ := Bool.or_eq_false_iff.mp member.2
    refine ⟨member.1, apart, fun q parent same found => ?_⟩
    obtain ⟨other, higher, equal⟩ := parent_of_same same found
    simpa [higher, equal] using notParent

/-- Forgetting paths one after the other clears all of them. -/
theorem clears_forgetAll (ps : List Path) (c : Cache) :
    c.Clears (ps.foldl forget c) ps.contains := by
  induction ps generalizing c with
  | nil => exact ⟨by simp, by simp, by simp⟩
  | cons p rest inductionHypothesis =>
    have first := c.clears_forget p
    have later := inductionHypothesis (c.forget p)
    have both : ∀ q : Path, (p :: rest).contains q = (q == p || rest.contains q) := fun q =>
      List.contains_cons
    constructor
    · intro slot member
      obtain ⟨middle, notLater⟩ := later.contents slot member
      obtain ⟨old, notFirst⟩ := first.contents slot middle
      exact ⟨old, by rw [both, notFirst, notLater]; rfl⟩
    · intro slot member
      obtain ⟨middle, notLater⟩ := later.entries slot member
      obtain ⟨old, notFirst⟩ := first.entries slot middle
      exact ⟨old, by rw [both, notFirst, notLater]; rfl⟩
    · intro slot member
      obtain ⟨middle, notLater, aboveLater⟩ := later.listings slot member
      obtain ⟨old, notFirst, aboveFirst⟩ := first.listings slot middle
      refine ⟨old, by rw [both, notFirst, notLater]; rfl, fun q parent touched found => ?_⟩
      rw [both, Bool.or_eq_true] at touched
      exact touched.elim (fun here => aboveFirst q parent here found)
        fun there => aboveLater q parent there found

/-- Forgetting a tree clears what lies at or below its root.

Proof: the parent of a path below the root lies below the root, or the path is the root itself. -/
theorem clears_forgetTree (c : Cache) (p : Path) : c.Clears (c.forgetTree p) (·.isBelow p) := by
  have root := clears_forget
    { contents := dropWhere (·.isBelow p) c.contents
      listings := dropWhere (·.isBelow p) c.listings
      entries := dropWhere (·.isBelow p) c.entries } p
  constructor
  · intro slot member
    simpa only [mem_dropWhere] using (root.contents slot member).1
  · intro slot member
    simpa only [mem_dropWhere] using (root.entries slot member).1
  · intro slot member
    obtain ⟨middle, _, above⟩ := root.listings slot member
    obtain ⟨old, outside⟩ : slot ∈ c.listings ∧ slot.1.isBelow p = false := by
      simpa only [mem_dropWhere] using middle
    refine ⟨old, outside, fun q parent below found => ?_⟩
    rcases Path.parent_below found below with same | inside
    · exact above q parent same found
    · rw [← Bool.not_eq_true]
      intro same
      rw [Path.isBelow_congr _ _ p same, outside] at inside
      cases inside

end Forgetting

end Cache

/-- A cache above a store mirrors a store without one: the cache agrees with the store below it, and
this is the other one but for the counts of reads. -/
structure Mirrors (c : Cache) (s t : Memory) : Prop where
  agrees : c.Agrees s
  closed : s.Closed
  same : t = { s with reads := t.reads }

namespace Memory

section Counted

variable (s : Memory) (reads : List (Path × Nat))

/-- A count of reads does not matter to an operation, and is only changed by reads. -/
theorem read_counted (p : Path) :
    ∃ counts, read p { s with reads := reads } = ((read p s).1, { s with reads := counts }) := by
  unfold read
  cases found : s.file? p with
  | none =>
    have none : ({ s with reads := reads } : Memory).file? p = none := found
    rw [none]
    exact ⟨_, rfl⟩
  | some content =>
    have some : ({ s with reads := reads } : Memory).file? p = some content := found
    rw [some]
    exact ⟨_, rfl⟩

theorem write_counted (p : Path) (content : Bytes) :
    write p content { s with reads := reads } =
      ((write p content s).1, { (write p content s).2 with reads := reads }) := by
  have same : ({ s with reads := reads } : Memory).missingParent? p = s.missingParent? p := rfl
  unfold write
  rw [same]
  split <;> rfl

theorem createDir_counted (p : Path) (above : Bool) :
    createDir p above { s with reads := reads } =
      ((createDir p above s).1, { (createDir p above s).2 with reads := reads }) := by
  have same : ({ s with reads := reads } : Memory).missingParent? p = s.missingParent? p := rfl
  unfold createDir
  rw [same]
  split <;> rfl

theorem removeTree_counted (p : Path) :
    removeTree p { s with reads := reads } =
      ((removeTree p s).1, { (removeTree p s).2 with reads := reads }) := by
  have same : ({ s with reads := reads } : Memory).hasDir p = s.hasDir p := rfl
  unfold removeTree
  rw [same]
  split <;> rfl

theorem copy_counted (source target : Path) :
    ∃ counts, copy source target { s with reads := reads } =
      ((copy source target s).1, { (copy source target s).2 with reads := counts }) := by
  obtain ⟨counts, asked⟩ := s.read_counted reads source
  obtain ⟨own, alone⟩ := s.read_counted s.reads source
  have here : read source s = ((read source s).1, { s with reads := own }) := alone
  unfold copy
  rw [asked, here]
  cases (read source s).1 with
  | error e => exact ⟨counts, rfl⟩
  | ok content =>
    exact ⟨counts, write_counted { s with reads := own } counts target content⟩

theorem entry_counted (p : Path) :
    (FileStore.entry p : ExceptT StoreError (StateM Memory) Entry).run.run
        { s with reads := reads } =
      (((FileStore.entry p : ExceptT StoreError (StateM Memory) Entry).run.run s).1,
        { s with reads := reads }) := rfl

theorem list_counted (p : Path) :
    list p { s with reads := reads } = ((list p s).1, { s with reads := reads }) := by
  have dirs : ({ s with reads := reads } : Memory).hasDir p = s.hasDir p := rfl
  unfold list
  rw [dirs]
  split <;> [rfl; split <;> rfl]

end Counted

/-- An operation that changes something leaves all as it is if it fails, but for counts. -/
theorem write_failed {s : Memory} {p : Path} {content : Bytes} {e : StoreError}
    (failed : (write p content s).1 = .error e) : (write p content s).2 = s := by
  unfold write at failed ⊢
  split at failed
  · rfl
  · cases failed

theorem createDir_failed {s : Memory} (p : Path) (above : Bool) {e : StoreError}
    (failed : (createDir p above s).1 = .error e) : (createDir p above s).2 = s := by
  unfold createDir at failed ⊢
  split at failed
  · rfl
  · cases failed

theorem removeTree_failed {s : Memory} {p : Path} {e : StoreError}
    (failed : (removeTree p s).1 = .error e) : (removeTree p s).2 = s := by
  unfold removeTree at failed ⊢
  split at failed
  · cases failed
  · next missing => rw [if_neg missing]

theorem copy_failed {s : Memory} {source target : Path} {e : StoreError}
    (failed : (copy source target s).1 = .error e) :
    ∃ counts, (copy source target s).2 = { s with reads := counts } := by
  obtain ⟨counts, alone⟩ := s.read_counted s.reads source
  have here : read source s = ((read source s).1, { s with reads := counts }) := alone
  unfold copy at failed ⊢
  rw [here] at failed ⊢
  cases answer : (read source s).1 with
  | error e => exact ⟨counts, rfl⟩
  | ok content =>
    rw [answer] at failed
    exact ⟨counts, write_failed failed⟩

/-- A directory that is created in a known one comes alone. -/
theorem Closed.createDir_outside {s : Memory} (closed : s.Closed) (p : Path) :
    SameOutside (· == p) s (Memory.createDir p false s).2 := by
  unfold Memory.createDir
  split
  · exact ⟨rfl, rfl, rfl, rfl⟩
  · next held =>
    rw [Memory.insertDir, closed.addParents (by simpa using held)]
    exact ⟨rfl, adjoin_outside p _ (Path.beq_self p), rfl, rfl⟩

end Memory

namespace Mirrors

variable {c : Cache} {s t : Memory}

/-- A new cache mirrors the store that it is put above. -/
theorem new (closed : s.Closed) : Mirrors {} s s where
  agrees := ⟨by simp, by simp, by simp⟩
  closed := closed
  same := rfl

/-- Counts of reads do not matter to what a cache agrees with. -/
theorem agrees_counted (agrees : c.Agrees s) (reads : List (Path × Nat)) :
    c.Agrees { s with reads := reads } where
  contents := agrees.contents
  entries := agrees.entries
  listings slot member := by
    rw [Memory.list_counted]
    exact agrees.listings slot member

/-- A reply and what is there after it, with a cache and without one. -/
def Same {α : Type} (cached : (α × Cache) × Memory) (direct : α × Memory) : Prop :=
  cached.1.1 = direct.1 ∧ Mirrors cached.1.2 cached.2 direct.2

theorem Same.map {α β : Type} {cached : (α × Cache) × Memory} {direct : α × Memory}
    (same : Same cached direct) (f : α → β) :
    Same ((f cached.1.1, cached.1.2), cached.2) (f direct.1, direct.2) :=
  ⟨congrArg f same.1, same.2⟩

theorem remembering_run {α : Type} (p : Path) (slots : Cache → List (Path × α))
    (keep : List (Path × α) → Cache → Cache) (action : ExceptT StoreError (StateM Memory) α)
    (c : Cache) (s : Memory) :
    ((Cached.remembering p slots keep action).run.run c).run s =
      match (slots c).lookup p with
      | some known => ((.ok known, c), s)
      | none =>
        match action.run.run s with
        | (.ok found, s') => ((.ok found, keep ((p, found) :: slots c) c), s')
        | (.error e, s') => ((.error e, c), s') := by
  have asked : ∀ f : Cache → ExceptT StoreError (StateT Cache (StateM Memory)) α,
      ((get >>= f).run.run c).run s = ((f c).run.run c).run s := fun _ => rfl
  rw [Cached.remembering, asked]
  cases (slots c).lookup p with
  | some known => rfl
  | none =>
    rcases result : action.run.run s with ⟨answer, s'⟩
    cases answer <;> simp [Cached.below, result] <;> rfl

theorem changing_run (action : ExceptT StoreError (StateM Memory) Unit) (touch : Cache → Cache)
    (c : Cache) (s : Memory) :
    ((Cached.changing action touch).run.run c).run s =
      match action.run.run s with
      | (.ok u, s') => ((.ok u, touch c), s')
      | (.error e, s') => ((.error e, c), s') := by
  rcases result : action.run.run s with ⟨answer, s'⟩
  cases answer <;> simp [Cached.changing, Cached.below, result] <;> rfl

variable (mirrors : Mirrors c s t)

include mirrors

/-- A question is answered alike, whether the answer is remembered or not. -/
theorem remember {α : Type} {p : Path} {slots : Cache → List (Path × α)}
    {keep : List (Path × α) → Cache → Cache} {action : ExceptT StoreError (StateM Memory) α}
    (asks : ∀ reads, ∃ counts, action.run.run { s with reads := reads } =
      ((action.run.run s).1, { s with reads := counts }))
    (known : ∀ a, (slots c).lookup p = some a → (action.run.run s).1 = .ok a)
    (kept : ∀ a, (action.run.run s).1 = .ok a → (keep ((p, a) :: slots c) c).Agrees s) :
    Same (((Cached.remembering p slots keep action).run.run c).run s) (action.run.run t) := by
  obtain ⟨counts, direct⟩ := asks t.reads
  obtain ⟨own, alone⟩ := asks s.reads
  have here : action.run.run s = ((action.run.run s).1, { s with reads := own }) := alone
  rw [mirrors.same, direct, remembering_run]
  cases found : (slots c).lookup p with
  | some a => exact ⟨(known a found).symm, mirrors.agrees, mirrors.closed, rfl⟩
  | none =>
    rw [here]
    cases answer : (action.run.run s).1 with
    | error e => exact ⟨rfl, agrees_counted mirrors.agrees own, mirrors.closed, rfl⟩
    | ok a => exact ⟨rfl, agrees_counted (kept a answer) own, mirrors.closed, rfl⟩

/-- A change has the same effect, and the cache forgets what it touches. -/
theorem change {touched : Path → Bool} {touch : Cache → Cache}
    {action : ExceptT StoreError (StateM Memory) Unit}
    (alike : ∀ reads, ∃ counts, action.run.run { s with reads := reads } =
      ((action.run.run s).1, { (action.run.run s).2 with reads := counts }))
    (failed : ∀ e, (action.run.run s).1 = .error e →
      ∃ counts, (action.run.run s).2 = { s with reads := counts })
    (closed : (action.run.run s).2.Closed) (spelled : Memory.Spelled touched)
    (outside : Memory.SameOutside touched s (action.run.run s).2)
    (clears : c.Clears (touch c) touched) :
    Same (((Cached.changing action touch).run.run c).run s) (action.run.run t) := by
  obtain ⟨counts, direct⟩ := alike t.reads
  rw [mirrors.same, direct, changing_run]
  rcases result : action.run.run s with ⟨answer, s'⟩
  rw [result] at failed closed outside
  cases answer with
  | ok u => exact ⟨rfl, mirrors.agrees.change spelled outside clears, closed, rfl⟩
  | error e =>
    obtain ⟨own, same⟩ := failed e rfl
    obtain rfl : s' = { s with reads := own } := same
    exact ⟨rfl, agrees_counted mirrors.agrees own, closed, rfl⟩

theorem read (p : Path) :
    Same
      (((FileStore.read p : ExceptT StoreError (StateT Cache (StateM Memory)) _).run.run c).run s)
      ((FileStore.read p : ExceptT StoreError (StateM Memory) _).run.run t) := by
  have answers : ∀ a, (Memory.read p s).1 = .ok a ↔ s.file? p = some a := by
    intro a
    unfold Memory.read
    cases s.file? p <;> simp
  refine mirrors.remember (fun reads => s.read_counted reads p) ?_ ?_
  · intro a found
    obtain ⟨q, member, same⟩ := Cache.slot_found found
    exact (answers a).mpr ((s.file_congr q p same).symm.trans (mirrors.agrees.contents _ member))
  · intro a answer
    refine ⟨?_, mirrors.agrees.entries, mirrors.agrees.listings⟩
    intro slot member
    rcases List.mem_cons.mp member with rfl | old
    · exact (answers a).mp answer
    · exact mirrors.agrees.contents slot old

theorem entry (p : Path) :
    Same
      (((FileStore.entry p : ExceptT StoreError (StateT Cache (StateM Memory)) _).run.run c).run s)
      ((FileStore.entry p : ExceptT StoreError (StateM Memory) _).run.run t) := by
  have answers : ∀ a, ((FileStore.entry p : ExceptT StoreError (StateM Memory) Entry).run.run s).1 =
      .ok a ↔ s.entry? p = some a := by
    intro a
    rw [s.entry_run p]
    cases s.entry? p <;> simp
  refine mirrors.remember (fun reads => ⟨reads, s.entry_counted reads p⟩) ?_ ?_
  · intro a found
    obtain ⟨q, member, same⟩ := Cache.slot_found found
    exact (answers a).mpr
      ((Cache.entry_congr same).symm.trans (mirrors.agrees.entries _ member))
  · intro a answer
    refine ⟨mirrors.agrees.contents, ?_, mirrors.agrees.listings⟩
    intro slot member
    rcases List.mem_cons.mp member with rfl | old
    · exact (answers a).mp answer
    · exact mirrors.agrees.entries slot old

theorem list (p : Path) :
    Same
      (((FileStore.list p : ExceptT StoreError (StateT Cache (StateM Memory)) _).run.run c).run s)
      ((FileStore.list p : ExceptT StoreError (StateM Memory) _).run.run t) := by
  refine mirrors.remember (fun reads => ⟨reads, s.list_counted reads p⟩) ?_ ?_
  · intro a found
    obtain ⟨q, member, same⟩ := Cache.slot_found found
    exact Cache.list_congr same (mirrors.agrees.listings _ member)
  · intro a answer
    refine ⟨mirrors.agrees.contents, mirrors.agrees.entries, ?_⟩
    intro slot member
    rcases List.mem_cons.mp member with rfl | old
    · exact answer
    · exact mirrors.agrees.listings slot old

omit mirrors in
theorem hasEntry_run (p : Path) (c : Cache) (s : Memory) :
    ((FileStore.hasEntry p : StateT Cache (StateM Memory) Bool).run c).run s =
      (((c.entries.lookup p).isSome || s.has p, c), s) := by
  have asked : ((FileStore.hasEntry p : StateT Cache (StateM Memory) Bool).run c).run s =
      ((if (c.entries.lookup p).isSome then (pure true : StateT Cache (StateM Memory) Bool)
        else StateT.lift (FileStore.hasEntry p)).run c).run s := rfl
  rw [asked]
  cases (c.entries.lookup p).isSome <;> rfl

/-- A path with a remembered entry is there. -/
theorem hasEntry (p : Path) :
    Same (((FileStore.hasEntry p : StateT Cache (StateM Memory) Bool).run c).run s)
      ((FileStore.hasEntry p : StateM Memory Bool).run t) := by
  have there : (c.entries.lookup p).isSome = true → s.has p = true := by
    intro found
    obtain ⟨e, found⟩ := Option.isSome_iff_exists.mp found
    obtain ⟨q, member, same⟩ := Cache.slot_found found
    have known := (Cache.entry_congr same).symm.trans (mirrors.agrees.entries _ member)
    unfold Memory.entry? at known
    cases file : s.file? p with
    | some content => simp [Memory.has, file]
    | none => cases dir : s.hasDir p <;> simp_all [Memory.has]
  have replies : ((c.entries.lookup p).isSome || s.has p) = s.has p := by
    cases found : (c.entries.lookup p).isSome with
    | false => rfl
    | true => rw [there found]; rfl
  rw [hasEntry_run, replies, mirrors.same]
  exact ⟨rfl, mirrors.agrees, mirrors.closed, rfl⟩

theorem allows (p : Path) (access : Access) :
    Same (((FileStore.allows p access : StateT Cache (StateM Memory) Bool).run c).run s)
      ((FileStore.allows p access : StateM Memory Bool).run t) := by
  rw [mirrors.same]
  exact ⟨by cases access <;> rfl, mirrors.agrees, mirrors.closed, rfl⟩

theorem write (p : Path) (content : Bytes) :
    Same
      (((FileStore.write p content : ExceptT StoreError (StateT Cache (StateM Memory)) _).run.run
        c).run s)
      ((FileStore.write p content : ExceptT StoreError (StateM Memory) _).run.run t) :=
  mirrors.change (fun reads => ⟨reads, s.write_counted reads p content⟩)
    (fun _ failed => ⟨s.reads, Memory.write_failed failed⟩) (mirrors.closed.write p content)
    (Memory.spelled_same p) (s.write_outside p content) (c.clears_forget p)

theorem copy (source target : Path) :
    Same
      (((FileStore.copy source target : ExceptT StoreError (StateT Cache (StateM Memory)) _).run.run
        c).run s)
      ((FileStore.copy source target : ExceptT StoreError (StateM Memory) _).run.run t) :=
  mirrors.change (fun reads => s.copy_counted reads source target)
    (fun _ failed => Memory.copy_failed failed) (mirrors.closed.copy source target)
    (Memory.spelled_same target) (s.copy_outside source target) (c.clears_forget target)

theorem removeTree (p : Path) :
    Same
      (((FileStore.removeTree p : ExceptT StoreError (StateT Cache (StateM Memory)) _).run.run
        c).run s)
      ((FileStore.removeTree p : ExceptT StoreError (StateM Memory) _).run.run t) :=
  mirrors.change (fun reads => ⟨reads, s.removeTree_counted reads p⟩)
    (fun _ failed => ⟨s.reads, Memory.removeTree_failed failed⟩) (mirrors.closed.removeTree p)
    (Memory.spelled_below p) (s.removeTree_outside p) (c.clears_forgetTree p)

/-- Creating a directory touches its path, and those above it if they are created too. -/
theorem createDir (p : Path) (above : Bool) :
    Same
      (((FileStore.createDir p above : ExceptT StoreError (StateT Cache (StateM Memory)) _).run.run
        c).run s)
      ((FileStore.createDir p above : ExceptT StoreError (StateM Memory) _).run.run t) := by
  cases above with
  | true =>
    exact mirrors.change (fun reads => ⟨reads, s.createDir_counted reads p true⟩)
      (fun _ failed => ⟨s.reads, Memory.createDir_failed p true failed⟩)
      (mirrors.closed.createDir p true) (Memory.spelled_contains _)
      (s.createDir_outside p true) (Cache.clears_forgetAll (p :: p.ancestors) c)
  | false =>
    exact mirrors.change (fun reads => ⟨reads, s.createDir_counted reads p false⟩)
      (fun _ failed => ⟨s.reads, Memory.createDir_failed p false failed⟩)
      (mirrors.closed.createDir p false) (Memory.spelled_same p)
      (mirrors.closed.createDir_outside p) (c.clears_forget p)

/-- Each operation has the same reply, and what is there after it is mirrored again. -/
theorem perform (operation : Operation) :
    Same (((operation.perform : StateT Cache (StateM Memory) Reply).run c).run s)
      ((operation.perform : StateM Memory Reply).run t) := by
  cases operation with
  | read p => exact (mirrors.read p).map Reply.bytes
  | write p content => exact (mirrors.write p content).map Reply.changed
  | entry p => exact (mirrors.entry p).map Reply.entry
  | hasEntry p => exact (mirrors.hasEntry p).map Reply.told
  | allows p access => exact (mirrors.allows p access).map Reply.told
  | createDir p above => exact (mirrors.createDir p above).map Reply.changed
  | removeTree p => exact (mirrors.removeTree p).map Reply.changed
  | list p => exact (mirrors.list p).map Reply.names
  | copy source target => exact (mirrors.copy source target).map Reply.changed

/-- Operations in a row have the same replies.

Proof: by induction on the operations, each of which leaves mirrored stores behind. -/
theorem performAll (operations : List Operation) :
    Same (((Operation.performAll operations : StateT Cache (StateM Memory) _).run c).run s)
      ((Operation.performAll operations : StateM Memory _).run t) := by
  induction operations generalizing c s t with
  | nil => exact ⟨rfl, mirrors⟩
  | cons operation rest inductionHypothesis =>
    obtain ⟨reply, after⟩ := mirrors.perform operation
    obtain ⟨replies, finish⟩ := inductionHypothesis after
    simp only [Operation.performAll, List.mapM_cons] at replies finish ⊢
    exact ⟨congrArg₂ List.cons reply replies, finish⟩

end Mirrors

/-- Any operations on any store in memory have the same replies through a new cache as on the store
itself, failures included, and leave the same files, directories and marks behind.

Proof: a new cache agrees with its store, and the directories of the store are closed. Each
operation keeps both and has the same reply. -/
theorem Cache.performAll_replies (start : Memory) (arises : start.Arises)
    (operations : List Operation) :
    let cached :=
      ((Operation.performAll operations : StateT Cache (StateM Memory) (List Reply)).run {}).run
        start
    let direct := (Operation.performAll operations : StateM Memory (List Reply)).run start
    cached.1.1 = direct.1 ∧ cached.2.files = direct.2.files ∧ cached.2.dirs = direct.2.dirs ∧
      cached.2.readOnly = direct.2.readOnly ∧ cached.2.unlistable = direct.2.unlistable := by
  intro cached direct
  obtain ⟨replies, finish⟩ := (Mirrors.new arises.closed).performAll operations
  have files := congrArg Memory.files finish.same
  have dirs := congrArg Memory.dirs finish.same
  have readOnly := congrArg Memory.readOnly finish.same
  have unlistable := congrArg Memory.unlistable finish.same
  exact ⟨replies, files.symm, dirs.symm, readOnly.symm, unlistable.symm⟩

/-- A file that is written into a directory that was listed is listed, and read, through the
cache. -/
theorem Cache.performAll_replies_written :
    let start := ({} : Memory).insertDir ⟨"/out"⟩
    let operations : List Operation :=
      [.list ⟨"/out"⟩, .write ⟨"/out/index.html"⟩ "<p>".toUTF8, .list ⟨"/out"⟩,
        .read ⟨"/out/./index.html"⟩, .read ⟨"/late.js"⟩]
    let cached :=
      ((Operation.performAll operations : StateT Cache (StateM Memory) (List Reply)).run {}).run
        start
    let direct := (Operation.performAll operations : StateM Memory (List Reply)).run start
    start.Arises ∧ cached.1.1 = direct.1 ∧ cached.2.files = direct.2.files ∧
      cached.2.dirs = direct.2.dirs ∧ cached.2.readOnly = direct.2.readOnly ∧
      cached.2.unlistable = direct.2.unlistable := by
  have arises : (({} : Memory).insertDir ⟨"/out"⟩).Arises := .insertDir _ .empty
  exact ⟨arises, Cache.performAll_replies _ arises _⟩

end Pagefold
