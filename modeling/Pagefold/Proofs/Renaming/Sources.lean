import Mathlib
import Pagefold.Proofs.Asset.Table
import Pagefold.Proofs.Link
import Pagefold.Proofs.Path.Clean
import Pagefold.Proofs.Settled
import Pagefold.Proofs.Store.Memory
import Pagefold.Renaming.Context

/-!
# The files that links are renamed for

A link into the source tree is followed to a file, and the path of this file is handed on as the text
of a reference, of which only the part before a question mark is read. Links into the source tree have
no question mark. The directories in which they are followed may have one, and then another file is
read and renamed.

Requests are made one after the other with the same tables, as the documents of a run make them. What
one request keeps is that all records of the table are of files with their digests; so a file that was
read before has the record that it would get now.
-/
namespace Pagefold

namespace Path

theorem text_injective {p q : Path} (same : p.text = q.text) : p = q := by
  cases p
  cases q
  exact congrArg mk same

/-- A name on a stack was there before, or is one of the components that came onto it. -/
theorem mem_stack {s : String} (list stack : List Component)
    (member : .name s ∈ list.foldl push stack) : .name s ∈ stack ∨ .name s ∈ list := by
  induction list generalizing stack with
  | nil => exact Or.inl member
  | cons part rest inductionHypothesis =>
    rw [List.foldl_cons] at member
    rcases inductionHypothesis _ member with early | late
    · cases part with
      | here => exact Or.inl early
      | up =>
        refine Or.inl ?_
        cases stack with
        | nil => simp [push] at early
        | cons top others => cases top <;> simp_all [push]
      | root => exact Or.inl (by simpa [push] using early)
      | name t =>
        rcases List.mem_cons.mp early with same | before
        · exact Or.inr (same ▸ List.mem_cons_self)
        · exact Or.inl before
    · exact Or.inr (List.mem_cons_of_mem part late)

/-- A character that is neither a slash nor a dot. -/
def IsLetter (c : Char) : Prop := c ≠ '/' ∧ c ≠ '.'

variable {c : Char} (letter : IsLetter c)

include letter

/-- The letters of written components are those of their names. -/
theorem ofComponents_letters {parts : List Component} (member : c ∈ (ofComponents parts).text.toList) :
    ∃ s, .name s ∈ parts ∧ c ∈ s.toList := by
  have joined : ∀ rest : List Component, c ∈ ("/".intercalate (rest.map Component.text)).toList →
      ∃ s, .name s ∈ rest ∧ c ∈ s.toList := by
    intro rest inside
    rw [String.toList_intercalate] at inside
    obtain ⟨piece, held, inside⟩ := (Text.mem_joined '/' c letter.1 _).mp inside
    obtain ⟨text, shown, rfl⟩ := List.mem_map.mp held
    obtain ⟨part, known, rfl⟩ := List.mem_map.mp shown
    cases part with
    | name s => exact ⟨s, known, inside⟩
    | root => exact absurd (List.mem_singleton.mp inside) letter.1
    | here => exact absurd (List.mem_singleton.mp inside) letter.2
    | up => exact absurd (by simpa [Component.text] using inside) letter.2
  unfold ofComponents at member
  split at member
  · next rest =>
    rw [String.toList_append] at member
    have below := (List.mem_append.mp member).resolve_left fun slash =>
      letter.1 (List.mem_singleton.mp slash)
    obtain ⟨s, known, inside⟩ := joined rest below
    exact ⟨s, List.mem_cons_of_mem _ known, inside⟩
  · exact joined parts member

/-- Working out the dots of a path brings in no letters. -/
theorem clean_letters {p : Path} (member : c ∈ p.clean.text.toList) : c ∈ p.text.toList := by
  unfold clean at member
  split at member
  · exact absurd (List.mem_singleton.mp member) letter.2
  · obtain ⟨s, known, inside⟩ := ofComponents_letters letter member
    have component := (mem_stack _ _ (List.mem_reverse.mp known)).resolve_left List.not_mem_nil
    exact (p.component_letters s component).subset inside

/-- The letters of a joined path are those of its two parts. -/
theorem join_letters {p q : Path} (member : c ∈ (p.join q).text.toList) :
    c ∈ p.text.toList ∨ c ∈ q.text.toList := by
  unfold join at member
  split at member
  · exact Or.inr member
  · split at member
    · rwa [String.toList_append, List.mem_append] at member
    · rw [String.toList_append, String.toList_append, List.mem_append, List.mem_append] at member
      rcases member with (first | slash) | second
      · exact Or.inl first
      · exact absurd (List.mem_singleton.mp slash) letter.1
      · exact Or.inr second

end Path

/-- The letters of a resolved link are its own, or those of the directory in which it is followed. -/
theorem Context.resolve_letters (c : Context) {link : String} {base : Path} {letter : Char}
    (apart : Path.IsLetter letter) (member : letter ∈ (c.resolve link base).text.toList) :
    letter ∈ link.toList ∨ letter ∈ c.root.text.toList ∨ letter ∈ base.text.toList := by
  unfold resolve at member
  split at member
  · next rooted letters =>
    rcases Path.join_letters apart (Path.clean_letters apart member) with root | inside
    · exact Or.inr (Or.inl root)
    · rw [String.toList_ofList] at inside
      exact Or.inl (letters ▸ List.mem_cons_of_mem _ inside)
  · rcases Path.join_letters apart (Path.clean_letters apart member) with outer | inside
    · exact Or.inr (Or.inr outer)
    · exact Or.inl inside

/-- The letters of the path of a link stand in the link. -/
theorem Link.splitFragment_letters (link : String) :
    (splitFragment link).1.toList ⊆ link.toList := by
  unfold splitFragment
  split
  · next path fragment found =>
    obtain ⟨c, split, _, _⟩ := Text.cut_split _ _ _ _ found
    rw [String.toList_ofList, split]
    exact List.subset_append_left _ _
  · exact List.Subset.refl _

/-- The file that a reference names is written up to its first question mark. -/
theorem Asset.Table.sourceOf_text (url : String) :
    (sourceOf url).text.toList = url.toList.takeWhile (· ≠ '?') := by
  rw [sourceOf, Link.withoutQuery]
  split
  · next path rest found =>
    obtain ⟨c, split, marked, clear⟩ := Text.cut_split _ _ _ _ found
    have mark : c = '?' := by simpa using marked
    have all : ∀ d ∈ path, decide (d ≠ '?') = true := fun d member => by simpa using clear d member
    rw [String.toList_ofList, split, List.takeWhile_append_of_pos all, mark]
    simp
  · next whole =>
    refine (List.takeWhile_eq_self_iff.mpr fun c member => ?_).symm
    simpa using Text.cut_none _ _ whole c member

namespace Renaming

/-- A request for the new form of a link in a file of the directory `base`. -/
structure Request where
  context : Context
  link : String
  base : Path

namespace Request

variable (q : Request)

/-- The path of the link, and its fragment. -/
def parts : String × Option String := Link.splitFragment (Link.trimmed q.link)

/-- The file to which the link leads. -/
def file : Path := q.context.resolve q.parts.1 q.base

/-- The file that is read for the link. -/
def read : Path := Asset.Table.sourceOf q.file.text

/-- The file that is read is the one to which the link leads, if no directory has a question mark. -/
theorem read_eq (isLocal : Link.isLocal q.link = true) (root : '?' ∉ q.context.root.text.toList)
    (base : '?' ∉ q.base.text.toList) : q.read = q.file := by
  have unasked : '?' ∉ q.link.toList := ((Link.isLocal_iff q.link).mp isLocal).2.1
  have path : '?' ∉ q.parts.1.toList := by
    intro member
    have inside := Link.splitFragment_letters _ member
    rw [Link.trimmed, String.toList_ofList, Text.mem_trim _ _ (by decide)] at inside
    exact unasked inside
  have clear : '?' ∉ q.file.text.toList := by
    intro member
    rcases q.context.resolve_letters ⟨by decide, by decide⟩ member with inside | inside | inside
    · exact path inside
    · exact root inside
    · exact base inside
  have text : q.read.text.toList = q.file.text.toList := by
    rw [read, Asset.Table.sourceOf_text, List.takeWhile_eq_self_iff]
    intro c member
    exact decide_eq_true (by rintro rfl; exact clear member)
  exact Path.text_injective (String.toList_injective text)

end Request

variable {m : Type → Type} [Monad m] [FileStore m] {σ : Type} (exec : Execution m σ)
  (held : Path → Option Bytes)

/-- A request is answered with the record of its file. -/
theorem rename_request (q : Request) :
    (rename q.context q.link q.base : Renaming m (Option String)) =
      if Link.isLocal q.link then do
        let found ← Supply.asset q.context.assetDir q.file
        pure (some (q.context.renamedUrl found.name q.parts.2))
      else pure none := by
  unfold rename Request.file Request.parts
  generalize Link.splitFragment (Link.trimmed q.link) = split
  rfl

/-- The answers to requests in their order. A request that fails does not end the others. -/
def answerAll : List Request → StateT Tables m (List (Except Failure (Option String)))
  | [] => pure []
  | q :: rest => do
    let answer ← (rename q.context q.link q.base : Renaming m (Option String)).run
    let others ← answerAll rest
    pure (answer :: others)

/-- A store whose files hold what they hold as long as nothing but reading is done. Spellings of one
path are one file. -/
structure Steady (kept : σ → Prop) : Prop where
  reads : ∀ file s result s', kept s → exec.gives (FileStore.read file).run s result s' →
    kept s' ∧ match held file with
      | some bytes => result = .ok bytes
      | none => ∃ e, result = .error e
  spellings : ∀ p q : Path, (p == q) = true → held p = held q

/-- All records of a table are of files that hold what they were made from. -/
def Truthful (t : Asset.Table) : Prop :=
  ∀ r ∈ t.records, ∃ bytes, held r.source = some bytes ∧ r.hash = Digest.ofContent bytes

/-- The answer to a request, seen from later tables. -/
structure Answered (t : Tables) (q : Request) (answer : Except Failure (Option String)) : Prop where
  elsewhere : Link.isLocal q.link = false → answer = .ok none
  absent : Link.isLocal q.link = true → held q.read = none → ∃ e, answer = .error (.store e)
  present : Link.isLocal q.link = true → ∀ bytes, held q.read = some bytes →
    ∃ r ∈ t.referenced, t.assets.find? q.read = some r ∧
      answer = .ok (some (q.context.renamedUrl r.name q.parts.2)) ∧
      (r.source == q.read) = true ∧ r.hash = Digest.ofContent bytes

variable {exec held} {s s' : Tables × σ}

/-- An answer stays true while the tables grow. -/
theorem Answered.later {t u : Tables} {q : Request} {answer : Except Failure (Option String)}
    (answered : Answered held t q answer) (reaches : t.assets.Reaches u.assets)
    (noted : t.referenced <+: u.referenced) : Answered held u q answer where
  elsewhere := answered.elsewhere
  absent := answered.absent
  present isLocal bytes holds := by
    obtain ⟨r, member, found, rest⟩ := answered.present isLocal bytes holds
    exact ⟨r, noted.subset member, reaches.found found, rest⟩

/-- A call either finds the record of its file, or reads the file and fails if that fails. -/
theorem associate_any {t : Asset.Table} {url : String} {dir : Path} {s s' : σ}
    {result : Except StoreError (Asset.Record × Asset.Table)}
    (given : exec.gives (t.associate url dir).run s result s') :
    (∃ r, t.find? (Asset.Table.sourceOf url) = some r ∧ result = .ok (r, t) ∧ s' = s) ∨
      t.find? (Asset.Table.sourceOf url) = none ∧ ∃ answer,
        exec.gives (FileStore.read (Asset.Table.sourceOf url)).run s answer s' ∧
          result = answer.map (t.add (Asset.Table.sourceOf url) dir) := by
  simp only [Asset.Table.associate] at given
  cases known : t.find? (Asset.Table.sourceOf url) with
  | some found =>
    rw [known] at given
    obtain ⟨rfl, rfl⟩ := exec.of_pure given
    exact Or.inl ⟨found, rfl, rfl, rfl⟩
  | none =>
    rw [known] at given
    refine Or.inr ⟨rfl, ?_⟩
    rcases exec.any_bind given with ⟨content, between, read, made⟩ | ⟨e, failed, rfl⟩
    · obtain ⟨rfl, rfl⟩ := exec.of_pure made
      exact ⟨.ok content, read, rfl⟩
    · exact ⟨.error e, failed, rfl⟩

/-- What asking for a record does, over any store. Either the record is known, or the file is read and
its record added; if it cannot be read, this is the failure and the tables stay as they are. -/
theorem asset_any {dir source : Path} {result : Except Failure Asset.Record}
    (given : (exec.above Tables).gives (Supply.asset dir source : Renaming m _).run s result s') :
    (∃ r, result = .ok r ∧ s'.1.referenced = s.1.referenced ++ [r] ∧
      s'.1.assets.find? (Asset.Table.sourceOf source.text) = some r ∧
      ((s'.1.assets = s.1.assets ∧ s'.2 = s.2) ∨
        s.1.assets.find? (Asset.Table.sourceOf source.text) = none ∧ ∃ content,
          exec.gives (FileStore.read (Asset.Table.sourceOf source.text)).run s.2 (.ok content) s'.2 ∧
          s'.1.assets = (s.1.assets.add (Asset.Table.sourceOf source.text) dir content).2)) ∨
    ∃ e, result = .error (.store e) ∧ s'.1 = s.1 ∧
      exec.gives (FileStore.read (Asset.Table.sourceOf source.text)).run s.2 (.error e) s'.2 := by
  have asked := exec.after_get given
  rcases (exec.above Tables).any_bind asked with
    ⟨⟨r, next⟩, between, stored, later⟩ | ⟨e, failed, rfl⟩
  · obtain ⟨store, rfl, lower⟩ := exec.ok_store stored
    obtain ⟨rfl, rfl⟩ := (exec.above Tables).of_pure (exec.after_set later)
    refine Or.inl ⟨r, rfl, rfl, ?_⟩
    rcases associate_any lower with ⟨known, found, answer, rfl⟩ | ⟨fresh, answer, read, made⟩
    · cases answer
      exact ⟨found, Or.inl ⟨rfl, rfl⟩⟩
    · cases answer with
      | error e => cases made
      | ok content =>
        cases made
        exact ⟨Asset.Table.find_added _ _ dir content fresh, Or.inr ⟨fresh, content, read, rfl⟩⟩
  · obtain ⟨answer, store, rfl, lower, same⟩ := exec.any_store failed
    cases answer with
    | ok made => cases same
    | error defect =>
      cases same
      rcases associate_any lower with ⟨known, _, answer, _⟩ | ⟨_, answer, read, made⟩
      · cases answer
      · cases answer with
        | ok content => cases made
        | error reason =>
          cases made
          exact Or.inr ⟨defect, rfl, rfl, read⟩

/-- What requests do to the tables and the store. -/
structure Proceeds (held : Path → Option Bytes) (kept : σ → Prop) (s s' : Tables × σ) : Prop where
  kept : kept s'.2
  truthful : Truthful held s'.1.assets
  assets : s.1.assets.Reaches s'.1.assets
  noted : s.1.referenced <+: s'.1.referenced

theorem Proceeds.trans {kept : σ → Prop} {s t u : Tables × σ} (first : Proceeds held kept s t)
    (second : Proceeds held kept t u) : Proceeds held kept s u :=
  ⟨second.kept, second.truthful, first.assets.trans second.assets, first.noted.trans second.noted⟩

/-- A known record is true of its file in every spelling. -/
theorem Truthful.found {kept : σ → Prop} (steady : Steady exec held kept) {t : Asset.Table}
    (truthful : Truthful held t) {file : Path} {r : Asset.Record} (found : t.find? file = some r) :
    (r.source == file) = true ∧ ∃ bytes, held file = some bytes ∧ r.hash = Digest.ofContent bytes := by
  have same := Asset.Table.find_source found
  obtain ⟨bytes, holds, hash⟩ := truthful r (List.mem_of_find?_eq_some found)
  exact ⟨same, bytes, (steady.spellings _ _ same).symm.trans holds, hash⟩

/-- A record of what a new file holds is true. -/
theorem Truthful.add {t : Asset.Table} (truthful : Truthful held t) {file : Path} {bytes : Bytes}
    (holds : held file = some bytes) (dir : Path) : Truthful held (t.add file dir bytes).2 := by
  intro r member
  rcases List.mem_append.mp member with old | new
  · exact truthful r old
  · obtain rfl := List.mem_singleton.mp new
    exact ⟨bytes, holds, rfl⟩

section Steps

variable {kept : σ → Prop} (steady : Steady exec held kept) (start : kept s.2)
  (truthful : Truthful held s.1.assets)

include steady start truthful

/-- Asking for a record fails if the file is not there, and else gives the record of what it holds. -/
theorem asset_step {dir source : Path} {result : Except Failure Asset.Record}
    (given : (exec.above Tables).gives (Supply.asset dir source : Renaming m _).run s result s') :
    Proceeds held kept s s' ∧
      ((held (Asset.Table.sourceOf source.text) = none ∧ ∃ e, result = .error (.store e)) ∨
        ∃ r bytes, held (Asset.Table.sourceOf source.text) = some bytes ∧ result = .ok r ∧
          r ∈ s'.1.referenced ∧ s'.1.assets.find? (Asset.Table.sourceOf source.text) = some r ∧
          (r.source == Asset.Table.sourceOf source.text) = true ∧
          r.hash = Digest.ofContent bytes) := by
  rcases asset_any given with ⟨r, rfl, noted, found, made⟩ | ⟨e, rfl, same, read⟩
  · -- The tables afterwards are true, so the record that is found there is.
    obtain ⟨stays, reaches, still⟩ :
        kept s'.2 ∧ s.1.assets.Reaches s'.1.assets ∧ Truthful held s'.1.assets := by
      rcases made with ⟨same, store⟩ | ⟨fresh, content, read, added⟩
      · rw [same, store]
        exact ⟨start, .same, truthful⟩
      · obtain ⟨stays, holds⟩ := steady.reads _ _ _ _ start read
        rw [added]
        refine ⟨stays, .added _ _ dir content fresh .same, truthful.add ?_ dir⟩
        split at holds
        · next bytes held =>
          cases holds
          exact held
        · obtain ⟨e, failed⟩ := holds
          cases failed
    obtain ⟨same, bytes, holds, hash⟩ := still.found steady found
    have proceeds : Proceeds held kept s s' := ⟨stays, still, reaches, noted ▸ List.prefix_append _ _⟩
    exact ⟨proceeds, Or.inr ⟨r, bytes, holds, rfl, noted ▸ List.mem_append_right _
      (List.mem_singleton_self r), found, same, hash⟩⟩
  · obtain ⟨stays, holds⟩ := steady.reads _ _ _ _ start read
    split at holds
    · cases holds
    · next absent =>
      have proceeds : Proceeds held kept s s' :=
        ⟨stays, same ▸ truthful, same ▸ .same, same ▸ List.prefix_refl _⟩
      exact ⟨proceeds, Or.inl ⟨absent, e, rfl⟩⟩

/-- One request is answered and keeps the records true. -/
theorem rename_step (q : Request) {answer : Except Failure (Option String)}
    (given : (exec.above Tables).gives (rename q.context q.link q.base : Renaming m _).run s answer
      s') :
    Proceeds held kept s s' ∧ Answered held s'.1 q answer := by
  rw [rename_request] at given
  split at given
  · next inside =>
    have local_ : Link.isLocal q.link ≠ false := by simp [inside]
    rcases (exec.above Tables).any_bind given with ⟨r, between, asked, done⟩ | ⟨e, failed, rfl⟩
    · obtain ⟨rfl, rfl⟩ := (exec.above Tables).of_pure done
      obtain ⟨proceeds, ⟨_, e, failed⟩ | ⟨r', bytes, holds, same, rest⟩⟩ :=
        asset_step steady start truthful asked
      · cases failed
      · cases same
        refine ⟨proceeds, ⟨fun outside => absurd outside local_, fun _ absent => ?_, ?_⟩⟩
        · cases holds.symm.trans absent
        · intro _ other held'
          obtain rfl := Option.some.inj (holds.symm.trans held')
          exact ⟨r, rest.1, rest.2.1, rfl, rest.2.2⟩
    · obtain ⟨proceeds, ⟨absent, e', same⟩ | ⟨r, bytes, holds, same, _⟩⟩ :=
        asset_step steady start truthful failed
      · cases same
        refine ⟨proceeds, ⟨fun outside => absurd outside local_, fun _ _ => ⟨e', rfl⟩, ?_⟩⟩
        intro _ bytes holds
        cases holds.symm.trans absent
      · cases same
  · next outside =>
    obtain ⟨rfl, rfl⟩ := (exec.above Tables).of_pure given
    refine ⟨⟨start, truthful, .same, List.prefix_refl _⟩, ⟨fun _ => rfl, ?_, ?_⟩⟩
    · exact fun inside => absurd inside outside
    · exact fun inside => absurd inside outside

/-- Requests in a row are answered one by one, and keep the records true.

Proof: by induction on the requests. An answer that is true after a request is true after all later
ones, because no record is changed. -/
theorem answerAll_step (requests : List Request) {answers : List (Except Failure (Option String))}
    (given : (exec.above Tables).gives (answerAll requests) s answers s') :
    Proceeds held kept s s' ∧ List.Forall₂ (Answered held s'.1) requests answers := by
  induction requests generalizing s answers with
  | nil =>
    obtain ⟨rfl, rfl⟩ := (exec.above Tables).of_pure given
    exact ⟨⟨start, truthful, .same, List.prefix_refl _⟩, .nil⟩
  | cons q rest inductionHypothesis =>
    obtain ⟨answer, between, first, later⟩ := (exec.above Tables).of_bind given
    obtain ⟨others, last, run, done⟩ := (exec.above Tables).of_bind later
    obtain ⟨rfl, rfl⟩ := (exec.above Tables).of_pure done
    obtain ⟨early, answered⟩ := rename_step steady start truthful q first
    obtain ⟨late, each⟩ := inductionHypothesis early.kept early.truthful run
    exact ⟨early.trans late, .cons (answered.later late.assets late.noted) each⟩

end Steps

/-- A store in memory is steady. -/
theorem steady_memory (store : Memory) :
    Steady (Execution.ofState Memory) store.file? fun s => s.files = store.files where
  reads file s result s' same given := by
    obtain ⟨reads, rfl⟩ := Memory.read_counts given
    have ran : Memory.read file s = (result, _) := given
    have found : s.file? file = store.file? file := by rw [Memory.file?, same, Memory.file?]
    refine ⟨same, ?_⟩
    rw [← found]
    unfold Memory.read at ran
    cases held : s.file? file with
    | some bytes =>
      rw [held] at ran
      exact (congrArg Prod.fst ran).symm
    | none =>
      rw [held] at ran
      exact ⟨_, (congrArg Prod.fst ran).symm⟩
  spellings p q same := store.file_congr p q ((Path.beq_iff p q).mp same)

/-- Which files are renamed for the links of any requests, of any contexts that share their tables.

A link into the source tree is answered with the name of the file that is read for it, whose record has
the digest of what this file holds; if it is not there, the request fails. The file that is read is
written like the file to which the link leads, up to the first question mark. It is that file if no
question mark is in the names of the source tree and of the directory in which the link stands,
whatever else they hold. -/
theorem answerAll_sources {kept : σ → Prop} (steady : Steady exec held kept) {start : σ}
    (begins : kept start) (requests : List Request) {answers : List (Except Failure (Option String))}
    {s' : Tables × σ}
    (given : (exec.above Tables).gives (answerAll requests) ({}, start) answers s') :
    answers.length = requests.length ∧
      ∀ q answer, (q, answer) ∈ requests.zip answers → Answered held s'.1 q answer ∧
        q.read.text.toList = q.file.text.toList.takeWhile (· ≠ '?') ∧
        (Link.isLocal q.link = true → '?' ∉ q.context.root.text.toList →
          '?' ∉ q.base.text.toList → q.read = q.file) := by
  have new : Truthful held ({} : Asset.Table) := fun r member => (List.not_mem_nil member).elim
  obtain ⟨_, each⟩ := answerAll_step steady begins new requests given
  obtain ⟨length, all⟩ := List.forall₂_iff_zip.mp each
  exact ⟨length.symm, fun q answer member =>
    ⟨all member, Asset.Table.sourceOf_text _, q.read_eq⟩⟩

/-- One image under two spellings and with a fragment, and one that is missing. -/
theorem answerAll_sources_images :
    let store := ({} : Memory).insertFile ⟨"/s #%/x.png"⟩ "x".toUTF8
    let c : Context := { root := ⟨"/s #%"⟩, assetDir := ⟨"/out"⟩ }
    let requests : List Request :=
      [⟨c, "x.png#a", ⟨"/s #%"⟩⟩, ⟨c, " /./x.png", ⟨"/s #%/t"⟩⟩, ⟨c, "y.png", ⟨"/s #%"⟩⟩]
    let ended := ((answerAll requests : StateT Tables (StateM Memory) _).run {}).run store
    ended.1.1.map Except.toOption = [some (some "L.png#a"), some (some "L.png"), none] ∧
      ∀ q answer, (q, answer) ∈ requests.zip ended.1.1 →
        Answered store.file? ended.1.2 q answer ∧ q.read = q.file := by
  intro store c requests ended
  have plain : ∀ q ∈ requests, Link.isLocal q.link = true ∧ '?' ∉ q.context.root.text.toList ∧
      '?' ∉ q.base.text.toList := by
    decide +kernel
  have all : ∀ result, ((answerAll requests : StateT Tables (StateM Memory) _).run {}).run store =
      result → ∀ q answer, (q, answer) ∈ requests.zip result.1.1 →
        Answered store.file? result.1.2 q answer ∧ q.read = q.file := by
    rintro ⟨⟨answers, tables⟩, finish⟩ ran q answer member
    have given : ((Execution.ofState Memory).above Tables).gives (answerAll requests) ({}, store)
        answers (tables, finish) := ran
    obtain ⟨_, each⟩ := answerAll_sources (steady_memory store) rfl requests given
    obtain ⟨answered, _, whole⟩ := each q answer member
    obtain ⟨inside, root, base⟩ := plain q (List.of_mem_zip member).1
    exact ⟨answered, whole inside root base⟩
  exact ⟨by decide +kernel, all _ rfl⟩

/-- A question mark in the name of the source tree makes another file be renamed for the image. -/
theorem question_mark_read :
    let store := (({} : Memory).insertFile ⟨"/a?b/x.png"⟩ "x".toUTF8).insertFile ⟨"/a"⟩ "y".toUTF8
    let c : Context := { root := ⟨"/a?b"⟩, assetDir := ⟨"/out"⟩ }
    let q : Request := ⟨c, "x.png", ⟨"/a?b"⟩⟩
    let ended := ((answerAll [q] : StateT Tables (StateM Memory) _).run {}).run store
    Link.isLocal q.link = true ∧ q.file.text = "/a?b/x.png" ∧ q.read.text = "/a" ∧
      ended.1.2.referenced.map (fun r => (r.source.text, r.hash)) =
        [("/a", Digest.ofContent "y".toUTF8)] ∧
      Digest.ofContent "x".toUTF8 ≠ Digest.ofContent "y".toUTF8 := by
  decide +kernel

end Renaming

end Pagefold
