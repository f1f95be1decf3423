import Mathlib
import Pagefold.Asset.Table
import Pagefold.Proofs.Asset.Name
import Pagefold.Proofs.Execution
import Pagefold.Proofs.Path
import Pagefold.Store.Memory

/-!
# The table of assets over a run

A table grows by records of files that were not in it, and no record is ever changed. The name of
a record is a short name, which holds no dot, and the extension after a dot. Within one
extension the short names are distinct, and each is the shortest that was free when the record
was made. So no two names are equal, whatever their extensions.
-/
namespace Pagefold.Asset

/-- The part of a new name before its extension. -/
def Record.short (r : Record) : String := String.ofList (r.name.toList.takeWhile (· ≠ '.'))

/-- What the name of a record is made of. -/
structure Record.Named (r : Record) : Prop where
  nonempty : r.short ≠ ""
  plain : ∀ c ∈ r.short.toList, Digest.IsPlain c
  spelled : r.name =
    if extension r.source = "" then r.short else r.short ++ "." ++ extension r.source
  form : r.short.toList <+: r.hash.toList ∨ ∃ n : Nat, r.short = r.hash ++ n.repr

/-- A character of an extension, unless it is a small letter, is one of the path's extension. -/
theorem extension_letter (source : Path) (c : Char) (notLetter : ¬ c.isLower)
    (held : c ∈ (extension source).toList) : ∃ s, source.extension? = some s ∧ c ∈ s.toList := by
  simp only [extension, Text.lower, String.toList_map, List.mem_map] at held
  obtain ⟨d, member, lowered⟩ := held
  obtain rfl : d = c := Text.lower_mark d c notLetter lowered
  cases extended : source.extension? with
  | none => simp [extended] at member
  | some s =>
    rw [extended, Option.getD_some] at member
    exact ⟨s, rfl, member⟩

/-- An extension holds no separator. -/
theorem extension_slashless (source : Path) : '/' ∉ (extension source).toList := by
  intro slash
  obtain ⟨s, extended, member⟩ := extension_letter source '/' (by decide) slash
  exact source.extension_whole s extended member

/-- An extension holds no character that is not in the path, except for small letters. -/
theorem extension_clear (source : Path) (c : Char) (notLetter : ¬ c.isLower)
    (absent : c ∉ source.text.toList) : c ∉ (extension source).toList := by
  intro held
  obtain ⟨s, extended, member⟩ := extension_letter source c notLetter held
  exact absent (source.extension_letters s extended member)

/-- The extension of a file does not depend on the spelling of its path. -/
theorem extension_congr {p q : Path} (same : (p == q) = true) : extension p = extension q := by
  rw [extension, extension, Path.extension?, Path.extension?, Path.fileName?, Path.fileName?,
    (Path.beq_iff p q).mp same]

/-- The digits of a number stand for themselves in a URL. -/
theorem number_safe (n : Nat) (c : Char) (member : c ∈ n.repr.toList) : Digest.IsUrlSafe c := by
  rw [Nat.toList_repr] at member
  have digit : c.isDigit := Nat.isDigit_of_mem_toDigits (by decide) (by decide) member
  exact Or.inl (by simp [Char.isAlphanum, digit])

/-- The digits of a number are plain. -/
theorem number_plain (n : Nat) (c : Char) (member : c ∈ n.repr.toList) : Digest.IsPlain c :=
  Digest.plain_of_urlSafe c (number_safe n c member)

/-- What comes before the first dot of a name is its short name. -/
theorem takeWhile_dot (short rest : List Char) (plain : ∀ c ∈ short, Digest.IsPlain c) :
    (short ++ '.' :: rest).takeWhile (· ≠ '.') = short ∧ short.takeWhile (· ≠ '.') = short := by
  have all : ∀ c ∈ short, decide (c ≠ '.') = true := by
    intro c member
    exact decide_eq_true (plain c member).1
  refine ⟨?_, List.takeWhile_eq_self_iff.mpr all⟩
  rw [List.takeWhile_append_of_pos all]
  simp

/-- A record whose name is spelled from a short name has that short name. -/
theorem short_spelled (r : Record) (short : String) (plain : ∀ c ∈ short.toList, Digest.IsPlain c)
    (spelled : r.name =
      if extension r.source = "" then short else short ++ "." ++ extension r.source) :
    r.short = short := by
  apply String.toList_injective
  obtain ⟨dotted, whole⟩ := takeWhile_dot short.toList (extension r.source).toList plain
  rw [Record.short, String.toList_ofList, spelled]
  split
  · exact whole
  · simpa using dotted

/-- The name of a record is a plain name. -/
theorem Record.Named.plainName {r : Record} (named : r.Named) : IsName r.name := by
  obtain ⟨c, rest, letters⟩ : ∃ c rest, r.short.toList = c :: rest :=
    List.exists_cons_of_ne_nil (by simpa using named.nonempty)
  have first : r.name.toList.head? = some c := by
    rw [named.spelled]
    split <;> simp [letters]
  have undotted : c ≠ '.' := (named.plain c (by simp [letters])).1
  refine ⟨?_, ?_, ?_, ?_⟩
  · intro empty
    simp [empty] at first
  · intro dot
    rw [dot] at first
    exact undotted (Option.some.inj first).symm
  · intro dots
    rw [dots] at first
    exact undotted (Option.some.inj first).symm
  · have clear : '/' ∉ r.short.toList := fun slash => (named.plain '/' slash).2 rfl
    rw [named.spelled]
    split
    · exact clear
    · simp [clear, extension_slashless]

/-- The short name and the extension are read off a name. -/
theorem Record.Named.parts {a b : Record} (first : a.Named) (second : b.Named)
    (same : a.name = b.name) : a.short = b.short ∧ extension a.source = extension b.source := by
  have short : a.short = b.short := by rw [Record.short, Record.short, same]
  refine ⟨short, ?_⟩
  have dot : ".".length = 1 := rfl
  have spelled := first.spelled
  rw [same, second.spelled, ← short] at spelled
  split at spelled <;> split at spelled
  · next none empty => rw [none, empty]
  · next none some =>
    have letters := congrArg String.length spelled
    simp only [String.length_append] at letters
    omega
  · next some none =>
    have letters := congrArg String.length spelled
    simp only [String.length_append] at letters
    omega
  · simpa using spelled.symm

/-- The letters before the extension of a name stand for themselves in a URL. -/
theorem Record.Named.short_safe {r : Record} (named : r.Named) (content : Bytes)
    (hash : r.hash = Digest.ofContent content) :
    ∀ c ∈ r.short.toList, Digest.IsUrlSafe c := by
  intro c member
  rcases named.form with inside | ⟨n, numbered⟩
  · exact Digest.digest_safe content c (hash ▸ inside.subset member)
  · rw [numbered, String.toList_append, List.mem_append] at member
    rcases member with letter | digit
    · exact Digest.digest_safe content c (hash ▸ letter)
    · exact number_safe n c digit

namespace Table

/-- The path that a reference names holds no question mark. -/
theorem sourceOf_clear (url : String) : '?' ∉ (sourceOf url).text.toList := by
  simp only [sourceOf, Link.withoutQuery]
  split
  · next path _ found =>
    obtain ⟨_, _, _, clear⟩ := Text.cut_split _ _ _ _ found
    intro member
    rw [String.toList_ofList] at member
    simpa using clear '?' member
  · next none =>
    intro member
    simpa using Text.cut_none _ _ none '?' member

/-- What holds of every table of a run. -/
structure Sound (t : Table) : Prop where
  sources : t.records.Pairwise fun a b => (a.source == b.source) = false
  taken : t.taken = t.records.map fun r => (extension r.source, r.short)
  distinct : t.taken.Nodup
  named : ∀ r ∈ t.records, r.Named
  shorter : ∀ r ∈ t.records, ∀ other : String, other ≠ "" → other.toList <+: r.hash.toList →
    other.length < r.short.length → (extension r.source, other) ∈ t.taken

theorem sound_empty : ({} : Table).Sound where
  sources := List.Pairwise.nil
  taken := rfl
  distinct := List.nodup_nil
  named := by simp
  shorter := by simp

theorem mem_used (t : Table) (ext short : String) : short ∈ t.used ext ↔ (ext, short) ∈ t.taken := by
  simp only [used, List.mem_filterMap]
  constructor
  · rintro ⟨⟨other, name⟩, member, chosen⟩
    split at chosen
    · next same =>
      obtain rfl : name = short := by simpa using chosen
      exact same ▸ member
    · cases chosen
  · intro member
    exact ⟨(ext, short), member, by simp⟩

/-- A name made from a digest is plain. -/
theorem shortest_plain (content : Bytes) (taken : List String) (short : String)
    (shortest : Shortest (Digest.ofContent content) taken short) (c : Char)
    (member : c ∈ short.toList) : Digest.IsPlain c := by
  rcases shortest.form with ⟨_, inside⟩ | ⟨n, numbered⟩
  · exact Digest.digest_plain content c (inside.subset member)
  · rw [numbered, String.toList_append, List.mem_append] at member
    rcases member with letter | digit
    · exact Digest.digest_plain content c letter
    · exact number_plain n c digit

/-- The short name of a new record is the shortest free name. -/
theorem added_short (t : Table) (source dir : Path) (content : Bytes) :
    (t.add source dir content).1.short =
      shortestFree (Digest.ofContent content) (t.used (extension source)) := by
  have shortest := shortest_free (Digest.ofContent content) (t.used (extension source))
    (Digest.digest_nonempty content)
  exact short_spelled _ _ (shortest_plain content _ _ shortest) rfl

theorem added_shortest (t : Table) (source dir : Path) (content : Bytes) :
    Shortest (Digest.ofContent content) (t.used (extension source))
      (t.add source dir content).1.short := by
  rw [added_short]
  exact shortest_free _ _ (Digest.digest_nonempty content)

theorem added_named (t : Table) (source dir : Path) (content : Bytes) :
    (t.add source dir content).1.Named := by
  have shortest := t.added_shortest source dir content
  refine ⟨?_, shortest_plain content _ _ shortest, ?_, shortest.form.imp And.right id⟩
  · rcases shortest.form with ⟨nonempty, _⟩ | ⟨n, numbered⟩
    · exact nonempty
    · rw [numbered]
      simp [Digest.digest_nonempty]
  · rw [added_short]
    rfl

/-- A record for a file that was not in the table keeps what holds of the table.

Proof: the short name of the new record is free, so it is not among the names taken with the same
extension, and all shorter prefixes of its digest are. -/
theorem sound_add (t : Table) (source dir : Path) (content : Bytes) (sound : t.Sound)
    (fresh : t.find? source = none) : (t.add source dir content).2.Sound := by
  have shortest := t.added_shortest source dir content
  have named := t.added_named source dir content
  have records : (t.add source dir content).2.records =
      t.records ++ [(t.add source dir content).1] := rfl
  have taken : (t.add source dir content).2.taken =
      t.taken ++ [(extension source, (t.add source dir content).1.short)] := by
    rw [added_short]
    rfl
  have origin : (t.add source dir content).1.source = source := rfl
  have hash : (t.add source dir content).1.hash = Digest.ofContent content := rfl
  constructor
  · rw [records, List.pairwise_append]
    refine ⟨sound.sources, List.pairwise_singleton _ _, ?_⟩
    intro a member b new
    rw [List.mem_singleton.mp new, origin]
    simpa using List.find?_eq_none.mp fresh a member
  · rw [records, taken, sound.taken, List.map_append]
    rfl
  · rw [taken]
    refine sound.distinct.append (List.nodup_singleton _) (List.disjoint_singleton.mpr ?_)
    intro known
    exact shortest.free ((t.mem_used _ _).mpr known)
  · intro r member
    rw [records, List.mem_append, List.mem_singleton] at member
    rcases member with old | rfl
    · exact sound.named r old
    · exact named
  · intro r member other proper inside under
    rw [records, List.mem_append, List.mem_singleton] at member
    rw [taken, List.mem_append]
    rcases member with old | rfl
    · exact Or.inl (sound.shorter r old other proper inside under)
    · exact Or.inl ((t.mem_used _ _).mp (shortest.shorter other proper (hash ▸ inside) under))

/-- Two records with the same short name and extension are of the same file. -/
theorem Sound.short_injective {t : Table} (sound : t.Sound) {a b : Record} (first : a ∈ t.records)
    (second : b ∈ t.records) (ext : extension a.source = extension b.source)
    (short : a.short = b.short) : a = b := by
  have distinct := sound.distinct
  rw [sound.taken] at distinct
  exact List.inj_on_of_nodup_map distinct first second (Prod.ext ext short)

/-- Two records of the same file are one record. -/
theorem Sound.source_injective {t : Table} (sound : t.Sound) {a b : Record}
    (first : a ∈ t.records) (second : b ∈ t.records) (same : (a.source == b.source) = true) :
    a = b := by
  by_contra different
  have symmetric : Std.Symm fun a b : Record => (a.source == b.source) = false :=
    ⟨fun a b apart => by rw [Path.beq_comm]; exact apart⟩
  have apart := sound.sources.forall first second different
  rw [same] at apart
  cases apart

/-- Files that are copied into one directory have different destinations there. -/
theorem Sound.destination_injective {t : Table} (sound : t.Sound) {a b : Record}
    (first : a ∈ t.records) (second : b ∈ t.records) (p q : Path) (dirs : (p == q) = true)
    (same : (p.child a.name == q.child b.name) = true) : a = b := by
  have left := sound.named a first
  have right := sound.named b second
  have name : a.name = b.name :=
    Path.child_injective p q _ _ left.plainName right.plainName dirs same
  obtain ⟨short, ext⟩ := left.parts right name
  exact sound.short_injective first second ext short

/-- What a table of a run can become: files are added that it did not have, and copies are
claimed. -/
inductive Reaches (t : Table) : Table → Prop
  | same : t.Reaches t
  | added (u : Table) (source dir : Path) (content : Bytes) (fresh : u.find? source = none) :
    t.Reaches u → t.Reaches (u.add source dir content).2
  | claimed (u : Table) (r : Record) : t.Reaches u → t.Reaches (u.claim r).2

theorem Reaches.trans {t u v : Table} (first : t.Reaches u) (second : u.Reaches v) :
    t.Reaches v := by
  induction second with
  | same => exact first
  | added w source dir content fresh _ inductionHypothesis =>
    exact .added w source dir content fresh inductionHypothesis
  | claimed w r _ inductionHypothesis => exact .claimed w r inductionHypothesis

/-- Claiming a copy changes neither the records nor the names. -/
theorem claim_records (t : Table) (r : Record) :
    (t.claim r).2.records = t.records ∧ (t.claim r).2.taken = t.taken := by
  unfold claim
  split <;> exact ⟨rfl, rfl⟩

theorem Reaches.sound {t u : Table} (reached : t.Reaches u) (sound : t.Sound) : u.Sound := by
  induction reached with
  | same => exact sound
  | added w source dir content fresh _ inductionHypothesis =>
    exact sound_add w source dir content inductionHypothesis fresh
  | claimed w r _ inductionHypothesis =>
    obtain ⟨records, taken⟩ := w.claim_records r
    constructor
    · rw [records]; exact inductionHypothesis.sources
    · rw [records, taken]; exact inductionHypothesis.taken
    · rw [taken]; exact inductionHypothesis.distinct
    · rw [records]; exact inductionHypothesis.named
    · rw [records, taken]; exact inductionHypothesis.shorter

/-- Records stay where they are. -/
theorem Reaches.records {t u : Table} (reached : t.Reaches u) : t.records <+: u.records := by
  induction reached with
  | same => exact List.prefix_refl _
  | added w source dir content _ _ inductionHypothesis =>
    exact inductionHypothesis.trans (List.prefix_append _ _)
  | claimed w r _ inductionHypothesis =>
    rw [(w.claim_records r).1]
    exact inductionHypothesis

/-- The record of a file stays its record. -/
theorem Reaches.found {t u : Table} (reached : t.Reaches u) {source : Path} {r : Record}
    (found : t.find? source = some r) : u.find? source = some r := by
  obtain ⟨more, grown⟩ := reached.records
  rw [find?] at found ⊢
  rw [← grown, List.find?_append, found]
  rfl

/-- Whether a file is in the table depends on its path and not on the spelling of the path. -/
theorem find_congr (t : Table) (p q : Path) (same : (p == q) = true) : t.find? p = t.find? q := by
  have tests : (fun r : Record => r.source == p) = fun r : Record => r.source == q := by
    funext r
    rw [Path.beq_iff] at same
    change (r.source.components == p.components) = (r.source.components == q.components)
    rw [same]
  rw [find?, tests]
  rfl

/-- A record that is found for a file is a record of this file. -/
theorem find_source {t : Table} {file : Path} {r : Record} (found : t.find? file = some r) :
    (r.source == file) = true :=
  List.find?_some (p := fun r : Record => r.source == file) found

section Calls

variable {m : Type → Type} [Monad m] [FileStore m] {σ : Type} (exec : Execution m σ)

/-- A call that is answered finds the record of its file, or reads the file and makes one. -/
theorem associate_ok {t next : Table} {url : String} {dir : Path} {r : Record} {s s' : σ}
    (given : exec.gives (t.associate url dir).run s (.ok (r, next)) s') :
    (t.find? (sourceOf url) = some r ∧ next = t ∧ s' = s) ∨
      (t.find? (sourceOf url) = none ∧ ∃ content,
        exec.gives (FileStore.read (sourceOf url)).run s (.ok content) s' ∧
          (r, next) = t.add (sourceOf url) dir content) := by
  simp only [associate] at given
  cases known : t.find? (sourceOf url) with
  | some found =>
    rw [known] at given
    obtain ⟨answer, state⟩ := exec.ok_pure given
    cases answer
    exact Or.inl ⟨rfl, rfl, state⟩
  | none =>
    rw [known] at given
    obtain ⟨content, between, read, made⟩ := exec.ok_bind given
    obtain ⟨answer, state⟩ := exec.ok_pure made
    exact Or.inr ⟨rfl, content, state ▸ read, answer⟩

/-- The record of a new file is found afterwards. -/
theorem find_added (t : Table) (source dir : Path) (content : Bytes)
    (fresh : t.find? source = none) :
    (t.add source dir content).2.find? source = some (t.add source dir content).1 := by
  have records : (t.add source dir content).2.records =
      t.records ++ [(t.add source dir content).1] := rfl
  have same : ((t.add source dir content).1.source == source) = true :=
    Path.beq_self _
  rw [find?] at fresh ⊢
  rw [records, List.find?_append, fresh, Option.none_or, List.find?_singleton, if_pos same]

/-- A known file is not read again, and its record is the answer. -/
theorem associate_known (t : Table) (url : String) (dir : Path) (r : Record)
    (known : t.find? (sourceOf url) = some r) :
    t.associate url dir = (pure (r, t) : ExceptT StoreError m (Record × Table)) := by
  rw [associate, known]

/-- The answers of calls in their order, and the table after them. A call that fails leaves the
table as it is. -/
def associateAll (t : Table) :
    List (String × Path) → m (List (Except StoreError Record) × Table)
  | [] => pure ([], t)
  | (url, dir) :: rest => do
    match ← (t.associate url dir).run with
    | .ok (found, next) => do
      let (answers, last) ← next.associateAll rest
      pure (.ok found :: answers, last)
    | .error failure => do
      let (answers, last) ← t.associateAll rest
      pure (.error failure :: answers, last)

/-- A record is made by a call from what the store gave for the file of the call. -/
structure MadeBy (call : String × Path) (r : Record) : Prop where
  source : r.source = sourceOf call.1
  destination : r.destination = call.2.child r.name
  content : ∃ bytes before after,
    exec.gives (FileStore.read r.source).run before (.ok bytes) after ∧
      r.hash = Digest.ofContent bytes

/-- An answered call gives the record of its file in the later table, which has no other new
record. -/
theorem associate_step {t next : Table} {url : String} {dir : Path} {r : Record} {s s' : σ}
    (given : exec.gives (t.associate url dir).run s (.ok (r, next)) s') :
    t.Reaches next ∧ next.find? (sourceOf url) = some r ∧
      ∀ other ∈ next.records, other ∈ t.records ∨ other = r ∧ MadeBy exec (url, dir) r := by
  rcases associate_ok exec given with ⟨known, rfl, _⟩ | ⟨fresh, content, read, made⟩
  · exact ⟨.same, known, fun other member => Or.inl member⟩
  · obtain ⟨rfl, rfl⟩ : r = _ ∧ next = _ := Prod.mk.injEq _ _ _ _ ▸ made
    refine ⟨.added t _ dir content fresh .same, find_added t _ dir content fresh, ?_⟩
    intro other member
    rcases List.mem_append.mp member with old | new
    · exact Or.inl old
    · exact Or.inr ⟨List.mem_singleton.mp new, rfl, rfl, content, s, s', read, rfl⟩

/-- Each answered call has its record in the last table, and each new record there is the answer
of the call that made it. -/
theorem associateAll_exact (t : Table) (calls : List (String × Path)) (s s' : σ)
    (answers : List (Except StoreError Record)) (last : Table)
    (given : exec.gives (t.associateAll calls) s (answers, last) s') :
    answers.length = calls.length ∧ t.Reaches last ∧
      (∀ call r, (call, .ok r) ∈ calls.zip answers → last.find? (sourceOf call.1) = some r) ∧
      (∀ r ∈ last.records, r ∈ t.records ∨
        ∃ call, (call, .ok r) ∈ calls.zip answers ∧ MadeBy exec call r) := by
  induction calls generalizing t s answers with
  | nil =>
    obtain ⟨answer, _⟩ := exec.of_pure given
    cases answer
    exact ⟨rfl, .same, by simp, fun r member => Or.inl member⟩
  | cons call rest inductionHypothesis =>
    obtain ⟨url, dir⟩ := call
    rw [associateAll] at given
    obtain ⟨result, between, first, later⟩ := exec.of_bind given
    cases result with
    | error failure =>
      obtain ⟨⟨others, final⟩, _, run, done⟩ := exec.of_bind later
      obtain ⟨answer, rfl⟩ := exec.of_pure done
      cases answer
      obtain ⟨length, reached, known, made⟩ := inductionHypothesis t between others run
      refine ⟨by simp [length], reached, ?_, ?_⟩
      · intro call r answered
        simp only [List.zip_cons_cons, List.mem_cons, Prod.mk.injEq, reduceCtorEq, and_false,
          false_or] at answered
        exact known call r answered
      · intro r member
        rcases made r member with old | ⟨call, answered, maker⟩
        · exact Or.inl old
        · exact Or.inr ⟨call, List.mem_cons_of_mem _ answered, maker⟩
    | ok answer =>
      obtain ⟨found, next⟩ := answer
      obtain ⟨⟨others, final⟩, _, run, done⟩ := exec.of_bind later
      obtain ⟨answer, rfl⟩ := exec.of_pure done
      cases answer
      obtain ⟨length, reached, known, made⟩ := inductionHypothesis next between others run
      obtain ⟨step, here, new⟩ := associate_step exec first
      refine ⟨by simp [length], step.trans reached, ?_, ?_⟩
      · intro call r answered
        rcases List.mem_cons.mp answered with head | tail
        · obtain ⟨rfl, same⟩ := Prod.mk.injEq _ _ _ _ ▸ head
          cases same
          exact reached.found here
        · exact known call r tail
      · intro r member
        rcases made r member with old | ⟨call, answered, maker⟩
        · rcases new r old with older | ⟨rfl, maker⟩
          · exact Or.inl older
          · exact Or.inr ⟨(url, dir), List.mem_cons_self, maker⟩
        · exact Or.inr ⟨call, List.mem_cons_of_mem _ answered, maker⟩

/-- What calls on a new table come to, over any store and with failing reads in between. Files
of one extension have distinct short names, and files that are copied into one directory have
distinct destinations. A short name is a prefix of the digest or the digest with a number, and
all shorter prefixes of the digest are short names of other files of the extension. Each record
was made by an answered call from what was read for it, and each answered call has its record in
the table: from then on it is the answer for that file, without any action on the store.

Proof: the table is sound because the new one is, and the calls add files only. -/
theorem records_exact (calls : List (String × Path)) (s s' : σ)
    (answers : List (Except StoreError Record)) (last : Table)
    (given : exec.gives (({} : Table).associateAll calls) s (answers, last) s') :
    answers.length = calls.length ∧
    (∀ a ∈ last.records, ∀ b ∈ last.records, (a.source == b.source) = false →
      extension a.source = extension b.source → a.short ≠ b.short) ∧
    (∀ a ∈ last.records, ∀ b ∈ last.records, (a.source == b.source) = false →
      ∀ p q : Path, (p == q) = true → a.destination = p.child a.name →
        b.destination = q.child b.name → (a.destination == b.destination) = false) ∧
    (∀ r ∈ last.records,
      r.name =
        (if extension r.source = "" then r.short else r.short ++ "." ++ extension r.source) ∧
      ((r.short ≠ "" ∧ r.short.toList <+: r.hash.toList) ∨ ∃ n : Nat, r.short = r.hash ++ n.repr)) ∧
    (∀ r ∈ last.records, ∀ other : String, other ≠ "" → other.toList <+: r.hash.toList →
      other.length < r.short.length →
      ∃ b ∈ last.records, b ≠ r ∧ extension b.source = extension r.source ∧ b.short = other) ∧
    (∀ r ∈ last.records, ∃ call, (call, .ok r) ∈ calls.zip answers ∧ MadeBy exec call r) ∧
    (∀ call r, (call, .ok r) ∈ calls.zip answers → r ∈ last.records ∧
      ∀ url dir, (sourceOf url == sourceOf call.1) = true →
        last.associate url dir = (pure (r, last) : ExceptT StoreError m (Record × Table))) := by
  obtain ⟨length, reached, known, made⟩ := associateAll_exact exec {} calls s s' answers last given
  have sound : last.Sound := reached.sound sound_empty
  refine ⟨length, ?_, ?_, ?_, ?_, ?_, ?_⟩
  · intro a first b second apart ext short
    obtain rfl : a = b := sound.short_injective first second ext short
    rw [Path.beq_self _] at apart
    cases apart
  · intro a first b second apart p q dirs left right
    by_contra meeting
    rw [Bool.not_eq_false, left, right] at meeting
    obtain rfl : a = b := sound.destination_injective first second p q dirs meeting
    rw [Path.beq_self _] at apart
    cases apart
  · intro r member
    have named := sound.named r member
    exact ⟨named.spelled, named.form.imp (fun inside => ⟨named.nonempty, inside⟩) id⟩
  · intro r member other proper inside under
    have held := sound.shorter r member other proper inside under
    rw [sound.taken, List.mem_map] at held
    obtain ⟨b, holder, same⟩ := held
    obtain ⟨ext, short⟩ := Prod.mk.injEq _ _ _ _ ▸ same
    refine ⟨b, holder, ?_, ext, short⟩
    rintro rfl
    rw [short] at under
    exact Nat.lt_irrefl _ under
  · intro r member
    rcases made r member with old | maker
    · cases old
    · exact maker
  · intro call r answered
    have found := known call r answered
    refine ⟨List.mem_of_find?_eq_some found, ?_⟩
    intro url dir same
    exact associate_known last url dir r ((last.find_congr _ _ same).trans found)

end Calls

/-- Three files with one content and a missing one: each file that is there has a record, and
those of one extension have distinct short names. -/
theorem records_exact_shared :
    let store : Memory := ["/a.png", "/b.PNG", "/c"].foldl
      (fun s name => s.insertFile ⟨name⟩ "same".toUTF8) {}
    let calls : List (String × Path) :=
      [("/a.png", ⟨"/out"⟩), ("/gone.png", ⟨"/out"⟩), ("/b.PNG?v=1", ⟨"/out"⟩), ("/c", ⟨"/out"⟩)]
    let result := (({} : Table).associateAll calls : StateM Memory _).run store
    result.1.2.records.length = 3 ∧
      ∀ a ∈ result.1.2.records, ∀ b ∈ result.1.2.records, (a.source == b.source) = false →
        extension a.source = extension b.source → a.short ≠ b.short := by
  intro store calls
  have distinct : ∀ result,
      (({} : Table).associateAll calls : StateM Memory _).run store = result →
      ∀ a ∈ result.1.2.records, ∀ b ∈ result.1.2.records, (a.source == b.source) = false →
        extension a.source = extension b.source → a.short ≠ b.short := by
    rintro ⟨⟨answers, last⟩, s'⟩ ran
    exact (records_exact (Execution.ofState Memory) calls store s' answers last ran).2.1
  have count :
      ((({} : Table).associateAll calls : StateM Memory _).run store).1.2.records.length = 3 := by
    decide +kernel
  exact ⟨count, distinct _ rfl⟩

end Table

end Pagefold.Asset
