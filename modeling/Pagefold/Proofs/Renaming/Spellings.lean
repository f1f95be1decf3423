import Mathlib
import Pagefold.Proofs.Path.Clean
import Pagefold.Proofs.Renaming.Context
import Pagefold.Proofs.Renaming.Sources

/-!
# The spellings of one file

Links that are spelled in different ways lead to one file if their paths are the same when the dots
are worked out. The record of this file is made once and is then found by its path, so all these links
get one name; and names are given out once only, so links to different files get different ones. The
fragments of the links are written behind the names.

A link is followed in a directory. If no number sign is in the path of the link, none is in the name of
its file, unless the link leads back to this directory or to one above it. There is no file then, but
the tables do not know this.
-/
namespace Pagefold

/-- The links to two names are the same if the names are. -/
theorem Context.publicUrl_inj {c d : Context} (prefixes : c.urlPrefix = d.urlPrefix)
    {first second : String} : c.publicUrl first = d.publicUrl second ↔ first = second := by
  refine ⟨fun same => ?_, fun same => ?_⟩
  · rw [publicUrl, publicUrl, prefixes] at same
    split at same
    · exact same
    · simpa using same
  · rw [publicUrl, publicUrl, prefixes, same]

/-- The link to a name has a number sign only if the name or the prefix has one. -/
theorem Context.publicUrl_clear {c : Context} (unsigned : '#' ∉ c.urlPrefix.toList) {name : String}
    (clear : '#' ∉ name.toList) : '#' ∉ (c.publicUrl name).toList := by
  rw [publicUrl]
  split
  · exact clear
  · simp [unsigned, clear]

namespace Asset.Table

/-- Two known files have one name if they are the same file.

Proof: a name is read as a short name and an extension, and no two records have both in common. -/
theorem Sound.name_iff {t : Table} (sound : t.Sound) {p q : Path} {r other : Record}
    (first : t.find? p = some r) (second : t.find? q = some other) :
    r.name = other.name ↔ (p == q) = true := by
  constructor
  · intro same
    have member := List.mem_of_find?_eq_some first
    have member' := List.mem_of_find?_eq_some second
    obtain ⟨short, ext⟩ := (sound.named r member).parts (sound.named other member') same
    obtain rfl := sound.short_injective member member' ext short
    exact Path.beq_trans (Path.beq_comm p r.source ▸ find_source first) (find_source second)
  · intro same
    rw [t.find_congr p q same] at first
    rw [Option.some.inj (first.symm.trans second)]

/-- All records of a table have the digest of some content. -/
def Digested (t : Table) : Prop := ∀ r ∈ t.records, ∃ content, r.hash = Digest.ofContent content

theorem digested_empty : ({} : Table).Digested := fun _ member => (List.not_mem_nil member).elim

theorem Reaches.digested {t u : Table} (reached : t.Reaches u) (digested : t.Digested) :
    u.Digested := by
  induction reached with
  | same => exact digested
  | added w source dir content fresh _ inductionHypothesis =>
    intro r member
    rcases List.mem_append.mp member with old | new
    · exact inductionHypothesis r old
    · exact ⟨content, List.mem_singleton.mp new ▸ rfl⟩
  | claimed w r _ inductionHypothesis =>
    rw [Digested, (w.claim_records r).1]
    exact inductionHypothesis

end Asset.Table

namespace Renaming

namespace Request

variable (q : Request)

/-- The directory in which the path of the link is followed. -/
def origin : Path :=
  match q.parts.1.toList with
  | '/' :: _ => q.context.root
  | _ => q.base

/-- The fragment of the link as it is written behind a name. -/
def tail : String := (q.parts.2.map ("#" ++ ·)).getD ""

/-- The directory has no number sign, or the link leads neither to it nor to one above it. -/
def Plain : Prop := '#' ∉ q.origin.text.toList ∨ q.origin.clean.isBelow q.file = false

/-- The file is found by following letters of the path from the directory. -/
theorem file_join :
    ∃ rest : String, rest.toList ⊆ q.parts.1.toList ∧ q.file = (q.origin.join ⟨rest⟩).clean := by
  unfold file Context.resolve
  split
  · next rooted letters =>
    have root : q.origin = q.context.root := by simp only [origin, letters]
    refine ⟨String.ofList rooted, ?_, by rw [root]⟩
    rw [String.toList_ofList, letters]
    exact List.subset_cons_self _ _
  · next unrooted =>
    have base : q.origin = q.base := by
      unfold origin
      split
      · next rooted letters => exact absurd letters (unrooted rooted)
      · rfl
    exact ⟨q.parts.1, List.Subset.refl _, by rw [base]⟩

/-- Links lead to one file if the paths are the same, because the dots are worked out. -/
theorem file_inj (p : Request) : (p.file == q.file) = true ↔ p.file = q.file := by
  obtain ⟨_, _, first⟩ := p.file_join
  obtain ⟨_, _, second⟩ := q.file_join
  constructor
  · intro same
    rw [first, second] at same ⊢
    exact Path.clean_canonical same
  · intro same
    rw [same]
    exact Path.beq_self _

variable {q}

/-- No number sign comes into the extension of the file. -/
theorem Plain.extension (plain : q.Plain) : '#' ∉ (Asset.extension q.file).toList := by
  intro sign
  obtain ⟨rest, inside, joined⟩ := q.file_join
  have clear : '#' ∉ rest.toList := fun member => Link.splitFragment_clear _ (inside member)
  obtain ⟨ext, extended, member⟩ := Asset.extension_letter q.file '#' (by decide) sign
  -- The extension ends the last name of the file. If this comes from the directory and not from the
  -- link, the link leads back.
  rcases plain with unsigned | away
  · have letter := q.file.extension_letters ext extended member
    rw [joined] at letter
    rcases Path.join_letters ⟨by decide, by decide⟩
      (Path.clean_letters ⟨by decide, by decide⟩ letter) with outer | inner
    · exact unsigned outer
    · exact clear inner
  · obtain ⟨name, named, within⟩ := q.file.extension_name ext extended
    rw [joined] at named away
    rcases Path.clean_join_name _ _ named with own | back
    · exact clear (own (within member))
    · cases back.symm.trans away

/-- No number sign comes into the name of the file. -/
theorem Plain.name {t : Asset.Table} (sound : t.Sound) (digested : t.Digested) (plain : q.Plain)
    {r : Asset.Record} (found : t.find? q.file = some r) : '#' ∉ r.name.toList := by
  have member := List.mem_of_find?_eq_some found
  obtain ⟨content, hash⟩ := digested r member
  rw [Config.mem_name (sound.named r member) hash '#' (by decide) (by decide),
    Asset.extension_congr (Asset.Table.find_source found)]
  exact plain.extension

end Request

variable {m : Type → Type} [Monad m] [FileStore m] {σ : Type} {exec : Execution m σ}
  {s s' : Tables × σ}

/-- What the tables tell of an answer that is a link: it is that of the record which is found for the
file that was read. -/
def Told (t : Asset.Table) (q : Request) (answer : Except Failure (Option String)) : Prop :=
  ∀ url, answer = .ok (some url) → Link.isLocal q.link = true ∧
    ∃ r, t.find? q.read = some r ∧ url = q.context.renamedUrl r.name q.parts.2

theorem Told.later {t u : Asset.Table} {q : Request} {answer : Except Failure (Option String)}
    (told : Told t q answer) (reaches : t.Reaches u) : Told u q answer := by
  intro url same
  obtain ⟨isLocal, r, found, spelled⟩ := told url same
  exact ⟨isLocal, r, reaches.found found, spelled⟩

/-- One request, over any store: the table grows, and tells of the answer. -/
theorem rename_any {q : Request} {answer : Except Failure (Option String)}
    (given : (exec.above Tables).gives (rename q.context q.link q.base : Renaming m _).run s answer
      s') :
    s.1.assets.Reaches s'.1.assets ∧ Told s'.1.assets q answer := by
  rw [rename_request] at given
  split at given
  · next isLocal =>
    rcases (exec.above Tables).any_bind given with ⟨r, between, asked, done⟩ | ⟨e, failed, rfl⟩
    · obtain ⟨rfl, rfl⟩ := (exec.above Tables).of_pure done
      rcases asset_any asked with ⟨r', same, _, found, made⟩ | ⟨e, same, _⟩
      · cases same
        refine ⟨?_, fun url same => ?_⟩
        · rcases made with ⟨same, _⟩ | ⟨fresh, content, _, added⟩
          · exact same ▸ .same
          · exact added ▸ .added _ _ _ content fresh .same
        · cases same
          exact ⟨isLocal, r, found, rfl⟩
      · cases same
    · rcases asset_any failed with ⟨_, same, _⟩ | ⟨_, _, tables, _⟩
      · cases same
      · exact ⟨tables ▸ .same, fun _ same => nomatch same⟩
  · obtain ⟨rfl, rfl⟩ := (exec.above Tables).of_pure given
    exact ⟨.same, fun _ same => nomatch same⟩

/-- A run of requests with their answers. Before each request and at the end, other things may be done
with the tables and the store, as long as the table of assets keeps its records. -/
inductive Session (exec : Execution m σ) :
    Tables × σ → List (Request × Except Failure (Option String)) → Tables × σ → Prop
  | ended {s s' : Tables × σ} (passes : s.1.assets.Reaches s'.1.assets) : Session exec s [] s'
  | asked {s before after s' : Tables × σ} {q : Request} {answer : Except Failure (Option String)}
    {rest : List (Request × Except Failure (Option String))}
    (passes : s.1.assets.Reaches before.1.assets)
    (given : (exec.above Tables).gives (rename q.context q.link q.base : Renaming m _).run before
      answer after)
    (later : Session exec after rest s') : Session exec s ((q, answer) :: rest) s'

/-- The last tables tell of all answers.

Proof: by induction on the requests. What the tables tell after one request, they still tell at the
end, because records stay where they are. -/
theorem Session.told {asked : List (Request × Except Failure (Option String))}
    (session : Session exec s asked s') :
    s.1.assets.Reaches s'.1.assets ∧ ∀ q answer, (q, answer) ∈ asked → Told s'.1.assets q answer := by
  induction session with
  | ended passes => exact ⟨passes, by simp⟩
  | asked passes given _ inductionHypothesis =>
    obtain ⟨reaches, told⟩ := rename_any given
    obtain ⟨rest, all⟩ := inductionHypothesis
    refine ⟨(passes.trans reaches).trans rest, fun q answer member => ?_⟩
    rcases List.mem_cons.mp member with first | later
    · cases first
      exact told.later rest
    · exact all q answer later

/-- Requests in a row are a session. -/
theorem Session.of_answerAll {requests : List Request}
    {answers : List (Except Failure (Option String))}
    (given : (exec.above Tables).gives (answerAll requests) s answers s') :
    Session exec s (requests.zip answers) s' := by
  induction requests generalizing s answers with
  | nil =>
    obtain ⟨rfl, rfl⟩ := (exec.above Tables).of_pure given
    exact .ended .same
  | cons q rest inductionHypothesis =>
    obtain ⟨answer, between, first, later⟩ := (exec.above Tables).of_bind given
    obtain ⟨others, last, run, done⟩ := (exec.above Tables).of_bind later
    obtain ⟨rfl, rfl⟩ := (exec.above Tables).of_pure done
    exact .asked .same first (inductionHypothesis run)

/-- Any two links that are given in one session, in contexts with the same prefix and in directories
without question marks. Each is a stem with the fragment of the old link behind it, and the stems are
the same exactly if the old links lead to the same path.

If the prefix has no number sign and the request is plain, the stem is also what is read of the new
link before its fragment. -/
theorem session_links {store : σ} {asked : List (Request × Except Failure (Option String))}
    (session : Session exec ({}, store) asked s') {p q : Request} {a b : String}
    (first : (p, .ok (some a)) ∈ asked) (second : (q, .ok (some b)) ∈ asked)
    (prefixes : p.context.urlPrefix = q.context.urlPrefix)
    (unasked : ∀ dir ∈ [p.context.root, p.base, q.context.root, q.base], '?' ∉ dir.text.toList) :
    ∃ stem other, a = stem ++ p.tail ∧ b = other ++ q.tail ∧ (stem = other ↔ p.file = q.file) ∧
      ('#' ∉ p.context.urlPrefix.toList →
        (p.Plain → Link.splitFragment a = (stem, p.parts.2)) ∧
        (q.Plain → Link.splitFragment b = (other, q.parts.2))) := by
  obtain ⟨reached, told⟩ := session.told
  have sound := reached.sound Asset.Table.sound_empty
  have digested := reached.digested Asset.Table.digested_empty
  obtain ⟨isLocal, r, found, rfl⟩ := told p _ first a rfl
  obtain ⟨isLocal', r', found', rfl⟩ := told q _ second b rfl
  obtain ⟨root, base, root', base'⟩ := by simpa using unasked
  -- Without question marks the records found are those of the files to which the links lead.
  rw [p.read_eq isLocal root base] at found
  rw [q.read_eq isLocal' root' base'] at found'
  refine ⟨p.context.publicUrl r.name, q.context.publicUrl r'.name, rfl, rfl, ?_, fun unsigned => ?_⟩
  · rw [Context.publicUrl_inj prefixes, sound.name_iff found found', Request.file_inj]
  · have unsigned' : '#' ∉ q.context.urlPrefix.toList := prefixes ▸ unsigned
    constructor
    · intro plain
      have clear := Context.publicUrl_clear unsigned (plain.name sound digested found)
      exact Link.splitFragment_joined clear _
    · intro plain
      have clear := Context.publicUrl_clear unsigned' (plain.name sound digested found')
      exact Link.splitFragment_joined clear _

/-- An image in two spellings, and another one that holds the same. -/
theorem session_links_images :
    let store := (({} : Memory).insertFile ⟨"/s/x.png"⟩ "x".toUTF8).insertFile ⟨"/s/y.png"⟩ "x".toUTF8
    let c : Context := { root := ⟨"/s"⟩, assetDir := ⟨"/out"⟩, urlPrefix := "a" }
    let requests : List Request :=
      [⟨c, "x.png#1", ⟨"/s"⟩⟩, ⟨c, " ./../x.png ", ⟨"/s/t"⟩⟩, ⟨c, "/y.png", ⟨"/s/t"⟩⟩]
    let ended := ((answerAll requests : StateT Tables (StateM Memory) _).run {}).run store
    ended.1.1.map Except.toOption =
        [some (some "a/L.png#1"), some (some "a/L.png"), some (some "a/LX.png")] ∧
      ∀ p a q b, (p, .ok (some a)) ∈ requests.zip ended.1.1 →
        (q, .ok (some b)) ∈ requests.zip ended.1.1 →
          ((Link.splitFragment a).1 = (Link.splitFragment b).1 ↔ p.file = q.file) := by
  intro store c requests ended
  have same : ∀ q ∈ requests, q.context.urlPrefix = "a" := by decide +kernel
  have clear : ∀ q ∈ requests, '?' ∉ q.context.root.text.toList ∧ '?' ∉ q.base.text.toList ∧
      '#' ∉ q.origin.text.toList := by
    decide +kernel
  have all : ∀ result, ((answerAll requests : StateT Tables (StateM Memory) _).run {}).run store =
      result → ∀ p a q b, (p, .ok (some a)) ∈ requests.zip result.1.1 →
        (q, .ok (some b)) ∈ requests.zip result.1.1 →
          ((Link.splitFragment a).1 = (Link.splitFragment b).1 ↔ p.file = q.file) := by
    rintro ⟨⟨answers, tables⟩, finish⟩ ran p a q b first second
    have given : ((Execution.ofState Memory).above Tables).gives (answerAll requests) ({}, store)
        answers (tables, finish) := ran
    have known := (List.of_mem_zip first).1
    have known' := (List.of_mem_zip second).1
    obtain ⟨root, base, unsigned⟩ := clear p known
    obtain ⟨root', base', unsigned'⟩ := clear q known'
    obtain ⟨stem, other, _, _, stems, read⟩ := session_links (Session.of_answerAll given)
      first second ((same p known).trans (same q known').symm) (by simp [root, base, root', base'])
    have prefixed : '#' ∉ p.context.urlPrefix.toList := by
      rw [same p known]
      decide
    obtain ⟨left, right⟩ := read prefixed
    rw [left (Or.inl unsigned), right (Or.inl unsigned')]
    exact stems
  exact ⟨by decide +kernel, all _ rfl⟩

end Renaming

end Pagefold
