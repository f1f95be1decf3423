import Mathlib
import Pagefold.Proofs.Asset.Table
import Pagefold.Proofs.Class.Table
import Pagefold.Proofs.Simulation

/-!
# Documents seen from the end of a run

While a document is made, the tables still grow, and its names are written before the last table
is known. What is written can nevertheless be read off the last tables: no entry is ever changed,
so the answers that the making of a document got are the ones that the last tables give.

`Settled` is the making of a document against tables and files that do not change any more. An
action of a run is related to it if the action only lets the tables grow and if every later world
gives its value. This is a simulation, so it holds of whole documents as soon as it holds of the
answers that they ask for.
-/
namespace Pagefold

/-- The tables at the end of a run, with what the files hold. -/
structure World where
  classes : Class.Table
  assets : Asset.Table
  content : Path → Bytes → Prop

/-- What was answered to the making of a document: a name was written as a text in a source of
some kind, or an asset had a record. -/
inductive Answer where
  | token (name : String) (kind : Class.Usage) (text : String)
  | record (r : Asset.Record)

/-- The records among some answers. -/
def Answer.records (answers : List Answer) : List Asset.Record :=
  answers.filterMap fun answer =>
    match answer with
    | .token .. => none
    | .record r => some r

/-- The names that were written, each with the kind of its source. -/
def Answer.calls (answers : List Answer) : List (String × Class.Usage) :=
  answers.filterMap fun answer =>
    match answer with
    | .token name kind _ => some (name, kind)
    | .record _ => none

theorem Answer.records_append (first second : List Answer) :
    records (first ++ second) = records first ++ records second :=
  List.filterMap_append

theorem Answer.calls_append (first second : List Answer) :
    calls (first ++ second) = calls first ++ calls second :=
  List.filterMap_append

/-- What an action comes to in a world: the answers that it gets, in order, and its value. -/
def Settled (α : Type) : Type := World → List Answer → α → Prop

namespace Settled

instance : Monad Settled where
  pure a := fun _ answers b => answers = [] ∧ b = a
  bind x f := fun w answers b =>
    ∃ first second a, answers = first ++ second ∧ x w first a ∧ f a w second b

/-- In a world, the text of a file is decoded from what the file holds, a name is written with
the token that it has, and an asset has the record of its path. No failure comes to a value. -/
instance : Supply Settled where
  text file := fun w answers text =>
    answers = [] ∧ ∃ bytes, w.content file bytes ∧ Text.Utf8.decode bytes = .ok text
  token name kind := fun w answers text =>
    answers = [.token name kind text] ∧ w.classes.written? name = some text
  asset _ source := fun w answers r =>
    answers = [.record r] ∧ w.assets.find? (Asset.Table.sourceOf source.text) = some r
  refuse _ := fun _ _ _ => False

/-- An action that writes names only as the classes of the world have it. -/
def truthful : Simulation Settled Settled where
  rel x _ := ∀ w answers a, x w answers a →
    ∀ name kind text, .token name kind text ∈ answers → w.classes.written? name = some text
  of_pure a := by
    rintro w answers b ⟨rfl, rfl⟩ name kind text member
    cases member
  of_bind := by
    rintro α β x y f g left right w answers b ⟨first, second, a, rfl, early, late⟩ name kind text
      member
    rcases List.mem_append.mp member with before | after
    · exact left w first a early name kind text before
    · exact right a w second b late name kind text after

/-- What settles in a world settles when files hold more. -/
def widening : Simulation Settled Settled where
  rel x y := ∀ w answers a, x w answers a → ∀ content : Path → Bytes → Prop,
    (∀ file bytes, w.content file bytes → content file bytes) →
      y { w with content := content } answers a
  of_pure a := by
    rintro w answers b ⟨rfl, rfl⟩ content more
    exact ⟨rfl, rfl⟩
  of_bind := by
    rintro α β x y f g left right w answers b ⟨first, second, a, rfl, early, late⟩ content more
    exact ⟨first, second, a, rfl, left w first a early content more,
      right a w second b late content more⟩

theorem widening_answers (dir : Path) : widening.Answers dir where
  text file := by
    rintro w answers text ⟨rfl, bytes, held, decoded⟩ content more
    exact ⟨rfl, bytes, more file bytes held, decoded⟩
  token name kind := by
    rintro w answers text ⟨rfl, written⟩ content more
    exact ⟨rfl, written⟩
  asset source := by
    rintro w answers r ⟨rfl, found⟩ content more
    exact ⟨rfl, found⟩
  refuse failure := by
    rintro w answers a impossible
    exact impossible.elim

/-- In a world where a file holds one thing, an action comes to one value at most. -/
def determined : Simulation Settled Settled where
  rel x y := ∀ w, (∀ file a b, w.content file a → w.content file b → a = b) →
    ∀ left a right b, x w left a → y w right b → left = right ∧ a = b
  of_pure a := by
    rintro w one left b right d ⟨rfl, rfl⟩ ⟨rfl, rfl⟩
    exact ⟨rfl, rfl⟩
  of_bind := by
    rintro α β x y f g first second w one left b right d ⟨s, t, a, rfl, early, late⟩
      ⟨s', t', a', rfl, early', late'⟩
    obtain ⟨rfl, rfl⟩ := first w one s a s' a' early early'
    obtain ⟨rfl, rfl⟩ := second a w one t b t' d late late'
    exact ⟨rfl, rfl⟩

/-- An action that gets no records. -/
def unrecorded : Simulation Settled Settled where
  rel x _ := ∀ w answers a, x w answers a → Answer.records answers = []
  of_pure a := by
    rintro w answers b ⟨rfl, rfl⟩
    rfl
  of_bind := by
    rintro α β x y f g left right w answers b ⟨first, second, a, rfl, early, late⟩
    rw [Answer.records_append, left w first a early, right a w second b late, List.append_nil]

theorem unrecorded_readings : unrecorded.Readings where
  text file := by
    rintro w answers text ⟨rfl, _⟩
    rfl
  token name kind := by
    rintro w answers text ⟨rfl, _⟩
    rfl
  refuse failure := by
    rintro w answers a impossible
    exact impossible.elim

end Settled

section Growth

variable (dir : Path) (content : Path → Bytes → Prop)

/-- A record is right if its file is copied into the directory and its digest is that of what
the file holds. -/
structure Asset.Record.Right (r : Asset.Record) : Prop where
  destination : r.destination = dir.child r.name
  digest : ∃ bytes, content r.source bytes ∧ r.hash = Digest.ofContent bytes

/-- How the making of documents changes the tables. The classes are called for the names that were
written. The records among the answers are those that were referred to; all that are new are among
them. -/
structure Tables.Grows (before after : Tables) (answers : List Answer) : Prop where
  classes : after.classes = (before.classes.associateAll (Answer.calls answers)).2
  assets : before.assets.Reaches after.assets
  claimed : after.assets.claimed = before.assets.claimed
  noted : after.referenced = before.referenced ++ Answer.records answers
  known : ∀ r ∈ Answer.records answers, r ∈ after.assets.records
  added : ∀ r ∈ after.assets.records, r ∈ before.assets.records ∨ r ∈ Answer.records answers
  right : ∀ r ∈ after.assets.records, r ∈ before.assets.records ∨ r.Right dir content

variable {dir content}

theorem Tables.Grows.refl (t : Tables) : t.Grows dir content t [] where
  classes := rfl
  assets := .same
  claimed := rfl
  noted := (List.append_nil _).symm
  known := by simp [Answer.records]
  added := fun r member => Or.inl member
  right := fun r member => Or.inl member

theorem Tables.Grows.trans {t u v : Tables} {first second : List Answer}
    (left : t.Grows dir content u first) (right : u.Grows dir content v second) :
    t.Grows dir content v (first ++ second) where
  classes := by
    rw [right.classes, left.classes, Answer.calls_append, Class.Table.associateAll_append]
  assets := left.assets.trans right.assets
  claimed := right.claimed.trans left.claimed
  noted := by rw [right.noted, left.noted, Answer.records_append, List.append_assoc]
  known := by
    intro r member
    rw [Answer.records_append] at member
    rcases List.mem_append.mp member with early | late
    · exact right.assets.records.subset (left.known r early)
    · exact right.known r late
  added := by
    intro r member
    rw [Answer.records_append, List.mem_append]
    rcases right.added r member with old | new
    · exact (left.added r old).imp id Or.inl
    · exact Or.inr (Or.inr new)
  right := by
    intro r member
    rcases right.right r member with old | new
    · exact left.right r old
    · exact Or.inr new

/-- A name that is written with a table is written alike with each later table. -/
theorem Tables.Grows.within {t u : Tables} {answers : List Answer}
    (grown : t.Grows dir content u answers) : t.classes.Within u.classes := by
  rw [grown.classes]
  exact Class.Table.within_associateAll t.classes _

end Growth

section Actions

variable {m : Type → Type} [Monad m] {σ : Type} (exec : Execution m σ)

/-- Asking for the tables gives them. -/
theorem Execution.any_get {s s' : Tables × σ} {result : Except Failure Tables}
    (given : (exec.above Tables).gives (get : Renaming m Tables).run s result s') :
    result = .ok s.1 ∧ s' = s := by
  obtain ⟨⟨a, upper⟩, lower, first, second⟩ := exec.of_bind given
  obtain ⟨found, rfl⟩ := exec.of_pure first
  obtain ⟨answer, state⟩ := exec.of_pure second
  cases found
  exact ⟨congrArg Prod.fst answer, Prod.ext (congrArg Prod.snd answer) state⟩

/-- Setting the tables leaves the store alone. -/
theorem Execution.any_set {s s' : Tables × σ} {t : Tables} {result : Except Failure PUnit}
    (given : (exec.above Tables).gives (set t : Renaming m PUnit).run s result s') :
    result = .ok ⟨⟩ ∧ s' = (t, s.2) := by
  obtain ⟨⟨a, upper⟩, lower, first, second⟩ := exec.of_bind given
  obtain ⟨found, rfl⟩ := exec.of_pure first
  obtain ⟨answer, state⟩ := exec.of_pure second
  cases found
  exact ⟨congrArg Prod.fst answer, Prod.ext (congrArg Prod.snd answer) state⟩

/-- What comes after a question for the tables is done with them. -/
theorem Execution.after_get {α : Type} {f : Tables → Renaming m α} {s s' : Tables × σ}
    {result : Except Failure α}
    (given : (exec.above Tables).gives (get >>= f : Renaming m α).run s result s') :
    (exec.above Tables).gives (f s.1).run s result s' := by
  rcases (exec.above Tables).any_bind given with ⟨t, between, asked, rest⟩ | ⟨e, failed, _⟩
  · obtain ⟨same, rfl⟩ := exec.any_get asked
    cases same
    exact rest
  · cases (exec.any_get failed).1

/-- What comes after the tables are set starts with them. -/
theorem Execution.after_set {α : Type} {t : Tables} {f : PUnit → Renaming m α}
    {s s' : Tables × σ} {result : Except Failure α}
    (given : (exec.above Tables).gives (set t >>= f : Renaming m α).run s result s') :
    (exec.above Tables).gives (f ⟨⟩).run (t, s.2) result s' := by
  rcases (exec.above Tables).any_bind given with ⟨u, between, changed, rest⟩ | ⟨e, failed, _⟩
  · obtain ⟨_, rfl⟩ := exec.any_set changed
    exact rest
  · cases (exec.any_set failed).1

/-- An action on the store leaves the tables alone, and fails if it fails there. -/
theorem Execution.any_store {α : Type} {s s' : Tables × σ} {action : ExceptT StoreError m α}
    {result : Except Failure α}
    (given : (exec.above Tables).gives (Renaming.store action).run s result s') :
    ∃ answer store, s' = (s.1, store) ∧ exec.gives action.run s.2 answer store ∧
      result = answer.mapError .store := by
  obtain ⟨answer, between, first, second⟩ := (exec.above Tables).of_bind given
  obtain ⟨value, lower, inner, outer⟩ := exec.of_bind first
  obtain ⟨found, state⟩ := exec.of_pure outer
  obtain ⟨rfl, upper⟩ := Prod.mk.injEq _ _ _ _ ▸ found
  refine ⟨answer, between.2, ?_, state ▸ inner, ?_⟩
  · cases answer <;> exact ((exec.above Tables).of_pure second).2.trans (Prod.ext upper rfl)
  · cases answer <;> exact ((exec.above Tables).of_pure second).1

/-- An action on the store succeeds if it succeeds there. -/
theorem Execution.ok_store {α : Type} {s s' : Tables × σ} {action : ExceptT StoreError m α} {a : α}
    (given : (exec.above Tables).gives (Renaming.store action).run s (.ok a) s') :
    ∃ store, s' = (s.1, store) ∧ exec.gives action.run s.2 (.ok a) store := by
  obtain ⟨answer, store, rfl, inner, same⟩ := exec.any_store given
  cases answer with
  | ok b =>
    cases same
    exact ⟨store, rfl, inner⟩
  | error e => cases same

variable [FileStore m] (dir : Path) (content : Path → Bytes → Prop) (kept : σ → Prop)

/-- What is read from the store agrees with the content. If a state is one that the content is
taken from, so is the state before a read. -/
def Observes : Prop :=
  ∀ file s bytes s', exec.gives (FileStore.read file).run s (.ok bytes) s' → kept s' →
    content file bytes ∧ kept s

/-- An action of a run settles as another one: it lets the tables grow, and in each later world the
other one comes to its value. -/
def settling : Simulation (Renaming m) Settled where
  rel x y := ∀ s a s', (exec.above Tables).gives x.run s (.ok a) s' → kept s'.2 →
    kept s.2 ∧ ∃ answers, s.1.Grows dir content s'.1 answers ∧
      ∀ classes assets, s'.1.classes.Within classes → s'.1.assets.Reaches assets →
        y ⟨classes, assets, content⟩ answers a
  of_pure a := by
    intro s b s' given keeps
    obtain ⟨rfl, rfl⟩ := (exec.above Tables).ok_pure given
    exact ⟨keeps, [], .refl _, fun _ _ _ _ => ⟨rfl, rfl⟩⟩
  of_bind := by
    intro α β x y f g left right s b s' given keeps
    obtain ⟨a, between, first, second⟩ := (exec.above Tables).ok_bind given
    obtain ⟨middle, late, secondGrowth, secondValue⟩ := right a between b s' second keeps
    obtain ⟨start, early, firstGrowth, firstValue⟩ := left s a between first middle
    refine ⟨start, early ++ late, firstGrowth.trans secondGrowth, ?_⟩
    intro classes assets within reaches
    exact ⟨early, late, a, rfl,
      firstValue classes assets (secondGrowth.within.trans within)
        (secondGrowth.assets.trans reaches),
      secondValue classes assets within reaches⟩

variable {exec dir content kept} (observes : Observes exec content kept)

include observes

theorem settling_text (file : Path) :
    (settling exec dir content kept).rel (Supply.text file) (Supply.text file) := by
  intro s text s' given keeps
  obtain ⟨bytes, between, read, decoded⟩ := (exec.above Tables).ok_bind given
  obtain ⟨store, rfl, lower⟩ := exec.ok_store read
  obtain ⟨result, rfl⟩ := (exec.above Tables).of_pure decoded
  obtain ⟨held, before⟩ := observes file _ _ _ lower keeps
  refine ⟨before, [], .refl _, ?_⟩
  intro classes assets _ _
  refine ⟨rfl, bytes, held, ?_⟩
  cases valid : Text.Utf8.decode bytes with
  | ok found => rw [valid] at result; cases result; rfl
  | error defect => rw [valid] at result; cases result

omit observes in
theorem settling_token (name : String) (kind : Class.Usage) :
    (settling exec dir content kept).rel (Supply.token name kind) (Supply.token name kind) := by
  intro s text s' given keeps
  have rest := exec.after_get given
  obtain ⟨answer, next, call⟩ : ∃ answer next,
      s.1.classes.associate name kind = (answer, next) := ⟨_, _, rfl⟩
  rw [call] at rest
  have done := exec.after_set rest
  obtain ⟨rfl, rfl⟩ := (exec.above Tables).ok_pure done
  have found := Class.Table.associate_exact s.1.classes name kind
  rw [call] at found
  refine ⟨keeps, [.token name kind text], ?_, ?_⟩
  · have called : next = (s.1.classes.associateAll [(name, kind)]).2 := by simp [call]
    exact { Tables.Grows.refl s.1 with classes := called }
  · intro classes assets within _
    exact ⟨rfl, within.written found.1⟩

theorem settling_asset (source : Path) :
    (settling exec dir content kept).rel (Supply.asset dir source) (Supply.asset dir source) := by
  intro s r s' given keeps
  have asked := exec.after_get given
  obtain ⟨⟨found, next⟩, between, stored, rest⟩ := (exec.above Tables).ok_bind asked
  obtain ⟨store, rfl, lower⟩ := exec.ok_store stored
  have done := exec.after_set rest
  obtain ⟨rfl, rfl⟩ := (exec.above Tables).ok_pure done
  rcases Asset.Table.associate_ok exec lower with ⟨known, rfl, same⟩ | ⟨fresh, bytes, read, made⟩
  · refine ⟨same ▸ keeps, [.record r], ?_, fun _ _ _ reaches => ⟨rfl, reaches.found known⟩⟩
    have member : r ∈ s.1.assets.records := List.mem_of_find?_eq_some known
    exact ⟨rfl, .same, rfl, rfl, fun other single => List.mem_singleton.mp single ▸ member,
      fun other old => Or.inl old, fun other old => Or.inl old⟩
  · obtain ⟨rfl, rfl⟩ : r = _ ∧ next = _ := Prod.mk.injEq _ _ _ _ ▸ made
    obtain ⟨held, before⟩ := observes _ _ _ _ read keeps
    have found := Asset.Table.find_added _ _ dir bytes fresh
    refine ⟨before, [.record _], ?_, fun _ _ _ reaches => ⟨rfl, reaches.found found⟩⟩
    constructor
    · rfl
    · exact .added _ _ dir bytes fresh .same
    · rfl
    · rfl
    · intro other member
      exact List.mem_append_right _ member
    · intro other member
      exact List.mem_append.mp member
    · intro other member
      rcases List.mem_append.mp member with old | new
      · exact Or.inl old
      · obtain rfl := List.mem_singleton.mp new
        exact Or.inr ⟨rfl, bytes, held, rfl⟩

omit observes in
theorem settling_refuse {α : Type} (failure : Failure) :
    (settling exec dir content kept).rel (Supply.refuse failure : Renaming m α)
      (Supply.refuse failure : Settled α) := by
  intro s a s' given _
  exact ((exec.above Tables).ok_throw given).elim

/-- All answers settle. -/
theorem settling_answers : (settling exec dir content kept).Answers dir where
  text := settling_text observes
  token := settling_token
  asset := settling_asset observes
  refuse := settling_refuse

end Actions

end Pagefold
