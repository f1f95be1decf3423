import Mathlib
import Pagefold.Proofs.Css.Visits
import Pagefold.Proofs.Settled
import Pagefold.Renaming.Document
import Pagefold.Store.Memory

/-!
# Renaming at one stroke

The names of a stylesheet are replaced one after the other, while the table of classes grows. Since
a token is never changed, the outcome is that of one function on names, the last table, applied to
all of them at once. A token that looks like another name of the stylesheet makes no difference.
-/
namespace Pagefold

namespace Class.Table

/-- What was asked for is known. -/
theorem calls_known (t : Table) (calls : List (String × Usage)) (call : String × Usage)
    (member : call ∈ calls) : ∃ text, (t.associateAll calls).2.written? call.1 = some text := by
  obtain ⟨place, bound, here⟩ := List.mem_iff_getElem.mp member
  have answered : place < (t.associateAll calls).1.length := by rw [answers_length]; exact bound
  refine ⟨(t.associateAll calls).1[place], answers_written t calls call _ ?_⟩
  rw [List.mem_iff_getElem]
  exact ⟨place, by simp [bound, answered], by simp [here]⟩

end Class.Table

namespace Renaming

variable {m : Type → Type} [Monad m] [LawfulMonad m]

/-- An action on the tables that asks for nothing but tokens does not fail. It makes its calls to the
table of classes, and gives what it gives when each name is spelled as in the last table. -/
def naming : Simulation (Renaming m) (Naming (String × Class.Usage)) where
  rel x y := ∀ t : Tables, ∃ calls a,
    x.run.run t = pure (.ok a, { t with classes := (t.classes.associateAll calls).2 }) ∧
      ∀ spell : String → String,
        (∀ call ∈ calls, (t.classes.associateAll calls).2.written? call.1 = some (spell call.1)) →
          y spell = (calls, a)
  of_pure a t := ⟨[], a, rfl, fun _ _ => rfl⟩
  of_bind := by
    intro α β x y f g left right t
    obtain ⟨first, a, early, told⟩ := left t
    obtain ⟨second, b, late, goes⟩ := right a { t with classes := (t.classes.associateAll first).2 }
    refine ⟨first ++ second, b, ?_, fun spell spelled => ?_⟩
    · rw [Class.Table.associateAll_append]
      simp only [ExceptT.run_bind, StateT.run_bind, early, pure_bind]
      exact late
    · rw [Class.Table.associateAll_append] at spelled
      obtain ⟨before, after⟩ := List.forall_mem_append.mp spelled
      refine Naming.bind_told (told spell fun call member => ?_) (goes spell after)
      -- What a call was answered with stays.
      obtain ⟨text, written⟩ := t.classes.calls_known first call member
      have kept := (Class.Table.within_associateAll _ second).written written
      rw [written, ← kept, before call member]

theorem naming_token (name : String) (kind : Class.Usage) :
    (naming (m := m)).rel (token name kind) (Naming.ask (name, kind) name) := by
  intro t
  have asked : (get : Renaming m Tables).run.run t = pure (.ok t, t) := by
    change (Except.ok <$> (get : StateT Tables m Tables)).run t = _
    simp
  have kept : ∀ next : Tables, (set next : Renaming m Unit).run.run t = pure (.ok (), next) := by
    intro next
    change (Except.ok <$> (set next : StateT Tables m PUnit)).run t = _
    simp
  have ran : (token name kind : Renaming m String).run.run t =
      pure (.ok (t.classes.associate name kind).1,
        { t with classes := (t.classes.associate name kind).2 }) := by
    simp [token, asked, kept, Except.map]
  refine ⟨[(name, kind)], (t.classes.associate name kind).1, ran, ?_⟩
  intro spell spelled
  have written := (t.classes.associate_exact name kind).1
  have same := spelled (name, kind) List.mem_cons_self
  rw [Class.Table.associateAll_cons, Class.Table.associateAll_nil, written, Option.some.injEq] at same
  rw [Naming.ask, same]

end Renaming

namespace Settled

/-- An action that gets nothing but names. All of them are known in the world, and spelled as it has
them. -/
def naming : Simulation Settled (Naming (String × Class.Usage)) where
  rel x y := ∀ w answers a, x w answers a → Answer.records answers = [] ∧
    (∀ call ∈ Answer.calls answers, (w.classes.written? call.1).isSome) ∧
    y (Css.spelled w.classes.written?) = (Answer.calls answers, a)
  of_pure a := by
    rintro w answers b ⟨rfl, rfl⟩
    exact ⟨rfl, by simp [Answer.calls], rfl⟩
  of_bind := by
    rintro α β x y f g left right w answers b ⟨first, second, a, rfl, early, late⟩
    obtain ⟨none, known, told⟩ := left w first a early
    obtain ⟨nothing, found, goes⟩ := right a w second b late
    rw [Answer.records_append, none, nothing, Answer.calls_append]
    exact ⟨rfl, List.forall_mem_append.mpr ⟨known, found⟩, Naming.bind_told told goes⟩

theorem naming_token (name : String) (kind : Class.Usage) :
    naming.rel (Supply.token name kind) (Naming.ask (name, kind) name) := by
  rintro w answers text ⟨rfl, written⟩
  refine ⟨rfl, ?_, ?_⟩
  · intro call member
    obtain rfl : call = (name, kind) := List.mem_singleton.mp member
    exact Option.isSome_iff_exists.mpr ⟨text, written⟩
  · rw [Naming.ask, Css.spelled_eq written]
    rfl

/-- In a world, a stylesheet gets the tokens of its names, all of which are known. -/
theorem names_settled {w : World} {sheet out : Css.Sheet} {answers : List Answer}
    (settled : (Renaming.renameNames sheet : Settled Css.Sheet) w answers out) :
    (∀ visit ∈ sheet.visits, (w.classes.written? visit.2).isSome) ∧
      out = sheet.rename (Css.spelled w.classes.written?) := by
  have named : naming.rel (Renaming.renameNames sheet)
      (sheet.traverse fun kind name => Naming.ask (name, Renaming.usageOf kind) name) :=
    naming.of_sheet (fun kind name => naming_token name (Renaming.usageOf kind)) sheet
  obtain ⟨_, known, told⟩ := named w answers out settled
  rw [sheet.traverse_told fun kind name => (name, Renaming.usageOf kind), Prod.mk.injEq] at told
  obtain ⟨calls, renamed⟩ := told
  refine ⟨fun visit member => known (visit.2, Renaming.usageOf visit.1) ?_, renamed.symm⟩
  rw [← calls]
  exact List.mem_map_of_mem member

end Settled

namespace Css.Sheet

/-- The stylesheet `out` is another one with all names that are visited replaced at one stroke by
their tokens. What stands in place of a name is the token of that name, and not of another token. The
rest is as it was: the two are the same once their names are taken away, and the other one comes back
when each token is replaced by its name. -/
structure Replaced (token : String → Option String) (sheet out : Sheet) : Prop where
  known : ∀ visit ∈ sheet.visits, (token visit.2).isSome
  renamed : out = sheet.rename (spelled token)
  visits : out.visits = sheet.visits.map fun visit => (visit.1, spelled token visit.2)
  rest : out.rename (fun _ => "") = sheet.rename fun _ => ""
  back : ∀ name : String → String, (∀ visit ∈ sheet.visits, name (spelled token visit.2) = visit.2) →
    out.rename name = sheet

theorem replaced_rename {token : String → Option String} {sheet : Sheet}
    (known : ∀ visit ∈ sheet.visits, (token visit.2).isSome) :
    Replaced token sheet (sheet.rename (spelled token)) where
  known := known
  renamed := rfl
  visits := sheet.visits_rename _
  rest := sheet.rename_rename _ _
  back name inverse := by
    rw [rename_rename]
    exact sheet.rename_fixed _ inverse

end Css.Sheet

namespace Renaming

variable {m : Type → Type} [Monad m] [LawfulMonad m] [FileStore m]

/-- From any tables, the names of any stylesheet are replaced at one stroke by their tokens in the
table after it, which has been called for each name that is visited, in order. There is no failure,
and nothing else is changed. -/
theorem renameNames_replaced (sheet : Css.Sheet) (tables : Tables) :
    let calls := sheet.visits.map fun visit => (visit.2, usageOf visit.1)
    let later := (tables.classes.associateAll calls).2
    ∃ out, (renameNames sheet : Renaming m Css.Sheet).run.run tables =
        pure (.ok out, { tables with classes := later }) ∧
      sheet.Replaced later.written? out := by
  intro calls later
  obtain ⟨made, out, ran, told⟩ := (naming (m := m)).of_sheet
    (fun kind name => naming_token name (usageOf kind)) sheet tables
  have known := tables.classes.calls_known made
  have goes := told (Css.spelled (tables.classes.associateAll made).2.written?) fun call member => by
    obtain ⟨text, written⟩ := known call member
    rw [written, Css.spelled_eq written]
  rw [sheet.traverse_told fun kind name => (name, usageOf kind), Prod.mk.injEq] at goes
  obtain ⟨rfl, renamed⟩ := goes
  refine ⟨out, ran, renamed ▸ Css.Sheet.replaced_rename fun visit member => ?_⟩
  obtain ⟨text, written⟩ := known (visit.2, usageOf visit.1) (List.mem_map_of_mem member)
  exact Option.isSome_iff_exists.mpr ⟨text, written⟩

/-- A class and keyframes that are called like each other's tokens are exchanged. -/
theorem renameNames_replaced_exchange :
    let sheet : Css.Sheet :=
      { rules := [.style [.last [.cls "a"]] {} [], .keyframes "@keyframes" (.ident "_") []] }
    sheet.visits = [(.cls, "a"), (.keyframes, "_")] ∧
      ∃ out later, (renameNames sheet : Renaming (StateM Memory) Css.Sheet).run.run {} =
          pure (.ok out, later) ∧
        sheet.Replaced later.classes.written? out ∧
        out.visits = [(.cls, "_"), (.keyframes, "a")] := by
  intro sheet
  have visits : sheet.visits = [(.cls, "a"), (.keyframes, "_")] := by decide +kernel
  have first : Class.generate 0 = ("_", 2) := by decide +kernel
  have second : (Class.generate 2).1 = "a" := by decide +kernel
  obtain ⟨out, ran, replaced⟩ := renameNames_replaced (m := StateM Memory) sheet {}
  refine ⟨visits, out, _, ran, replaced, ?_⟩
  rw [replaced.visits, visits]
  simp [usageOf, Css.spelled, Class.Table.associate, Class.Table.assign, Class.Table.written?,
    Class.undot, Class.redot, first, second, Std.HashMap.getElem_insert]

end Renaming

end Pagefold
