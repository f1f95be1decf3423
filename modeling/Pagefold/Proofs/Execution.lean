import Mathlib
import Pagefold.Store.Basic

/-!
# What an action can give

A store is reached through the actions of some monad. Over the state of the store, an action
gives results and later states; the only facts used about this are that an action which does
nothing gives its value, and that actions in a row give what each of them gives in turn. The
stores in memory, on disk, and with remembered answers are all of this kind.
-/
namespace Pagefold

/-- How the actions of a monad act on states. -/
structure Execution (m : Type → Type) [Monad m] (σ : Type) where
  gives : {α : Type} → m α → σ → α → σ → Prop
  of_pure : ∀ {α : Type} {a b : α} {s s' : σ}, gives (pure a) s b s' → b = a ∧ s' = s
  of_bind : ∀ {α β : Type} {x : m α} {f : α → m β} {s s' : σ} {b : β},
    gives (x >>= f) s b s' → ∃ a between, gives x s a between ∧ gives (f a) between b s'

namespace Execution

variable {m : Type → Type} [Monad m] {σ τ : Type}

/-- Actions on a state alone. -/
def ofState (σ : Type) : Execution (StateM σ) σ where
  gives action s a s' := action.run s = (a, s')
  of_pure given := by
    cases given
    exact ⟨rfl, rfl⟩
  of_bind given := ⟨_, _, rfl, given⟩

/-- An action on a state that succeeds gives a value. -/
theorem exists_ok {ε α σ : Type} (action : ExceptT ε (StateM σ) α) (s : σ)
    (succeeds : (action.run.run s).1.isOk = true) :
    ∃ a s', action.run.run s = (.ok a, s') := by
  generalize action.run.run s = outcome at succeeds ⊢
  obtain ⟨result, s'⟩ := outcome
  cases result with
  | ok a => exact ⟨a, s', rfl⟩
  | error e => cases succeeds

/-- Actions on a further state above a store. -/
def above (exec : Execution m σ) (τ : Type) : Execution (StateT τ m) (τ × σ) where
  gives action s a s' := exec.gives (action.run s.1) s.2 (a, s'.1) s'.2
  of_pure given := by
    obtain ⟨result, state⟩ := exec.of_pure given
    exact ⟨congrArg Prod.fst result, Prod.ext (congrArg Prod.snd result) state⟩
  of_bind given := by
    obtain ⟨⟨a, upper⟩, lower, first, second⟩ := exec.of_bind given
    exact ⟨a, (upper, lower), first, second⟩

/-- An action on two states that succeeds gives a value. -/
theorem exists_ok_above {ε α : Type} (action : ExceptT ε (StateT τ (StateM σ)) α) (s : τ × σ)
    (succeeds : ((action.run.run s.1).run s.2).1.1.isOk = true) :
    ∃ a s', ((ofState σ).above τ).gives action.run s (.ok a) s' := by
  obtain ⟨a, found⟩ : ∃ a, ((action.run.run s.1).run s.2).1.1 = .ok a := by
    cases result : ((action.run.run s.1).run s.2).1.1 with
    | ok a => exact ⟨a, rfl⟩
    | error e =>
      rw [result] at succeeds
      cases succeeds
  exact ⟨a, (((action.run.run s.1).run s.2).1.2, ((action.run.run s.1).run s.2).2),
    Prod.ext (Prod.ext found rfl) rfl⟩

variable (exec : Execution m σ) {ε α β : Type} {s s' : σ}

/-- A value that is no failure is given as it is. -/
theorem ok_pure {a b : α} (given : exec.gives (pure a : ExceptT ε m α).run s (.ok b) s') :
    b = a ∧ s' = s := by
  obtain ⟨result, state⟩ := exec.of_pure given
  cases result
  exact ⟨rfl, state⟩

/-- A failure is no success. -/
theorem ok_throw {e : ε} {b : α}
    (given : exec.gives (throw e : ExceptT ε m α).run s (.ok b) s') : False := by
  obtain ⟨result, _⟩ := exec.of_pure given
  cases result

/-- If actions in a row succeed, each of them succeeds in turn. -/
theorem ok_bind {x : ExceptT ε m α} {f : α → ExceptT ε m β} {b : β}
    (given : exec.gives (x >>= f).run s (.ok b) s') :
    ∃ a between, exec.gives x.run s (.ok a) between ∧ exec.gives (f a).run between (.ok b) s' := by
  obtain ⟨result, between, first, second⟩ := exec.of_bind given
  cases result with
  | ok a => exact ⟨a, between, first, second⟩
  | error e =>
    obtain ⟨failed, _⟩ := exec.of_pure second
    cases failed

/-- The action leaves every state as it is. -/
def Leaves {α : Type} (action : m α) : Prop := ∀ ⦃s a s'⦄, exec.gives action s a s' → s' = s

theorem leaves_pure (a : α) : exec.Leaves (pure a) := fun _ _ _ given => (exec.of_pure given).2

/-- Actions in a row either go on after the first one or end with its failure. -/
theorem any_bind {x : ExceptT ε m α} {f : α → ExceptT ε m β} {result : Except ε β}
    (given : exec.gives (x >>= f).run s result s') :
    (∃ a between, exec.gives x.run s (.ok a) between ∧
        exec.gives (f a).run between result s') ∨
      ∃ e, exec.gives x.run s (.error e) s' ∧ result = .error e := by
  obtain ⟨answer, between, first, second⟩ := exec.of_bind given
  cases answer with
  | ok a => exact Or.inl ⟨a, between, first, second⟩
  | error e =>
    obtain ⟨rfl, rfl⟩ := exec.of_pure second
    exact Or.inr ⟨e, first, rfl⟩

/-- An action that cannot fail gives its value. -/
theorem any_lift [LawfulMonad m] {action : m α} {result : Except ε α}
    (given : exec.gives (ExceptT.lift action : ExceptT ε m α).run s result s') :
    ∃ a, exec.gives action s a s' ∧ result = .ok a := by
  have lifted : (ExceptT.lift action : ExceptT ε m α).run = action >>= fun a => pure (.ok a) :=
    map_eq_pure_bind _ _
  rw [lifted] at given
  obtain ⟨a, between, early, late⟩ := exec.of_bind given
  obtain ⟨rfl, rfl⟩ := exec.of_pure late
  exact ⟨a, early, rfl⟩

section Keeping

variable {R : σ → σ → Prop}

/-- The action leads from each state to related ones, whatever it gives. -/
def Keeps {α : Type} (R : σ → σ → Prop) (action : m α) : Prop :=
  ∀ ⦃s a s'⦄, exec.gives action s a s' → R s s'

theorem keeps_pure (refl : ∀ s, R s s) (a : α) : exec.Keeps R (pure a) := by
  intro s b s' given
  rw [(exec.of_pure given).2]
  exact refl s

/-- Actions in a row that may fail lead to related states if each of them does. -/
theorem keeps_bind_run (trans : ∀ s t u, R s t → R t u → R s u) {x : ExceptT ε m α}
    {f : α → ExceptT ε m β} (first : exec.Keeps R x.run) (second : ∀ a, exec.Keeps R (f a).run) :
    exec.Keeps R (x >>= f).run := by
  intro s result s' given
  rcases exec.any_bind given with ⟨a, between, early, late⟩ | ⟨e, failed, _⟩
  · exact trans _ _ _ (first early) (second a late)
  · exact first failed

theorem keeps_lift [LawfulMonad m] {action : m α} (kept : exec.Keeps R action) :
    exec.Keeps R (ExceptT.lift action : ExceptT ε m α).run := by
  intro s result s' given
  obtain ⟨a, early, _⟩ := exec.any_lift given
  exact kept early

/-- Failures under another name change no state. -/
theorem keeps_renamed {φ : Type} {action : ExceptT ε m α} (wording : ε → φ)
    (kept : exec.Keeps R action.run) :
    exec.Keeps R
      (ExceptT.mk (do pure ((← action.run).mapError wording)) : ExceptT φ m α).run := by
  intro s result s' given
  obtain ⟨answer, between, early, late⟩ := exec.of_bind given
  rw [(exec.of_pure late).2]
  exact kept early

/-- Actions in a row that may fail leave every state as it is if each of them does. -/
theorem leaves_bind_run {x : ExceptT ε m α} {f : α → ExceptT ε m β} (first : exec.Leaves x.run)
    (second : ∀ a, exec.Leaves (f a).run) : exec.Leaves (x >>= f).run :=
  exec.keeps_bind_run (fun _ _ _ early late => late.trans early) first second

end Keeping

end Execution

end Pagefold
