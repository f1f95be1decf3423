import Pagefold.Store.Basic

/-!
# A store that remembers

Contents, listings and entries are remembered by path once they were read without failure.
A change forgets what it may have touched: the path itself and what is known about its
parent, for a new tree of directories also everything up to the root, and for a removed
tree everything below.
-/
namespace Pagefold

/-- What is remembered about a store. -/
structure Cache where
  contents : List (Path × Bytes) := []
  listings : List (Path × List String) := []
  entries : List (Path × Entry) := []

namespace Cache

/-- Without what is remembered for the paths that `gone` accepts. -/
def dropWhere {α : Type} (gone : Path → Bool) (slots : List (Path × α)) : List (Path × α) :=
  slots.filter fun slot => !gone slot.1

/-- Forgets a path, and the listing and entry of its parent. -/
def forget (c : Cache) (p : Path) : Cache :=
  let isParent (q : Path) : Bool := (p.parent?.map (q == ·)).getD false
  { contents := dropWhere (· == p) c.contents
    listings := dropWhere (fun q => q == p || isParent q) c.listings
    entries := dropWhere (fun q => q == p || isParent q) c.entries }

/-- Forgets a path and every directory above it. -/
def forgetUpwards (c : Cache) (p : Path) : Cache := (p :: p.ancestors).foldl forget c

/-- Forgets a path and everything below it. -/
def forgetTree (c : Cache) (p : Path) : Cache :=
  forget
    { contents := dropWhere (·.isBelow p) c.contents
      listings := dropWhere (·.isBelow p) c.listings
      entries := dropWhere (·.isBelow p) c.entries } p

end Cache

namespace Cached

variable {m : Type → Type} [Monad m]

/-- An operation of the store below. -/
def below {α : Type} (action : ExceptT StoreError m α) : ExceptT StoreError (StateT Cache m) α :=
  ExceptT.mk (StateT.lift action.run)

/-- A change of the store below, after which `touched` is applied to what is remembered. -/
def changing (action : ExceptT StoreError m Unit) (touched : Cache → Cache) :
    ExceptT StoreError (StateT Cache m) Unit := do
  below action
  modify touched

/-- The remembered answer, or the answer of the store below, which is then remembered. -/
def remembering {α : Type} (p : Path) (slots : Cache → List (Path × α))
    (keep : List (Path × α) → Cache → Cache) (action : ExceptT StoreError m α) :
    ExceptT StoreError (StateT Cache m) α := do
  match (slots (← get)).lookup p with
  | some known => pure known
  | none =>
    let found ← below action
    modify fun c => keep ((p, found) :: slots c) c
    pure found

end Cached

instance {m : Type → Type} [Monad m] [FileStore m] : FileStore (StateT Cache m) where
  workingDir := StateT.lift FileStore.workingDir
  read p := Cached.remembering p (·.contents) (fun slots c => { c with contents := slots })
    (FileStore.read p)
  write p content := Cached.changing (FileStore.write p content) (·.forget p)
  entry p := Cached.remembering p (·.entries) (fun slots c => { c with entries := slots })
    (FileStore.entry p)
  hasEntry p := do
    if ((← get).entries.lookup p).isSome then pure true
    else StateT.lift (FileStore.hasEntry p)
  allows p access := StateT.lift (FileStore.allows p access)
  createDir p above := Cached.changing (FileStore.createDir p above)
    fun c => if above then c.forgetUpwards p else c.forget p
  removeTree p := Cached.changing (FileStore.removeTree p) (·.forgetTree p)
  list p := Cached.remembering p (·.listings) (fun slots c => { c with listings := slots })
    (FileStore.list p)
  copy source target := Cached.changing (FileStore.copy source target) (·.forget target)

end Pagefold
