import Pagefold.Path

/-!
# File stores

All file access goes through the operations named here, so that a run can be carried out
over the disk, over a disk held in memory, or over a store that remembers its answers.
An operation on a store is an action in some monad; a failure names its cause.
-/
namespace Pagefold

/-- The content of a file. -/
abbrev Bytes := ByteArray

/-- Why a file operation failed. -/
inductive StoreError where
  /-- There is nothing at this path, or a directory on the way to it is missing. -/
  | notFound (path : Path)
  /-- The store refused the operation, with its own words. -/
  | refused (reason : String)
  deriving Repr

/-- The wording of a failure. -/
def StoreError.message : StoreError → String
  | notFound path => "File not found: " ++ path.text
  | refused reason => "I/O error: " ++ reason

/-- What is known about an entry of a store. -/
structure Entry where
  size : Nat
  isDir : Bool
  isFile : Bool
  readOnly : Bool
  deriving DecidableEq, Repr

/-- What one may want to do with an entry. -/
inductive Access where
  | read
  | write
  deriving DecidableEq, Repr

/-- The operations of a store. Writing replaces the content of a file; `createDir` with
`true` also creates the directories above; `list` gives the names in a directory. -/
class FileStore (m : Type → Type) where
  /-- The absolute directory from which relative paths are seen. -/
  workingDir : m Path
  read : Path → ExceptT StoreError m Bytes
  write : Path → Bytes → ExceptT StoreError m Unit
  entry : Path → ExceptT StoreError m Entry
  hasEntry : Path → m Bool
  allows : Path → Access → m Bool
  createDir : Path → Bool → ExceptT StoreError m Unit
  removeTree : Path → ExceptT StoreError m Unit
  list : Path → ExceptT StoreError m (List String)
  copy : Path → Path → ExceptT StoreError m Unit

namespace FileStore

variable {m : Type → Type} [Monad m] [FileStore m]

/-- The answer to a question that has one, and a default for one that fails. -/
def answer {α : Type} (fallback : α) (question : ExceptT StoreError m α) : m α := do
  match ← question.run with
  | .ok a => pure a
  | .error _ => pure fallback

/-- Whether there is a directory at the path. -/
def isDir (p : Path) : m Bool := answer false ((·.isDir) <$> FileStore.entry p)

/-- Whether there is a file at the path. -/
def isFile (p : Path) : m Bool := answer false ((·.isFile) <$> FileStore.entry p)

/-- The nearest of the given directories that exists decides, and it has to be a directory
that can be written. An empty path is the working directory, which always decides. -/
def canHold : List Path → m Bool
  | [] => pure false
  | dir :: above => do
    let place : Path := if dir.text = "" then ⟨"."⟩ else dir
    let decides ← if dir.text = "" then pure true else FileStore.hasEntry dir
    if decides then
      if ← isDir place then FileStore.allows place .write else pure false
    else canHold above

/-- Whether an entry could be created at the path, directories above it included. -/
def canBeCreated (p : Path) : m Bool := canHold p.ancestors

end FileStore

end Pagefold
