import Pagefold.Store.Basic

/-!
# A store in memory

Files and directories are kept under the paths they were given; two spellings of one path
are one entry, which keeps its first spelling. Putting a file in place from outside creates
the directories above it, while writing a file needs its directory to exist. Reads are
counted, and single paths can be marked as not writable or not listable.
-/
namespace Pagefold

/-- The entries of a store, with the marks and counts kept about them. -/
structure Memory where
  files : List (Path × Bytes) := []
  dirs : List Path := []
  readOnly : List Path := []
  unlistable : List Path := []
  reads : List (Path × Nat) := []

namespace Memory

/-- A list of pairs with the value at `key` replaced, or put at the end. -/
def put {α : Type} (key : Path) (value : α) : List (Path × α) → List (Path × α)
  | [] => [(key, value)]
  | (k, v) :: rest => if k == key then (k, value) :: rest else (k, v) :: put key value rest

/-- A list of paths that holds `p`. -/
def adjoin (p : Path) (ps : List Path) : List Path := if ps.contains p then ps else ps ++ [p]

/-- The content of a file. -/
def file? (s : Memory) (p : Path) : Option Bytes := s.files.lookup p

/-- Whether a directory is known at the path. -/
def hasDir (s : Memory) (p : Path) : Bool := s.dirs.contains p

/-- Whether a file or a directory is known at the path. -/
def has (s : Memory) (p : Path) : Bool := (s.file? p).isSome || s.hasDir p

/-- The named directories above a path: the walk ends at the first parent without a name. -/
def namedAncestors (p : Path) : List Path := p.ancestors.takeWhile (·.text ≠ "")

/-- The store with the directories above `p`. -/
def addParents (s : Memory) (p : Path) : Memory :=
  { s with dirs := (namedAncestors p).foldl (fun ds d => adjoin d ds) s.dirs }

/-- A file put in place, with the directories above it. -/
def insertFile (s : Memory) (p : Path) (content : Bytes) : Memory :=
  let s := s.addParents p
  { s with files := put p content s.files }

/-- A directory put in place, with the directories above it. -/
def insertDir (s : Memory) (p : Path) : Memory :=
  let s := s.addParents p
  { s with dirs := adjoin p s.dirs }

/-- The path is marked as not writable. -/
def setReadOnly (s : Memory) (p : Path) : Memory := { s with readOnly := adjoin p s.readOnly }

/-- The path is marked as not listable. -/
def setUnlistable (s : Memory) (p : Path) : Memory := { s with unlistable := adjoin p s.unlistable }

/-- How often the file was asked for, whether it was there or not. -/
def readCount (s : Memory) (p : Path) : Nat := (s.reads.lookup p).getD 0

/-- The files at or below a path. -/
def filesBelow (s : Memory) (p : Path) : List (Path × Bytes) := s.files.filter (·.1.isBelow p)

/-- The directory that has to exist before an entry can be made at `p`, if it is missing. -/
def missingParent? (s : Memory) (p : Path) : Option Path :=
  p.namedParent?.filter (!s.hasDir ·)

/-- What is known about a path. -/
def entry? (s : Memory) (p : Path) : Option Entry :=
  let readOnly := s.readOnly.contains p
  match s.file? p with
  | some content => some ⟨content.size, false, true, readOnly⟩
  | none => if s.hasDir p then some ⟨0, true, false, readOnly⟩ else none

/-- Reads a file and counts the attempt. -/
def read (p : Path) (s : Memory) : Except StoreError Bytes × Memory :=
  let counted := { s with reads := put p (s.readCount p + 1) s.reads }
  match s.file? p with
  | some content => (.ok content, counted)
  | none => (.error (.notFound p), counted)

/-- Writes a file into a directory that exists. -/
def write (p : Path) (content : Bytes) (s : Memory) : Except StoreError Unit × Memory :=
  match s.missingParent? p with
  | some parent => (.error (.notFound parent), s)
  | none => (.ok (), { s with files := put p content s.files })

/-- Creates a directory, below one that exists or together with those above it. -/
def createDir (p : Path) (above : Bool) (s : Memory) : Except StoreError Unit × Memory :=
  match if above then none else s.missingParent? p with
  | some parent => (.error (.notFound parent), s)
  | none => (.ok (), s.insertDir p)

/-- Removes a directory with everything below it. -/
def removeTree (p : Path) (s : Memory) : Except StoreError Unit × Memory :=
  if s.hasDir p then
    (.ok (), { s with
      files := s.files.filter (!·.1.isBelow p)
      dirs := s.dirs.filter (!·.isBelow p) })
  else (.error (.notFound p), s)

/-- The names of the entries directly below a directory, in ascending order. -/
def names (s : Memory) (p : Path) : List String :=
  let entries := s.files.map (·.1) ++ s.dirs
  let children := entries.filter fun q => (q.parent?.map (· == p)).getD false
  ((children.filterMap Path.fileName?).mergeSort (fun a b => decide (a ≤ b))).eraseDups

/-- Lists a directory that is not marked. -/
def list (p : Path) (s : Memory) : Except StoreError (List String) × Memory :=
  if !s.hasDir p then (.error (.notFound p), s)
  else if s.unlistable.contains p then (.error (.refused ("permission denied: " ++ p.text)), s)
  else (.ok (s.names p), s)

/-- Whether the path exists and, for writing, is not marked. -/
def allows (s : Memory) (p : Path) : Access → Bool
  | .read => s.has p
  | .write => s.has p && !s.readOnly.contains p

/-- Copying is reading, then writing. -/
def copy (source target : Path) (s : Memory) : Except StoreError Unit × Memory :=
  match read source s with
  | (.ok content, s) => write target content s
  | (.error e, s) => (.error e, s)

end Memory

instance : FileStore (StateM Memory) where
  workingDir := pure ⟨"/"⟩
  read p := Memory.read p
  write p content := Memory.write p content
  entry p := fun s =>
    (match s.entry? p with
      | some e => .ok e
      | none => .error (.notFound p), s)
  hasEntry p := fun s => (s.has p, s)
  allows p access := fun s => (s.allows p access, s)
  createDir p above := Memory.createDir p above
  removeTree p := Memory.removeTree p
  list p := Memory.list p
  copy source target := Memory.copy source target

end Pagefold
