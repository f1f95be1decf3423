import Pagefold.Store.Basic

/-!
# A disk held in memory

The rules of a POSIX file system, for a user who may write everywhere: a path is walked name
by name from the root or from the working directory, a missing name and a file used as a
directory are different failures, and a read-only mark does not keep anyone from writing.
-/
namespace Pagefold

/-- A place on a disk: the names from the root down. -/
abbrev Place := List String

/-- Files and directories by place. The root always exists. -/
structure Disk where
  files : List (Place × Bytes) := []
  dirs : List Place := []
  readOnly : List Place := []
  /-- The directory from which relative paths are walked. -/
  here : Place := []

/-- The failures of the file system. -/
inductive Fault where
  | noEntry
  | exists
  | notDirectory
  | isDirectory
  | invalid
  | nameTooLong
  | notEmpty
  | notRegular
  | nullCharacter
  deriving DecidableEq, Repr

/-- The system's words for a failure. -/
def Fault.text : Fault → String
  | noEntry => "No such file or directory (os error 2)"
  | .exists => "File exists (os error 17)"
  | notDirectory => "Not a directory (os error 20)"
  | isDirectory => "Is a directory (os error 21)"
  | invalid => "Invalid argument (os error 22)"
  | nameTooLong => "File name too long (os error 36)"
  | notEmpty => "Directory not empty (os error 39)"
  | notRegular => "the source path is neither a regular file nor a symlink to a regular file"
  | nullCharacter => "file name contained an unexpected NUL byte"

/-- The failure of an action on a path. -/
def Fault.on (fault : Fault) (action : String) (p : Path) : StoreError :=
  match fault with
  | noEntry => .notFound p
  | _ => .refused ("Failed to " ++ action ++ " " ++ p.text ++ ": " ++ fault.text)

/-- What a walk along a path arrives at. `free` is a name missing in a directory that exists. -/
inductive Arrival where
  | dir (place : Place)
  | file (place : Place)
  | free (place : Place)
  deriving DecidableEq, Repr

namespace Disk

/-- Whether there is a directory at a place. -/
def hasDir (d : Disk) (place : Place) : Bool := place.isEmpty || d.dirs.contains place

/-- What is found under a name in a directory. -/
def lookIn (d : Disk) (dir : Place) (name : String) : Arrival :=
  let place := dir ++ [name]
  if d.hasDir place then .dir place
  else if (d.files.lookup place).isSome then .file place
  else .free place

/-- Whether a name is longer than the 255 bytes that a directory can hold. -/
def isTooLong (name : List Char) : Bool := 255 < (String.ofList name).utf8ByteSize

/-- The walk along the pieces of a path. An empty piece and a dot stay in a directory. -/
def walkFrom (d : Disk) : Arrival → List (List Char) → Except Fault Arrival
  | arrival, [] => .ok arrival
  | .dir place, piece :: rest =>
    if Path.isSilent piece then walkFrom d (.dir place) rest
    else if piece = ['.', '.'] then walkFrom d (.dir place.dropLast) rest
    else if isTooLong piece then .error .nameTooLong
    else walkFrom d (d.lookIn place (String.ofList piece)) rest
  | .file _, _ :: _ => .error .notDirectory
  | .free _, _ :: _ => .error .noEntry

/-- Where the walk along a path starts, and its pieces. A path is not empty, has no null
character, and is shorter than 4096 bytes. -/
def route (d : Disk) (p : Path) : Except Fault (Arrival × List (List Char)) :=
  if p.text.toList.contains '\x00' then .error .nullCharacter
  else if 4096 ≤ p.text.utf8ByteSize then .error .nameTooLong
  else
    match p.text.toList with
    | [] => .error .noEntry
    | '/' :: body => .ok (.dir [], Text.pieces (· == '/') body)
    | body => .ok (.dir d.here, Text.pieces (· == '/') body)

/-- The walk along a path. -/
def walk (d : Disk) (p : Path) : Except Fault Arrival := do
  let (start, pieces) ← d.route p
  d.walkFrom start pieces

/-- The walk to the directory that holds the last piece of a path, that piece, and whether
slashes follow it. A path of slashes alone has no last piece. -/
def walkToLast (d : Disk) (p : Path) : Except Fault (Place × List Char × Bool) := do
  let (start, pieces) ← d.route p
  let (last, before) := match pieces.reverse.dropWhile List.isEmpty with
    | last :: before => (last, before.reverse)
    | [] => ([], [])
  match ← d.walkFrom start before with
  | .dir place => pure (place, last, pieces.getLast? == some [])
  | .file _ => throw .notDirectory
  | .free _ => throw .noEntry

/-- Whether a piece is a step to the same or the upper directory and no name. -/
def isStep (piece : List Char) : Bool := Path.isSilent piece || piece == ['.', '.']

/-- The disk with a file's content set; a new file comes last. -/
def setFile (d : Disk) (place : Place) (content : Bytes) : Disk :=
  if (d.files.lookup place).isSome then
    { d with files := d.files.map fun f => if f.1 = place then (place, content) else f }
  else { d with files := d.files ++ [(place, content)] }

/-- The disk with or without the read-only mark at a place. -/
def setMark (d : Disk) (place : Place) (marked : Bool) : Disk :=
  let others := d.readOnly.filter (· ≠ place)
  { d with readOnly := if marked then others ++ [place] else others }

def read (d : Disk) (p : Path) : Except Fault Bytes := do
  match ← d.walk p with
  | .file place => pure ((d.files.lookup place).getD .empty)
  | .dir _ => throw .isDirectory
  | .free _ => throw .noEntry

/-- The place of a file that is opened for writing and made if it is missing. A path that ends in a
slash is one of a directory, whether there is one or not. -/
def goal (d : Disk) (p : Path) : Except Fault Place := do
  let (_, last, slash) ← d.walkToLast p
  if slash && !isStep last then throw .isDirectory
  match ← d.walk p with
  | .file place | .free place => pure place
  | .dir _ => throw .isDirectory

def write (d : Disk) (p : Path) (content : Bytes) : Except Fault Disk := do
  pure (d.setFile (← d.goal p) content)

def entry (d : Disk) (p : Path) : Except Fault Entry := do
  match ← d.walk p with
  | .file place =>
    pure ⟨((d.files.lookup place).getD .empty).size, false, true, d.readOnly.contains place⟩
  | .dir place => pure ⟨0, true, false, d.readOnly.contains place⟩
  | .free _ => throw .noEntry

/-- Makes one directory, in one that exists. Slashes after its name mean nothing. -/
def makeDir (d : Disk) (p : Path) : Except Fault Disk := do
  let (place, last, _) ← d.walkToLast p
  if isStep last then throw .exists
  match ← d.walkFrom (.dir place) [last] with
  | .free place => pure { d with dirs := d.dirs ++ [place] }
  | .dir _ | .file _ => throw .exists

/-- Whether the path leads to a directory. -/
def isDir (d : Disk) (p : Path) : Bool :=
  match d.walk p with
  | .ok (.dir _) => true
  | _ => false

/-- Makes the first of the given directories; the others are those above it, nearest first,
and are made when they are missing. A directory that is there already is no failure. -/
def makeDirs (d : Disk) : List Path → Except Fault Disk
  | [] => .error .noEntry
  | p :: above =>
    if p.text = "" then .ok d
    else
      match d.makeDir p with
      | .ok made => .ok made
      | .error .noEntry => do
        let below ← makeDirs d above
        match below.makeDir p with
        | .ok made => pure made
        | .error fault => if below.isDir p then pure below else throw fault
      | .error fault => if d.isDir p then .ok d else .error fault

/-- The disk without what is below a place. -/
def clear (d : Disk) (place : Place) : Disk :=
  let isBelow (q : Place) : Bool := place.isPrefixOf q && q ≠ place
  { d with
    files := d.files.filter (!isBelow ·.1)
    dirs := d.dirs.filter (!isBelow ·) }

/-- Removes an empty directory. A step is no name that could be removed. -/
def removeDir (d : Disk) (p : Path) : Except Fault Disk := do
  let (place, last, _) ← d.walkToLast p
  if Path.isSilent last then throw .invalid
  if isStep last then throw .notEmpty
  pure { d with dirs := d.dirs.filter (· ≠ place ++ [String.ofList last]) }

/-- Removes a directory with everything below it. What is below goes first, and is gone also
when the directory itself cannot be removed; a directory that has gone by then is no failure. -/
def removeTree (d : Disk) (p : Path) : Except Fault Unit × Disk :=
  match d.walk p with
  | .ok (.dir place) =>
    let cleared := d.clear place
    match cleared.removeDir p with
    | .ok removed => (.ok (), removed)
    | .error .noEntry => (.ok (), cleared)
    | .error fault => (.error fault, cleared)
  | .ok (.file _) => (.error .notDirectory, d)
  | .ok (.free _) => (.error .noEntry, d)
  | .error fault => (.error fault, d)

/-- The name of a place directly inside a directory. -/
def nameIn (dir place : Place) : Option String :=
  if place.dropLast = dir then place.getLast? else none

/-- The names in a directory, in ascending order. -/
def list (d : Disk) (p : Path) : Except Fault (List String) := do
  match ← d.walk p with
  | .dir place =>
    pure (((d.files.map (·.1) ++ d.dirs).filterMap (nameIn place)).mergeSort
      (fun a b => decide (a ≤ b)))
  | .file _ => throw .notDirectory
  | .free _ => throw .noEntry

/-- Copies a file with its read-only mark. A file copied onto itself is emptied first. -/
def copy (d : Disk) (source target : Path) : Except Fault Disk := do
  match ← d.walk source with
  | .file place =>
    let content := (d.files.lookup place).getD .empty
    let goal ← d.goal target
    let copied := if goal = place then .empty else content
    pure ((d.setFile goal copied).setMark goal (d.readOnly.contains place))
  | .dir _ => throw .notRegular
  | .free _ => throw .noEntry

/-- A file put in place, with the directories above it. -/
def insertFile (d : Disk) (p : Path) (content : Bytes) : Disk :=
  let made := (d.makeDirs p.ancestors).toOption.getD d
  (made.write p content).toOption.getD made

/-- A directory put in place, with the directories above it. -/
def insertDir (d : Disk) (p : Path) : Disk := (d.makeDirs (p :: p.ancestors)).toOption.getD d

/-- The entry at the path gets the read-only mark. -/
def setReadOnly (d : Disk) (p : Path) : Disk :=
  match d.walk p with
  | .ok (.file place) | .ok (.dir place) => d.setMark place true
  | _ => d

/-- The files below a directory, with the paths by which they are reached through it. -/
def filesBelow (d : Disk) (p : Path) : List (Path × Bytes) :=
  match d.walk p with
  | .ok (.dir place) =>
    d.files.filterMap fun (q, content) =>
      if place.isPrefixOf q then
        some ((q.drop place.length).foldl Path.child p, content)
      else none
  | _ => []

/-- A question about the disk as an action. -/
def asking {α : Type} (action : String) (p : Path) (question : Disk → Except Fault α) :
    ExceptT StoreError (StateM Disk) α := fun d => ((question d).mapError (·.on action p), d)

/-- A change of the disk as an action; a failed one changes nothing. -/
def changing (action : String) (p : Path) (change : Disk → Except Fault Disk) :
    ExceptT StoreError (StateM Disk) Unit := fun d =>
  match change d with
  | .ok changed => (.ok (), changed)
  | .error fault => (.error (fault.on action p), d)

/-- A removal as an action. -/
def removing (p : Path) : ExceptT StoreError (StateM Disk) Unit := fun d =>
  let (result, left) := d.removeTree p
  (result.mapError (·.on "remove" p), left)

end Disk

instance : FileStore (StateM Disk) where
  workingDir := fun d => (⟨"/" ++ "/".intercalate d.here⟩, d)
  read p := Disk.asking "read" p (·.read p)
  write p content := Disk.changing "write" p (·.write p content)
  entry p := Disk.asking "get metadata for" p (·.entry p)
  hasEntry p := fun d => ((d.entry p).toBool, d)
  allows p access := fun d =>
    (match d.entry p, access with
      | .ok _, .read => true
      | .ok e, .write => !e.readOnly
      | .error _, _ => false, d)
  createDir p above :=
    Disk.changing "create directory" p fun d =>
      if above then d.makeDirs (p :: p.ancestors) else d.makeDir p
  removeTree p := Disk.removing p
  list p := Disk.asking "read directory" p (·.list p)
  copy source target := Disk.changing "copy" source (·.copy source target)

end Pagefold
