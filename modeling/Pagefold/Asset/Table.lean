import Pagefold.Digest.Content
import Pagefold.Link
import Pagefold.Store.Basic

/-!
# The table of assets

Every file that a stylesheet or the markup refers to is renamed once in a run. A file is named by
the shortest prefix of its digest that no other file of its kind has. Files with one extension
share a set of names; a file that cannot be read leaves the table unchanged.
-/
namespace Pagefold.Asset

/-- The prefixes of a digest in order of length. Only the prefix of an empty digest is empty. -/
def prefixes (digest : String) : List String :=
  let n := digest.length
  ((List.range (n - 1)).map (· + 1) ++ [n]).map fun k => String.ofList (digest.toList.take k)

/-- The digest followed by 1, 2, …, up to one more than the number of names in use. -/
def numbered (digest : String) (used : List String) : List String :=
  (List.range (used.length + 1)).map fun k => digest ++ toString (k + 1)

/-- The shortest prefix of a digest that is not in use, or else the digest with the least
number that makes a new name. -/
def shortestFree (digest : String) (used : List String) : String :=
  ((prefixes digest ++ numbered digest used).find? (!used.contains ·)).getD digest

/-- A renamed file: its new name, the digest of its content, and the paths it is copied
from and to. -/
structure Record where
  name : String
  hash : String
  source : Path
  destination : Path

/-- The extension under which a file's name is chosen: in lower case, empty without one. -/
def extension (source : Path) : String := Text.lower (source.extension?.getD "")

/-- The renamed files in the order of their first use, the names taken per extension, and
the files whose copy has been claimed. -/
structure Table where
  records : List Record := []
  taken : List (String × String) := []
  claimed : List Path := []

namespace Table

/-- The path that an asset reference names: what comes before the query. -/
def sourceOf (url : String) : Path := ⟨Link.withoutQuery url⟩

/-- The record of a path. -/
def find? (t : Table) (source : Path) : Option Record := t.records.find? (·.source == source)

/-- The record of a reference, without reading anything. -/
def get? (t : Table) (url : String) : Option Record := t.find? (sourceOf url)

/-- The names taken by files with the extension. -/
def used (t : Table) (ext : String) : List String :=
  t.taken.filterMap fun entry => if entry.1 = ext then some entry.2 else none

/-- The table with a record for a file of the given content. -/
def add (t : Table) (source dir : Path) (content : Bytes) : Record × Table :=
  let hash := Digest.ofContent content
  let ext := extension source
  let short := shortestFree hash (t.used ext)
  let name := if ext = "" then short else short ++ "." ++ ext
  let record : Record := ⟨name, hash, source, dir.child name⟩
  (record, { t with
    records := t.records ++ [record]
    taken := t.taken ++ [(ext, short)] })

/-- The record of a reference. A file seen for the first time is read, and will be copied
into `dir`; the directory of a file already known stays what it was. -/
def associate {m : Type → Type} [Monad m] [FileStore m] (t : Table) (url : String) (dir : Path) :
    ExceptT StoreError m (Record × Table) := do
  let source := sourceOf url
  match t.find? source with
  | some record => pure (record, t)
  | none =>
    let content ← FileStore.read source
    pure (t.add source dir content)

/-- Claims the copy of a file; only the first claim of a path is granted. -/
def claim (t : Table) (r : Record) : Bool × Table :=
  if t.claimed.contains r.source then (false, t)
  else (true, { t with claimed := t.claimed ++ [r.source] })

/-- The records in the order of their destinations, then of their sources. -/
def sorted (t : Table) : List Record :=
  t.records.mergeSort fun a b =>
    if a.destination == b.destination then a.source.le b.source
    else a.destination.le b.destination

/-- The number of renamed files. -/
def size (t : Table) : Nat := t.records.length

end Table

end Pagefold.Asset
