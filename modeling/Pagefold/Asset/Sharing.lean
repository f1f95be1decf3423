import Pagefold.Asset.Table

/-!
# Requests that share the table

Many requests for records can be under way at once. A path has a cell from the first time that it
is asked for, and cells are never removed. A request that finds its cell vacant fills it: it reads
the file, reserves a prefix of the digest, and puts the record into the cell. Requests that find
the cell busy wait for it. If the file cannot be read, the request is answered with the failure and
the cell is vacant again, so that the next request waiting for it tries.

Between any two moves of a request others may move, also while it waits for its file. Only what
happens under a lock is one move: finding or making the cell of a path, and choosing a free prefix
together with taking it.
-/
namespace Pagefold.Asset

/-- The cell of a path: it holds nothing, or it is being filled by the request with this number,
or it holds the record of the path. -/
inductive Cell
  | vacant
  | busy (owner : Nat)
  | filled (record : Record)

/-- How far a request has come, with the number of its cell once it has one. -/
inductive Phase
  | called
  | waiting (cell : Nat)
  | reading (cell : Nat)
  | hashing (cell : Nat) (content : Bytes)
  | publishing (cell : Nat) (record : Record)
  | answered (answer : Except StoreError Record)

/-- A request for the record of a reference, whose file is to be copied into `dir`. -/
structure Request where
  url : String
  dir : Path
  phase : Phase := .called

/-- A move of the request with this number: what it does by itself, or the answer of the store to
its reading. -/
inductive Move
  | advance (request : Nat)
  | read (request : Nat) (answer : Except StoreError Bytes)

/-- A table and the requests that share it. -/
structure Sharing where
  requests : List Request
  cells : List (Path × Cell) := []
  taken : List (String × String) := []

/-- The record in a cell. -/
def Cell.record? : Cell → Option Record
  | .filled record => some record
  | _ => none

namespace Sharing

/-- New requests on a new table. -/
def start (calls : List (String × Path)) : Sharing :=
  { requests := calls.map fun call => { url := call.1, dir := call.2 } }

/-- The records that any request can see. -/
def published (s : Sharing) : List Record := s.cells.filterMap (·.2.record?)

/-- The table as a request sees it that looks up a record or reserves a prefix. -/
def table (s : Sharing) : Table := { records := s.published, taken := s.taken }

/-- The request `i` comes to another phase. -/
def goes (s : Sharing) (i : Nat) (phase : Phase) : Sharing :=
  { s with requests := s.requests.modify i fun r => { r with phase } }

/-- The cell `k` gets other contents. -/
def puts (s : Sharing) (k : Nat) (cell : Cell) : Sharing :=
  { s with cells := s.cells.modify k fun entry => (entry.1, cell) }

/-- The number of the cell of a path, after making the cell if there is none. -/
def cellOf (s : Sharing) (source : Path) : Nat × Sharing :=
  match s.cells.findIdx? (·.1 == source) with
  | some k => (k, s)
  | none => (s.cells.length, { s with cells := s.cells ++ [(source, .vacant)] })

/-- Takes the shortest free prefix for a file, and makes its record. -/
def reserve (s : Sharing) (source dir : Path) (content : Bytes) : Record × Sharing :=
  let (record, next) := s.table.add source dir content
  (record, { s with taken := next.taken })

/-- What a request does by itself. It can do nothing while it is suspended, be it for its file or
for the request that fills its cell, nor after it has been answered. -/
def advance (s : Sharing) (i : Nat) (r : Request) : Option Sharing :=
  match r.phase with
  | .called =>
    let (k, next) := s.cellOf (Table.sourceOf r.url)
    some (next.goes i (.waiting k))
  | .waiting k =>
    match s.cells[k]? with
    | some (_, .vacant) => some ((s.puts k (.busy i)).goes i (.reading k))
    | some (_, .filled record) => some (s.goes i (.answered (.ok record)))
    | _ => none
  | .hashing k content =>
    let (record, next) := s.reserve (Table.sourceOf r.url) r.dir content
    some (next.goes i (.publishing k record))
  | .publishing k record => some ((s.puts k (.filled record)).goes i (.answered (.ok record)))
  | .reading _ | .answered _ => none

/-- One move; none if the request cannot make it. -/
def step (s : Sharing) : Move → Option Sharing
  | .advance i => do s.advance i (← s.requests[i]?)
  | .read i answer => do
    let r ← s.requests[i]?
    match r.phase, answer with
    | .reading k, .ok content => some (s.goes i (.hashing k content))
    | .reading k, .error failure =>
      some ((s.puts k .vacant).goes i (.answered (.error failure)))
    | _, _ => none

/-- Moves in a row. -/
def run (s : Sharing) (moves : List Move) : Option Sharing := moves.foldlM step s

/-- The files read by a move of one of the calls, and what was read. -/
def readBy (calls : List (String × Path)) : Move → Option (Path × Bytes)
  | .read i (.ok content) => calls[i]?.map fun call => (Table.sourceOf call.1, content)
  | _ => none

/-- The files that were read successfully in moves of the calls, in this order. -/
def reads (calls : List (String × Path)) (moves : List Move) : List (Path × Bytes) :=
  moves.filterMap (readBy calls)

end Sharing

end Pagefold.Asset
