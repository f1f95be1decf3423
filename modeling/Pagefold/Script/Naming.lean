import Pagefold.Script.Lexeme
import Pagefold.Script.Scope

/-!
# Short names

The names that are declared inside of a script are replaced by short ones. Each variable has a
slot; a region of the script takes the lowest slots that are not alive in it, so that names which
are never needed together share a slot. A slot is alive from where its variable is declared to
where it is used. Slots get names in their order, and the slots that are used most get the shorter
names where the lengths differ. No slot gets a name that the script uses without declaring it or
that it declares for everyone, nor a word with a meaning of its own.
-/
namespace Pagefold.Script

/-! ## Regions -/

/-- A region of a script: the region around it, its variables, which are numbered one after the
other, and whether a text may be evaluated in it, which could use every name. -/
structure Region where
  parent : Nat
  first : Nat
  count : Nat
  evaluates : Bool
  deriving Repr, Inhabited

/-- The mention of a variable in a region; a declaration is no use. -/
structure Mention where
  symbol : Nat
  region : Nat
  isUse : Bool
  deriving Repr

/-- The regions of a script from its start on, and what is mentioned in them. -/
structure Survey where
  regions : Array Region := #[]
  mentions : Array Mention := #[]
  deriving Inhabited

namespace Survey

/-- How many variables the regions have. -/
def size (s : Survey) : Nat := (s.regions.back?.map fun r => r.first + r.count).getD 0

/-- A survey with a further mention. -/
def mention (s : Survey) (region : Nat) (isUse : Bool) (n : Name) : Survey :=
  match n.symbol with
  | some symbol => { s with mentions := s.mentions.push ⟨symbol, region, isUse⟩ }
  | none => s

/-- A survey with what a node mentions itself. -/
def own (s : Survey) (region : Nat) (kind : Kind) : Survey :=
  match kind with
  | .name n => s.mention region true n
  | .binding n => s.mention region false n
  | _ => s

mutual

/-- A survey that goes on with a piece. `outside` says that the name of the piece itself is
declared around it. -/
def tree (s : Survey) (region : Nat) (outside : Bool) : Tree → Survey
  | .node kind parts =>
    let s := s.own region kind
    let inner := kind == .declareFunction || kind == .declareClass
    match Scope.declared? (if outside then Scope.withoutName kind else kind) parts with
    | none => trees s region inner parts
    | some declared =>
      let found : Region :=
        { parent := region, first := s.size, count := declared.eraseDups.length,
          evaluates := Scope.evaluates (.node kind parts) }
      trees { s with regions := s.regions.push found } s.regions.size inner parts

/-- A survey that goes on with some pieces. -/
def trees (s : Survey) (region : Nat) (outside : Bool) : List Tree → Survey
  | [] => s
  | t :: ts => trees (tree s region outside t) region outside ts

end

/-- The region and those around it, up to one of them. The bound is the number of regions. -/
def upTo (s : Survey) (outer : Nat) : Nat → Nat → List Nat
  | 0, _ => []
  | n + 1, region =>
    if region = outer then [outer]
    else region :: upTo s outer n ((s.regions[region]?.map (·.parent)).getD outer)

end Survey

/-! ## Slots -/

/-- The slots of a script: the one of each variable, and the regions in which each slot is alive,
as the digits of a number in base two. -/
structure Slots where
  taken : Array Nat
  alive : Array Nat := #[]

namespace Slots

/-- The lowest slots that are not in use. -/
def lowest (inUse : List Nat) (count : Nat) : List Nat :=
  ((List.range (count + inUse.length)).filter (!inUse.contains ·)).take count

/-- No more slots are taken than are asked for. -/
theorem length_lowest_le (inUse : List Nat) (count : Nat) :
    (lowest inUse count).length ≤ count :=
  List.length_take_le _ _

/-- No slot in use is taken. -/
theorem not_mem_of_mem_lowest {inUse : List Nat} {count slot : Nat}
    (taken : slot ∈ lowest inUse count) : slot ∉ inUse := by
  have kept := List.mem_of_mem_take taken
  simpa using (List.mem_filter.1 kept).2

/-- The slots that are alive in a region. -/
def inUse (slots : Slots) (region : Nat) : List Nat :=
  (List.range slots.alive.size).filter fun slot => (slots.alive.getD slot 0).testBit region

/-- The regions of a list as the digits of a number. -/
def digits (regions : List Nat) : Nat := regions.foldl (fun n region => n ||| 1 <<< region) 0

/-- A slot for a variable that is alive in some regions. -/
def take (slots : Slots) (symbol slot alive : Nat) : Slots :=
  { taken := slots.taken.setIfInBounds symbol slot
    alive :=
      if slot < slots.alive.size then slots.alive.modify slot (· ||| alive)
      else slots.alive.push alive }

/-- The slots after those for the variables of a region. -/
def ofRegion (alive : Array Nat) (slots : Slots) (id : Nat) (r : Region) : Slots :=
  if r.evaluates then slots
  else
    ((List.range' r.first r.count).zip (lowest (slots.inUse id) r.count)).foldl
      (fun slots (symbol, slot) => slots.take symbol slot (alive.getD symbol 0)) slots

/-- The regions in which each variable is alive. -/
def lives (s : Survey) : Array Nat :=
  let homes := (s.regions.toList.zipIdx.flatMap fun (r, id) => List.replicate r.count id).toArray
  let start := homes.map fun home => digits [home]
  s.mentions.foldl (fun found m =>
    found.modify m.symbol
      (· ||| digits (s.upTo (homes.getD m.symbol 0) s.regions.size m.region))) start

/-- The slots of all variables, region by region. -/
def ofSurvey (s : Survey) : Slots :=
  let alive := lives s
  s.regions.toList.zipIdx.foldl (fun slots (r, id) => slots.ofRegion alive id r)
    { taken := Array.replicate s.size 0 }

end Slots

/-! ## The names -/

namespace ShortName

/-- The characters of short names, the preferred ones first. Digits and the dollar sign come
last; digits do not start a name. -/
def characters : List Char :=
  "etnriaoscludfpmhg_vybxSCwTEDOkAjMNPFILRzBVHUWGKqJYXZQ$1024368579".toList

/-- How many of the characters may start a name. -/
def starts : Nat := 54

/-- The characters after the first one of a short name. The bound is the number. -/
def furtherFrom : Nat → Nat → List Char
  | 0, _ => []
  | _, 0 => []
  | bound + 1, n + 1 =>
    let count := characters.length
    characters.getD (n % count) 'e' :: furtherFrom bound (n / count)

/-- The short name of a number. -/
def ofNat (n : Nat) : String :=
  String.ofList (characters.getD (n % starts) 'e' :: furtherFrom n (n / starts))

/-- Names with a meaning of their own, which are never replaced. -/
def special : List String := ["arguments", "exports"]

/-- Words that short names never are. -/
def excluded : List String := reserved ++ special ++ ["let", "static", "yield"]

/-- The first short names that are not taken. -/
def list (taken : List String) (count : Nat) : List String :=
  let names := (List.range (count + taken.length + excluded.length)).map ofNat
  (names.filter fun name => !taken.contains name && !excluded.contains name).take count

/-- Slots with their names: names of one length at a time, for the slots that come first,
in the order of the slots. -/
def pairing : List (List String) → List Nat → List (Nat × String)
  | [], _ => []
  | names :: rest, slots =>
    ((slots.take names.length).mergeSort).zip names ++ pairing rest (slots.drop names.length)

end ShortName

namespace Naming

mutual

/-- The names in a piece that no declaration covers. -/
def free : Tree → List String
  | .node kind parts =>
    match kind with
    | .name ⟨text, none⟩ => text :: freeAll parts
    | _ => freeAll parts

/-- The names in some pieces that no declaration covers. -/
def freeAll : List Tree → List String
  | [] => []
  | t :: ts => free t ++ freeAll ts

end

/-- A name in place of another one, if there is one for its variable. -/
def ofName (names : Array (Option String)) (n : Name) : Name :=
  match n.symbol with
  | some symbol =>
    if ShortName.special.contains n.text then n
    else { n with text := (names.getD symbol none).getD n.text }
  | none => n

/-- A node with other names. -/
def ofKind (names : Array (Option String)) : Kind → Kind
  | .name n => .name (ofName names n)
  | .binding n => .binding (ofName names n)
  | .function h => .function { h with name := h.name.map (ofName names) }
  | .classOf name => .classOf (name.map (ofName names))
  | kind => kind

mutual

/-- A piece with other names. -/
def renamed (names : Array (Option String)) : Tree → Tree
  | .node kind parts => .node (ofKind names kind) (renamedAll names parts)

/-- Some pieces with other names. -/
def renamedAll (names : Array (Option String)) : List Tree → List Tree
  | [] => []
  | t :: ts => renamed names t :: renamedAll names ts

end

/-- The name of each slot: those that are used most come first. A slot without variables that get
a name stands where the first slot does. -/
def ofSlots (taken : List String) (uses : Array (Option Nat)) : List (Nat × String) :=
  let count := uses.size
  let often (slot : Nat) : Nat := (uses.getD slot none).getD 0
  let byUse := (List.range count).mergeSort fun a b => often b ≤ often a
  let keys := byUse.map fun slot => if (uses.getD slot none).isSome then slot else 0
  let names := ShortName.list taken count
  ShortName.pairing (names.splitBy fun a b => a.length == b.length) keys

/-- A script with short names. The names that it declares for everyone stay. -/
def script (t : Tree) : Tree :=
  let (t, _) := Scope.resolve [] false 0 t
  let s := Survey.tree {} 0 false t
  let slots := Slots.ofSurvey s
  let kept := s.regions.toList.zipIdx.flatMap fun (r, id) =>
    List.replicate r.count (id == 0 || r.evaluates)
  let start := (kept.zip slots.taken.toList).foldl (fun (found : Array (Option Nat)) (kept, slot) =>
    if kept then found else found.setIfInBounds slot (some 0))
    (Array.replicate slots.alive.size none)
  let uses := s.mentions.foldl (fun found m =>
    if m.isUse then found.modify (slots.taken.getD m.symbol 0) (·.map (· + 1)) else found) start
  let outer := Scope.declared? t.kind t.parts
  let names := (ofSlots (free t ++ outer.getD []) uses).foldl
    (fun found (slot, name) =>
      if (found.getD slot none).isSome then found else found.setIfInBounds slot (some name))
    (Array.replicate slots.alive.size (none : Option String))
  let ofSymbol := (kept.zip slots.taken.toList).map fun (kept, slot) =>
    if kept then none else names.getD slot none
  renamed ofSymbol.toArray t

end Naming

end Pagefold.Script
