import Pagefold.Html.Builder

/-!
# Misnested formatting

When the end tag of a formatting element comes while a block inside it is still open, the
block is moved out of the element and the formatting is repeated inside the block. This is
the adoption procedure of the HTML standard, with its limits of eight and of three rounds.
-/
namespace Pagefold.Html.Builder

/-- Where the new formatting element is listed: in place of the old one, or directly after
the entry of another element. -/
inductive Bookmark where
  | replacing
  | after (id : Nat)

/-- The state of the inner rounds: the node moved last, the number of rounds, the bookmark. -/
structure Adoption where
  builder : Builder
  moved : Nat
  rounds : Nat
  bookmark : Bookmark

/-- The tag of a listed formatting element. -/
def listedTag? (b : Builder) (id : Nat) : Option Tag :=
  b.formatting.findSome? fun
    | .marker => none
    | .element other tag => if other = id then some tag else none

/-- The entry of one element becomes the entry of another. -/
def relist (b : Builder) (old new : Nat) (tag : Tag) : Builder :=
  { b with formatting := b.formatting.map fun f => if f.isFor old then .element new tag else f }

/-- One inner round for an element between the block and the formatting element. After three
rounds, and if the element is not listed, it is only closed; else a copy takes its place and
adopts what was moved last. -/
def adoptRound (block : Nat) (a : Adoption) (id : Nat) : Adoption :=
  let b := a.builder
  let rounds := a.rounds + 1
  if rounds > 3 then { a with builder := (b.unlist id).unstack id, rounds }
  else
    match b.listedTag? id with
    | none => { a with builder := b.unstack id, rounds }
    | some tag =>
      let (copy, b) := b.create .html { tag with selfClosing := false }
      let b := { b with opened := b.opened.map fun o => if o = id then copy else o }
      let b := b.relist id copy tag
      let bookmark := if a.moved = block then .after copy else a.bookmark
      { builder := { b with sketch := (b.sketch.detach a.moved).append copy a.moved },
        moved := copy, rounds, bookmark }

/-- The new formatting element is listed. -/
def listAt (b : Builder) (old new : Nat) (tag : Tag) : Bookmark → Builder
  | .replacing => b.relist old new tag
  | .after id =>
    let listed := b.formatting.flatMap fun f => if f.isFor id then [.element new tag, f] else [f]
    { b with formatting := listed }.unlist old

/-- One round for the formatting element: the block goes to the element around it, and a
copy of the formatting element takes over what the block holds. -/
def adoptBlock (b : Builder) (id : Nat) (tag : Tag) (block around : Nat) : Builder :=
  let between := ((b.opened.dropWhile (· ≠ block)).drop 1).takeWhile (· ≠ id)
  let a := between.foldl (adoptRound block) ⟨b, block, 0, .replacing⟩
  let b := { a.builder with sketch := a.builder.sketch.detach a.moved }
  let b := b.place a.moved around
  let (copy, b) := b.create .html { tag with selfClosing := false }
  let b := { b with sketch := (b.sketch.moveChildren block copy).append block copy }
  let b := (b.listAt id copy tag a.bookmark).unstack id
  { b with opened := b.opened.flatMap fun o => if o = block then [copy, o] else [o] }

/-- The rounds of the procedure. -/
def adoptFrom : Nat → Builder → String → Builder
  | 0, b, _ => b
  | rounds + 1, b, name =>
    match b.recent.find? (·.2.name = name) with
    | none => b.closeAny name
    | some (id, tag) =>
      if !b.opened.contains id then b.unlist id
      else if !b.inScope b.endsScope (· == id) then b
      else
        let inner := b.opened.takeWhile (· ≠ id)
        let above := (b.opened.dropWhile (· ≠ id)).drop 1
        match (inner.filter (b.isOneOf special)).getLast? with
        | none => ({ b with opened := above }).unlist id
        | some block =>
          adoptFrom rounds (b.adoptBlock id tag block (above.headD Sketch.root)) name

/-- The end tag of a formatting element. -/
def adopt (b : Builder) (name : String) : Builder :=
  let listed := b.formatting.any (·.isFor b.current)
  if b.isNamed name b.current && !listed then b.pop else adoptFrom 8 b name

end Pagefold.Html.Builder
