import Std.Data.HashMap
import Std.Data.HashSet

/-!
# Class tokens and their table

A token is the name that stands for a class name in the written documents. Tokens are
the numbers 0, 1, 2, … written in base 64 over a fixed alphabet, most significant
symbol first; a token that could not start a CSS identifier is passed over.

One table serves a whole run, so that a class has one token wherever it is seen. The
table also records in which kind of source each name was seen.
-/
namespace Pagefold.Class

/-- The 64 symbols in the order of their values. -/
def alphabet : List Char :=
  "-_0123456789abcdefghijklmnopqrstuvwxyzABCDEFGHIJKLMNOPQRSTUVWXYZ".toList

/-- The symbol of the value `d`. -/
def symbol (d : Nat) : Char := alphabet.getD d '-'

/-- The base 64 digits of a number, most significant first. Zero has the one digit 0. -/
def digits (n : Nat) : List Nat :=
  if n < 64 then [n] else digits (n / 64) ++ [n % 64]
termination_by n

/-- The written form of an index. There is no sign and no padding. -/
def encode (index : UInt64) : String :=
  String.ofList ((digits index.toNat).map symbol)

/-- The digits 0 (a hyphen) and 2 to 11 (`0` to `9`) do not start an identifier. -/
def startsIdentifier (digit : Nat) : Bool := digit == 1 || 12 ≤ digit

/-- The least number from `n` on whose leading digit starts an identifier. A number whose
leading digit does not is followed, among the numbers of its length, by the one that
starts with the next digit that does. -/
def firstUsable (n : Nat) : Nat :=
  match digits n with
  | [] => n
  | lead :: rest =>
    if startsIdentifier lead then n
    else if lead = 0 then 1
    else 12 * Nat.pow 64 rest.length

/-- The token made from a counter, and the counter that comes after it. -/
def generate (counter : UInt64) : String × UInt64 :=
  let index := UInt64.ofNat (firstUsable counter.toNat)
  (encode index, index + 1)

/-- Where a name is seen. Names of keyframes and references to them share one kind. -/
inductive Usage where
  | html
  | css
  | js
  | keyframe
  deriving DecidableEq, Repr

/-- The names seen in each kind of source. -/
structure Uses where
  html : Std.HashSet String := {}
  css : Std.HashSet String := {}
  js : Std.HashSet String := {}
  keyframe : Std.HashSet String := {}

namespace Uses

/-- The names seen in one kind of source. -/
def of (u : Uses) : Usage → Std.HashSet String
  | .html => u.html
  | .css => u.css
  | .js => u.js
  | .keyframe => u.keyframe

/-- The record after `name` was seen in a source of the kind `kind`. -/
def add (u : Uses) (name : String) : Usage → Uses
  | .html => { u with html := u.html.insert name }
  | .css => { u with css := u.css.insert name }
  | .js => { u with js := u.js.insert name }
  | .keyframe => { u with keyframe := u.keyframe.insert name }

end Uses

/-- Names with their tokens, the counter of the next token, and the uses of the names. -/
structure Table where
  tokens : Std.HashMap String String := {}
  counter : UInt64 := 0
  uses : Uses := {}

/-- A class reference: whether it is written with a leading dot, and the name itself. -/
def undot (name : String) : Bool × String :=
  match name.toList with
  | '.' :: bare => (true, String.ofList bare)
  | _ => (false, name)

namespace Table

/-- The token of a bare name, made on first sight. -/
def assign (t : Table) (bare : String) : String × Table :=
  match t.tokens[bare]? with
  | some token => (token, t)
  | none =>
    let (token, next) := generate t.counter
    (token, { t with tokens := t.tokens.insert bare token, counter := next })

/-- The token of a name seen in a source of the kind `kind`. One leading dot is not part
of the name: it is taken off before the look-up and put back before the token. -/
def associate (t : Table) (name : String) (kind : Usage) : String × Table :=
  let (dotted, bare) := undot name
  let (token, assigned) := t.assign bare
  (if dotted then "." ++ token else token, { assigned with uses := assigned.uses.add bare kind })

/-- The token of a known name, without its dot. The use is not recorded. -/
def substitute? (t : Table) (name : String) : Option String := t.tokens[(undot name).2]?

/-- The names of a set in ascending order. -/
def ascending (names : Std.HashSet String) : List String :=
  names.toList.mergeSort (fun a b => decide (a ≤ b))

/-- The names seen in sources of one kind, in ascending order. -/
def usage (t : Table) (kind : Usage) : List String := ascending (t.uses.of kind)

/-- The names seen in stylesheets but neither in markup nor in scripts, in ascending order. -/
def orphans (t : Table) : List String :=
  (t.usage .css).filter fun name => !t.uses.html.contains name && !t.uses.js.contains name

/-- The number of names that have a token. -/
def size (t : Table) : Nat := t.tokens.size

end Table

end Pagefold.Class
