import Pagefold.Class.Table
import Pagefold.Text.Cut
import Pagefold.Text.WordChar

/-!
# Class constants in scripts

A script names a class in a declaration such as `const CSS_ACTIVE = '.active'`. The keyword,
the name and the class may be in any letter case. The declaration is written anew with the token
of the class; all else in a script stays as it is.
-/
namespace Pagefold.Script

/-- The declaration of a class constant. The class has its leading dot. -/
structure ClassConstant where
  keyword : String
  name : String
  cls : String
  deriving DecidableEq, Repr

namespace ClassConstant

/-- Whether two characters are the same letter. The long s and the Kelvin sign are forms of
the letters s and k. -/
def sameLetter (small c : Char) : Bool :=
  c.toLower == small || (small == 's' && c == '\u017f') || (small == 'k' && c == '\u212a')

/-- What follows a word in small letters, whatever the case in which it is written. -/
def afterWord? : List Char → List Char → Option (List Char)
  | [], s => some s
  | _ :: _, [] => none
  | a :: word, c :: s => if sameLetter a c then afterWord? word s else none

/-- A letter, in any form, or a digit. -/
def isLetterOrDigit (c : Char) : Bool := c.isAlphanum || c == '\u017f' || c == '\u212a'

/-- A character of a constant's name. -/
def isNameChar (c : Char) : Bool := isLetterOrDigit c || c == '_' || c == '$'

/-- A character of a class. -/
def isClassChar (c : Char) : Bool := isLetterOrDigit c || c == '_' || c == '-'

/-- The keywords that declare. -/
def keywords : List (List Char) := ["var".toList, "let".toList, "const".toList]

/-- The keyword at the start of a text, as it is written, and what follows. -/
def keyword? (s : List Char) : Option (List Char × List Char) :=
  (keywords.findSome? fun word => afterWord? word s).map fun rest =>
    (s.take (s.length - rest.length), rest)

/-- The quoted class at the start of a text and what follows. Both kinds of quotes are taken
at either end. -/
def quotedClass? (s : List Char) : Option (List Char × List Char) :=
  match s with
  | q :: '.' :: r =>
    if q = '\'' ∨ q = '"' then
      match r.takeWhile isClassChar, r.dropWhile isClassChar with
      | cls@(_ :: _), q' :: rest =>
        if q' = '\'' ∨ q' = '"' then some ('.' :: cls, rest) else none
      | _, _ => none
    else none
  | _ => none

/-- The declaration at the start of a text, and what follows it. -/
def at? (s : List Char) : Option (ClassConstant × List Char) := do
  let (keyword, r) ← keyword? s
  if !(r.head?.any Text.isBlank) then none
  let named := r.dropWhile Text.isBlank
  let body ← afterWord? "css_".toList named
  if !(body.head?.any isNameChar) then none
  let rest := body.dropWhile isNameChar
  let name := named.take (named.length - rest.length)
  match rest.dropWhile Text.isBlank with
  | '=' :: r => do
    let (cls, rest) ← quotedClass? (r.dropWhile Text.isBlank)
    pure (⟨String.ofList keyword, String.ofList name, String.ofList cls⟩, rest)
  | _ => none

/-- The declaration as it is written with the dotted token of its class. -/
def written (d : ClassConstant) (token : String) : String :=
  d.keyword ++ " " ++ d.name ++ " = '" ++ token ++ "'"

end ClassConstant

/-- A part of a script: a character to copy, or the declaration of a class constant. -/
inductive Piece where
  | literal (c : Char)
  | constant (d : ClassConstant)
  deriving DecidableEq, Repr

namespace Piece

/-- The parts of a script; `inWord` tells that the character before is one of a word, and
`skip` characters still belong to the declaration before. -/
def scanFrom (inWord : Bool) : Nat → List Char → List Piece
  | _, [] => []
  | skip + 1, c :: r => scanFrom (Text.isWordChar c) skip r
  | 0, c :: r =>
    match if inWord then none else ClassConstant.at? (c :: r) with
    | some (d, rest) =>
      .constant d :: scanFrom (Text.isWordChar c) (r.length - rest.length) r
    | none => .literal c :: scanFrom (Text.isWordChar c) 0 r

/-- The parts of a script: its leftmost declarations and the characters around them. -/
def scan (s : List Char) : List Piece := scanFrom false 0 s

/-- The parts of a script, written with the tokens of their classes. -/
def renameAll {n : Type → Type} [Monad n] (token : String → n String) :
    List Piece → n (List Char)
  | [] => pure []
  | .literal c :: rest => return c :: (← renameAll token rest)
  | .constant d :: rest => do
    let renamed ← token d.cls
    return (d.written renamed).toList ++ (← renameAll token rest)

end Piece

/-- A script with the classes of its class constants renamed. -/
def renameWith {n : Type → Type} [Monad n] (token : String → n String) (source : String) :
    n String :=
  return String.ofList (← Piece.renameAll token (Piece.scan source.toList))

/-- A script with its class constants renamed by a table. -/
def renameConstants (source : String) : StateM Class.Table String :=
  renameWith (fun name => modifyGet (·.associate name .js)) source

/-- The class constants that a script declares, in order. -/
def constants (source : String) : List ClassConstant :=
  (Piece.scan source.toList).filterMap fun
    | .literal _ => none
    | .constant d => some d

/-- A character of an identifier. -/
def isIdentifierChar (c : Char) : Bool := c.isAlphanum || c == '_' || c == '$'

/-- The number of times that a name stands in a text as a whole identifier. The text is
searched from the left, and `skip` characters still belong to the occurrence before. -/
def countFrom (name : List Char) (inside : Bool) : Nat → List Char → Nat
  | _, [] => 0
  | skip + 1, c :: r => countFrom name (isIdentifierChar c) skip r
  | 0, c :: r =>
    match Text.after? name (c :: r) with
    | some rest =>
      (if !inside && !(rest.head?.any isIdentifierChar) then 1 else 0) +
        countFrom name (isIdentifierChar c) (name.length - 1) r
    | none => countFrom name (isIdentifierChar c) 0 r

/-- The number of times that a name stands in a text as a whole identifier. -/
def count (name : String) (s : List Char) : Nat := countFrom name.toList false 0 s

/-- The names of the class constants that are declared and not used, ascending and each once. -/
def unusedConstants (source : String) : List String :=
  let s := source.toList
  let names := (constants source).map (·.name)
  ((names.filter fun name => count name s ≤ 1).mergeSort fun a b => decide (a ≤ b)).eraseDups

end Pagefold.Script
