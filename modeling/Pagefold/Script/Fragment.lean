import Pagefold.Script.Lexeme

/-!
# Fragments of written scripts

A script is written as a list of fragments without blanks. Where two fragments would be read as
one, a blank stands between them.
-/
namespace Pagefold.Script

/-- A fragment of a written script. -/
inductive Fragment where
  /-- A name, a keyword or a number. -/
  | word (text : String)
  | mark (text : String)
  /-- An operator between two values, or at one. -/
  | sign (text : String)
  /-- A regular expression, and what is written after its last slash. -/
  | regular (source flags : String)
  /-- The point in front of a property. -/
  | point
  deriving DecidableEq, Repr

namespace Fragment

/-- The characters of a fragment. -/
def chars : Fragment → List Char
  | .word text => text.toList
  | .mark text => text.toList
  | .sign text => text.toList
  | .regular source flags => '/' :: source.toList ++ '/' :: flags.toList
  | .point => ['.']

/-- Whether a fragment is a whole number in decimal digits, so that a point after it would be its
own. -/
def isPlainNumber : Fragment → Bool
  | .word text => text.toList.all Char.isDigit
  | _ => false

/-- Whether a name after a fragment would be read as a part of it. -/
def joinsName : Fragment → Bool
  | .regular _ _ => true
  | fragment => fragment.chars.getLast?.any Lexeme.isNameChar

/-- Whether two operators would be read as another one. -/
def joinSigns (before after : String) : Bool :=
  (before == "+" && (after == "+" || after == "++")) ||
    (before == "-" && (after == "-" || after == "--")) ||
    (before == "--" && after == ">")

/-- Whether a blank stands between two fragments. `earlier` is the character in front of both. -/
def needsBlank (earlier : Option Char) (before after : Fragment) : Bool :=
  match after with
  | .word _ => before.joinsName
  | .sign text =>
    match before with
    | .sign previous =>
      joinSigns previous text || (previous == "!" && text == "--" && earlier == some '<')
    | _ => false
  | .regular source _ =>
    before.chars.getLast? == some '/' ||
      (before.chars.getLast? == some '<' &&
        "script".toList.isPrefixOf (source.toList.map Char.toLower))
  | .point => before.isPlainNumber
  | .mark _ => false

/-- The text of some fragments after a character. -/
def assembleAfter (earlier : Option Char) : List Fragment → List Char
  | [] => []
  | [p] => p.chars
  | p :: q :: rest =>
    let last := p.chars.getLast?.or earlier
    if needsBlank earlier p q then p.chars ++ ' ' :: assembleAfter last (q :: rest)
    else p.chars ++ assembleAfter last (q :: rest)

/-- The text of some fragments. -/
def assemble (fragments : List Fragment) : List Char := assembleAfter none fragments

/-- No fragments are no text. -/
@[simp] theorem assemble_nil : assemble [] = [] := rfl

/-- A fragment alone is its own text. -/
@[simp] theorem assemble_singleton (p : Fragment) : assemble [p] = p.chars := rfl

/-! ## Groups -/

/-- Fragments in parentheses. -/
def inParentheses (fragments : List Fragment) : List Fragment :=
  .mark "(" :: fragments ++ [.mark ")"]

/-- Fragments in brackets. -/
def inBrackets (fragments : List Fragment) : List Fragment :=
  .mark "[" :: fragments ++ [.mark "]"]

/-- Fragments in braces. -/
def inBraces (fragments : List Fragment) : List Fragment :=
  .mark "\x7b" :: fragments ++ [.mark "\x7d"]

/-- Fragments in parentheses, if they are needed. -/
def wrapped (needed : Bool) (fragments : List Fragment) : List Fragment :=
  if needed then inParentheses fragments else fragments

/-- Lists of fragments with commas between them. -/
def commas : List (List Fragment) → List Fragment
  | [] => []
  | [fragments] => fragments
  | fragments :: rest => fragments ++ .mark "," :: commas rest

end Fragment

end Pagefold.Script
