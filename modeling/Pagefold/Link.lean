import Pagefold.Text.Cut

/-!
# Links

What the text of a reference says about where it leads: to another host, into the source
tree, or neither. Only references into the source tree are inlined, renamed or copied.
-/
namespace Pagefold.Link

/-- The part of a link before its query. -/
def withoutQuery (link : String) : String :=
  match Text.cut (· == '?') link.toList with
  | some (path, _) => String.ofList path
  | none => link

/-- A letter of the Latin alphabet under Unicode case folding, which adds the long s and
the Kelvin sign to the ASCII letters. -/
def isFoldedLetter (c : Char) : Bool := c.isAlpha || c == '\u017f' || c == '\u212a'

/-- Whether a link names a host: two slashes, with or without a scheme of letters before. -/
def namesHost (s : List Char) : Bool :=
  match s with
  | '/' :: '/' :: _ => true
  | _ =>
    match s.takeWhile isFoldedLetter, s.dropWhile isFoldedLetter with
    | _ :: _, ':' :: '/' :: '/' :: _ => true
    | _, _ => false

/-- An external link has a query or names a host. -/
def isExternal (link : String) : Bool :=
  link.toList.any (· == '?') || namesHost link.toList

/-- Whether a link starts with a URI scheme: an ASCII letter, then letters, digits, `+`,
`.` or `-`, then a colon. -/
def hasScheme (link : String) : Bool :=
  match link.toList with
  | c :: r =>
    c.isAlpha &&
      (r.dropWhile fun d => d.isAlphanum || d == '+' || d == '.' || d == '-').head? == some ':'
  | [] => false

/-- The link without the blanks around it. -/
def trimmed (link : String) : String := String.ofList (Text.trim link.toList)

/-- A link into the source tree: it is not blank, not a fragment alone, not external, and
has no other scheme. -/
def isLocal (link : String) : Bool :=
  let link := trimmed link
  link ≠ "" && link.toList.head? ≠ some '#' && !isExternal link && !hasScheme link

/-- The path of a link and its fragment, which comes after the first number sign. -/
def splitFragment (link : String) : String × Option String :=
  match Text.cut (· == '#') link.toList with
  | some (path, fragment) => (String.ofList path, some (String.ofList fragment))
  | none => (link, none)

end Pagefold.Link
