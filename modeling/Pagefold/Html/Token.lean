import Pagefold.Html.Node
import Pagefold.Html.Reference

/-!
# HTML tokens

The first token of an HTML text and what follows it. How a text is read depends on the
element it stands in: in a script, say, only the script's own end tag is markup. Each
reader takes a list of characters and gives the rest of it; none of them fails.
-/
namespace Pagefold.Html

/-- A start tag. The attributes have different names; of equal ones the first is kept. -/
structure Tag where
  name : String
  attributes : List Attribute := []
  selfClosing : Bool := false
  deriving DecidableEq, Repr

/-- A document type, with its identifiers and whether it asks for the legacy mode by itself. -/
structure Doctype where
  name : Option String := none
  publicId : Option String := none
  systemId : Option String := none
  forcesLegacy : Bool := false
  deriving DecidableEq, Repr

/-- A token. Text is divided into runs of blanks and runs without blanks. A fault is a breach
of the rules that leaves nothing else behind, or that comes before the text it is found in. -/
inductive Token where
  | blanks (run : String)
  | text (run : String)
  | null
  | startTag (tag : Tag)
  | endTag (name : String)
  | comment (content : String)
  | doctype (doctype : Doctype)
  | fault
  | eof
  deriving DecidableEq, Repr

/-- How the text ahead is read. The readers of raw text stop at the end tag of the name. -/
inductive Reading where
  | data
  /-- Text with character references. -/
  | escapable (name : String)
  /-- Text without character references. -/
  | raw (name : String)
  | script
  /-- Text up to the end of the document. -/
  | plain
  deriving DecidableEq, Repr

namespace Lexer

/-- The replacement character for NUL. -/
def visible (c : Char) : Char := if c = '\x00' then '\ufffd' else c

/-- The text with all NULs replaced. -/
def visibleText (s : List Char) : List Char := s.map visible

/-- A character that ends the name of a tag. -/
def endsName (c : Char) : Bool := Text.isAsciiBlank c || c == '/' || c == '>'

/-- A name in lower case. -/
def nameOf (s : List Char) : String := String.ofList ((visibleText s).map Char.toLower)

/-- Adds a character to the runs of the text after it. -/
def addToRuns (c : Char) (runs : List (Bool × List Char)) : List (Bool × List Char) :=
  match runs with
  | (blank, run) :: rest =>
    if blank = Text.isAsciiBlank c ∧ c ≠ '\x00' ∧ run.head? ≠ some '\x00' then
      (blank, c :: run) :: rest
    else (Text.isAsciiBlank c, [c]) :: runs
  | [] => [(Text.isAsciiBlank c, [c])]

/-- The tokens of a text that holds no markup. -/
def textTokens (s : List Char) : List Token :=
  (s.foldr addToRuns []).map fun (blank, run) =>
    if run = ['\x00'] then .null
    else if blank then .blanks (String.ofList run)
    else .text (String.ofList run)

/-- The tokens of a text, with a fault in front if the text starts with a numeric reference
that lacks its semicolon. -/
def afterFault (s : List Char) (tokens : List Token) : List Token :=
  if Reference.startsUnclosed s then .fault :: tokens else tokens

/-- Whether a text starts with a word, in any case of its letters. -/
def startsWithWord (word : String) (s : List Char) : Bool :=
  (s.take word.length).map Char.toLower == word.toList

/-- Whether a text starts with the end tag of the name, at least up to the end of the name. -/
def atEndTag (name : String) (s : List Char) : Bool :=
  match s with
  | '<' :: '/' :: r => startsWithWord name r && (r.drop name.length).head?.any endsName
  | _ => false

/-- The characters before the first position that `stop` accepts, and the text from there. -/
def upTo (stop : List Char → Bool) : List Char → List Char × List Char
  | [] => ([], [])
  | c :: r =>
    if stop (c :: r) then ([], c :: r)
    else
      let (before, rest) := upTo stop r
      (c :: before, rest)

/-- Within a script, whether it is inside a comment and inside a script tag of that comment,
and how many hyphens came last (at most two count). -/
inductive ScriptState where
  | top
  | inComment (hyphens : Nat)
  | inNested (hyphens : Nat)
  deriving DecidableEq, Repr

/-- Whether a text starts with `opening` and then the word `script`, in any case and complete. -/
def atScriptWord (opening : List Char) (s : List Char) : Bool :=
  match Text.after? opening s with
  | some r => startsWithWord "script" r && (r.drop 6).head?.any endsName
  | none => false

/-- The state of a script after its next character; the text starts with that character. -/
def ScriptState.next (state : ScriptState) (s : List Char) : ScriptState :=
  let here := s.head?
  match state with
  | top => if (Text.after? "<!--".toList s).isSome then inComment 0 else top
  | inComment n =>
    if here = some '-' then inComment (min 2 (n + 1))
    else if here = some '>' ∧ n = 2 then top
    else if atScriptWord ['<'] s then inNested 0
    else inComment 0
  | inNested n =>
    if here = some '-' then inNested (min 2 (n + 1))
    else if here = some '>' ∧ n = 2 then top
    else if atScriptWord ['<', '/'] s then inComment 0
    else inNested 0

/-- The text of a script up to its end tag. A script end tag that closes one of a comment
does not end the script. -/
def scriptText (state : ScriptState) : List Char → List Char × List Char
  | [] => ([], [])
  | c :: r =>
    if atEndTag "script" (c :: r) && (match state with | .inNested _ => false | _ => true) then
      ([], c :: r)
    else
      let (before, rest) := scriptText (state.next (c :: r)) r
      (c :: before, rest)

/-- Where a comment stands with respect to its end. -/
inductive CommentState where
  | start
  | startHyphen
  | inside
  | hyphen
  | closing
  | bang
  deriving DecidableEq, Repr

/-- The content of a comment and what follows it. -/
def comment : CommentState → List Char → List Char × List Char
  | _, [] => ([], [])
  | .start, '-' :: r => comment .startHyphen r
  | .start, '>' :: r => ([], r)
  | .startHyphen, '-' :: r => comment .closing r
  | .startHyphen, '>' :: r => ([], r)
  | .inside, '-' :: r => comment .hyphen r
  | .hyphen, '-' :: r => comment .closing r
  | .closing, '>' :: r => ([], r)
  | .closing, '!' :: r => comment .bang r
  | .closing, '-' :: r => let (s, rest) := comment .closing r; ('-' :: s, rest)
  | .bang, '-' :: r => let (s, rest) := comment .hyphen r; ("--!".toList ++ s, rest)
  | .bang, '>' :: r => ([], r)
  | .start, c :: r => let (s, rest) := comment .inside r; (visible c :: s, rest)
  | .startHyphen, c :: r => let (s, rest) := comment .inside r; ('-' :: visible c :: s, rest)
  | .inside, c :: r => let (s, rest) := comment .inside r; (visible c :: s, rest)
  | .hyphen, c :: r => let (s, rest) := comment .inside r; ('-' :: visible c :: s, rest)
  | .closing, c :: r =>
    let (s, rest) := comment .inside r
    ('-' :: '-' :: visible c :: s, rest)
  | .bang, c :: r =>
    let (s, rest) := comment .inside r
    ("--!".toList ++ visible c :: s, rest)

/-- What stands before the next `>`, and what follows it. -/
def upToClose (s : List Char) : List Char × List Char :=
  match Text.cut (· == '>') s with
  | some parts => parts
  | none => (s, [])

/-- Markup that is no tag is kept as a comment. -/
def bogusComment (s : List Char) : List Token × List Char :=
  let (content, rest) := upToClose s
  ([.comment (String.ofList (visibleText content))], rest)

/-- The value of an attribute after its equals sign, and the rest. At the end of the text
there is no value. -/
def attributeValue? (s : List Char) : Option (List Char × List Char) :=
  match s.dropWhile Text.isAsciiBlank with
  | [] => none
  | '"' :: r => Text.cut (· == '"') r
  | '\'' :: r => Text.cut (· == '\'') r
  | r =>
    let ends (c : Char) : Bool := Text.isAsciiBlank c || c == '>'
    some (r.takeWhile (!ends ·), r.dropWhile (!ends ·))

/-- The characters that end the name of an attribute. -/
def endsAttributeName (c : Char) : Bool := endsName c || c == '='

/-- The name of an attribute, whose first character is part of it whatever it is, the value,
which is empty when none is given, and the rest. -/
def attribute? : List Char → Option (Attribute × List Char)
  | [] => none
  | c :: r =>
    let name := nameOf (c :: r.takeWhile (!endsAttributeName ·))
    let after := (r.dropWhile (!endsAttributeName ·)).dropWhile Text.isAsciiBlank
    match after with
    | '=' :: r =>
      (attributeValue? r).map fun (value, rest) =>
        (⟨name, String.ofList (visibleText (Reference.decode true value))⟩, rest)
    | _ => some (⟨name, ""⟩, after)

/-- The attributes of a tag and whether it closes itself, up to and with its `>`. A tag that
the text does not finish is none. -/
def attributes? : Nat → List Attribute → List Char → Option (List Attribute × Bool × List Char)
  | 0, _, _ => none
  | fuel + 1, found, s =>
    match s.dropWhile Text.isAsciiBlank with
    | [] => none
    | '>' :: r => some (found, false, r)
    | '/' :: '>' :: r => some (found, true, r)
    | '/' :: r => attributes? fuel found r
    | r =>
      match attribute? r with
      | none => none
      | some (a, rest) =>
        let known := found.any (·.name == a.name)
        attributes? fuel (if known then found else found ++ [a]) rest

/-- The tag whose name starts the text. -/
def tag? (s : List Char) : Option (Tag × List Char) :=
  let name := s.takeWhile (!endsName ·)
  (attributes? (s.length + 1) [] (s.dropWhile (!endsName ·))).map
    fun (attributes, selfClosing, rest) => (⟨nameOf name, attributes, selfClosing⟩, rest)

/-- The end tag whose name starts the text; its attributes are dropped. -/
def endTagToken (s : List Char) : List Token × List Char :=
  match tag? s with
  | some (tag, rest) => ([.endTag tag.name], rest)
  | none => ([], [])

/-- A quoted identifier of a document type: its text, whether it was closed, and the rest. -/
def identifier? (s : List Char) : Option (List Char × Bool × List Char) :=
  let read (quote : Char) (r : List Char) : List Char × Bool × List Char :=
    let ends (c : Char) : Bool := c == quote || c == '>'
    let content := visibleText (r.takeWhile (!ends ·))
    match r.dropWhile (!ends ·) with
    | c :: rest => (content, c == quote, if c = quote then rest else c :: rest)
    | [] => (content, false, [])
  match s with
  | '"' :: r => some (read '"' r)
  | '\'' :: r => some (read '\'' r)
  | _ => none

/-- The end of a document type. What stands before its `>` is passed over, and the end of the
text asks for the legacy mode. -/
def doctypeEnd (d : Doctype) (s : List Char) : Doctype × List Char :=
  match Text.cut (· == '>') s with
  | some (_, rest) => (d, rest)
  | none => ({ d with forcesLegacy := true }, [])

/-- The system identifier, where it may or has to stand, and the end. -/
def doctypeSystem (d : Doctype) (required : Bool) (s : List Char) : Doctype × List Char :=
  let s := s.dropWhile Text.isAsciiBlank
  match identifier? s with
  | some (content, closed, rest) =>
    doctypeEnd { d with systemId := some (String.ofList content), forcesLegacy := !closed } rest
  | none =>
    let plain := s.head? = some '>' ∧ !required
    doctypeEnd { d with forcesLegacy := !plain } s

/-- A document type after the word `doctype`. -/
def doctype (s : List Char) : Doctype × List Char :=
  let s := s.dropWhile Text.isAsciiBlank
  let ends (c : Char) : Bool := Text.isAsciiBlank c || c == '>'
  match s.takeWhile (!ends ·) with
  | [] => doctypeEnd { forcesLegacy := true } s
  | name =>
    let d : Doctype := { name := some (nameOf name) }
    let rest := (s.dropWhile (!ends ·)).dropWhile Text.isAsciiBlank
    if rest.head? = some '>' then doctypeEnd d rest
    else if startsWithWord "public" rest then
      let rest := (rest.drop 6).dropWhile Text.isAsciiBlank
      match identifier? rest with
      | some (content, true, rest) =>
        doctypeSystem { d with publicId := some (String.ofList content) } false rest
      | some (content, false, rest) =>
        doctypeEnd { d with publicId := some (String.ofList content), forcesLegacy := true } rest
      | none => doctypeEnd { d with forcesLegacy := true } rest
    else if startsWithWord "system" rest then doctypeSystem d true (rest.drop 6)
    else doctypeEnd { d with forcesLegacy := true } rest

/-- Markup after `<!`. A section of character data is one only in foreign elements. -/
def declaration (inForeign : Bool) (s : List Char) : List Token × List Char :=
  match s with
  | '-' :: '-' :: r =>
    let (content, rest) := comment .start r
    ([.comment (String.ofList content)], rest)
  | _ =>
    if startsWithWord "doctype" s then
      let (d, rest) := doctype (s.drop 7)
      ([.doctype d], rest)
    else
      match inForeign, Text.after? "[CDATA[".toList s with
      | true, some r =>
        let (content, rest) := upTo (fun t => (Text.after? "]]>".toList t).isSome) r
        (textTokens content, rest.drop 3)
      | _, _ => bogusComment s

/-- Markup after `<`; the sign itself is text where no markup starts. -/
def markup (inForeign : Bool) (s : List Char) : List Token × List Char :=
  match s with
  | '!' :: r => declaration inForeign r
  | '?' :: _ => bogusComment s
  | '/' :: r =>
    match r with
    | [] => ([.text "</"], [])
    | '>' :: rest => ([.fault], rest)
    | c :: _ => if c.isAlpha then endTagToken r else bogusComment r
  | c :: _ =>
    if c.isAlpha then
      match tag? s with
      | some (tag, rest) => ([.startTag tag], rest)
      | none => ([], [])
    else ([.text "<"], s)
  | [] => ([.text "<"], [])

/-- The tokens at the start of a text that is not empty, and the rest, which is shorter. At
most one of the tokens is a tag, and it is the last. -/
def next (reading : Reading) (inForeign : Bool) (s : List Char) : List Token × List Char :=
  match reading with
  | .data =>
    match s with
    | '<' :: r => markup inForeign r
    | _ =>
      let content := s.takeWhile (· ≠ '<')
      (afterFault content (textTokens (Reference.decode false content)), s.dropWhile (· ≠ '<'))
  | .escapable name =>
    if atEndTag name s then endTagToken (s.drop 2)
    else
      let (content, rest) := upTo (atEndTag name) s
      (afterFault content (textTokens (visibleText (Reference.decode false content))), rest)
  | .raw name =>
    if atEndTag name s then endTagToken (s.drop 2)
    else
      let (content, rest) := upTo (atEndTag name) s
      (textTokens (visibleText content), rest)
  | .script =>
    if atEndTag "script" s then endTagToken (s.drop 2)
    else
      let (content, rest) := scriptText .top s
      (textTokens (visibleText content), rest)
  | .plain => (textTokens (visibleText s), [])

end Lexer

end Pagefold.Html

/-!
## Document types that ask for the legacy mode

Old document types make a table inside a paragraph possible. They are known by their public
and system identifiers, in any letter case.
-/
namespace Pagefold.Html.Doctype

/-- Public identifiers that ask for the legacy mode. -/
def legacyPublicIds : List String :=
  ["-//w3o//dtd w3 html strict 3.0//en//", "-/w3c/dtd html 4.0 transitional/en", "html"]

/-- The system identifier that asks for the legacy mode. -/
def legacySystemId : String :=
  "http:" ++ "//www.ibm.com/data/dtd/v11/ibmxhtml1-transitional.dtd"

/-- Openings of public identifiers that ask for the legacy mode. -/
def legacyOpenings : List String :=
  ["-//advasoft ltd//dtd html 3.0 aswedit + extensions//",
   "-//as//dtd html 3.0 aswedit + extensions//", "-//ietf//dtd html 2.0 level 1//",
   "-//ietf//dtd html 2.0 level 2//", "-//ietf//dtd html 2.0 strict level 1//",
   "-//ietf//dtd html 2.0 strict level 2//", "-//ietf//dtd html 2.0 strict//",
   "-//ietf//dtd html 2.0//", "-//ietf//dtd html 2.1e//", "-//ietf//dtd html 3.0//",
   "-//ietf//dtd html 3.2 final//", "-//ietf//dtd html 3.2//", "-//ietf//dtd html 3//",
   "-//ietf//dtd html level 0//", "-//ietf//dtd html level 1//", "-//ietf//dtd html level 2//",
   "-//ietf//dtd html level 3//", "-//ietf//dtd html strict level 0//",
   "-//ietf//dtd html strict level 1//", "-//ietf//dtd html strict level 2//",
   "-//ietf//dtd html strict level 3//", "-//ietf//dtd html strict//", "-//ietf//dtd html//",
   "-//metrius//dtd metrius presentational//",
   "-//microsoft//dtd internet explorer 2.0 html strict//",
   "-//microsoft//dtd internet explorer 2.0 html//",
   "-//microsoft//dtd internet explorer 2.0 tables//",
   "-//microsoft//dtd internet explorer 3.0 html strict//",
   "-//microsoft//dtd internet explorer 3.0 html//",
   "-//microsoft//dtd internet explorer 3.0 tables//", "-//netscape comm. corp.//dtd html//",
   "-//netscape comm. corp.//dtd strict html//", "-//o'reilly and associates//dtd html 2.0//",
   "-//o'reilly and associates//dtd html extended 1.0//",
   "-//o'reilly and associates//dtd html extended relaxed 1.0//",
   "-//softquad software//dtd hotmetal pro 6.0::19990601::extensions to html 4.0//",
   "-//softquad//dtd hotmetal pro 4.0::19971010::extensions to html 4.0//",
   "-//spyglass//dtd html 2.0 extended//", "-//sq//dtd html 2.0 hotmetal + extensions//",
   "-//sun microsystems corp.//dtd hotjava html//",
   "-//sun microsystems corp.//dtd hotjava strict html//", "-//w3c//dtd html 3 1995-03-24//",
   "-//w3c//dtd html 3.2 draft//", "-//w3c//dtd html 3.2 final//", "-//w3c//dtd html 3.2//",
   "-//w3c//dtd html 3.2s draft//", "-//w3c//dtd html 4.0 frameset//",
   "-//w3c//dtd html 4.0 transitional//", "-//w3c//dtd html experimental 19960712//",
   "-//w3c//dtd html experimental 970421//", "-//w3c//dtd w3 html//",
   "-//w3o//dtd w3 html 3.0//", "-//webtechs//dtd mozilla html 2.0//",
   "-//webtechs//dtd mozilla html//"]

/-- Openings that ask for the legacy mode only when there is no system identifier. -/
def legacyAloneOpenings : List String :=
  ["-//w3c//dtd html 4.01 frameset//", "-//w3c//dtd html 4.01 transitional//"]

/-- Whether a document of this type is read in the legacy mode. -/
def asksForLegacy (d : Doctype) : Bool :=
  let publicId := d.publicId.map Text.lower
  let systemId := d.systemId.map Text.lower
  let opens (openings : List String) : Bool :=
    publicId.any fun id => openings.any fun o => o.toList.isPrefixOf id.toList
  d.forcesLegacy || d.name != some "html" || publicId.any legacyPublicIds.contains ||
    systemId == some legacySystemId || opens legacyOpenings ||
    (systemId.isNone && opens legacyAloneOpenings)

end Pagefold.Html.Doctype
