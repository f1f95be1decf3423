import Pagefold.Html.Adoption
import Pagefold.Html.Foreign
import Pagefold.Html.Token

/-!
# The insertion modes

What each insertion mode of the HTML standard does with a token. Parse errors are not
reported, and scripting counts as enabled, so that the content of `noscript` is raw text.
-/
namespace Pagefold.Html.Builder

open Step

/-- The token is taken up again in another mode. -/
def redirect (b : Builder) (mode : Mode) : Step := again { b with mode }

/-- Attributes of a second root tag, unless a template is open. -/
def mergeRoot (b : Builder) (tag : Tag) : Builder :=
  if b.inTemplate then b
  else { b with sketch := b.sketch.addMissing (b.opened.getLast?.getD Sketch.root) tag.attributes }

/-- An input element that is not shown. -/
def isHiddenInput (tag : Tag) : Bool :=
  (attribute? tag.attributes "type").any fun value => Text.sameLetters value "hidden"

/-- Tags that belong into the head wherever they are. -/
def isHeadContent (name : String) : Bool :=
  ["base", "basefont", "bgsound", "link", "meta", "noframes", "script", "style", "template",
   "title"].contains name

/-- The end of a template: everything inside it is closed. -/
def endTemplate (b : Builder) : Builder :=
  if b.inTemplate then
    let b := { b with opened := b.opened.dropWhile (b.isOneOf thoroughEnds) }
    let b := (b.popNamed "template").clearFormatting
    { b with templateModes := b.templateModes.drop 1 }.resetMode
  else b

/-- The end of the text closes an open template, and the token is taken up again. -/
def eofInTemplate (b : Builder) : Step :=
  if b.inTemplate then
    let b := (b.popNamed "template").clearFormatting
    again { b with templateModes := b.templateModes.drop 1 }.resetMode
  else done b

def inInitial (b : Builder) (token : Token) : Step :=
  match token with
  | .blanks _ => done b
  | .comment content => done (b.commentIn Sketch.root content)
  | _ => redirect { b with legacy := true } .beforeHtml

def inBeforeHtml (b : Builder) (token : Token) : Step :=
  let otherwise := redirect (b.insertRoot []) .beforeHead
  match token with
  | .blanks _ => done b
  | .comment content => done (b.commentIn Sketch.root content)
  | .startTag tag =>
    if tag.name = "html" then done { b.insertRoot tag.attributes with mode := .beforeHead }
    else otherwise
  | .endTag name =>
    if ["head", "body", "html", "br"].contains name then otherwise else done b
  | _ => otherwise

/-- The head element is opened and remembered. -/
def openHead (b : Builder) (tag : Tag) : Builder :=
  let b := b.insert tag
  { b with head := some b.current, mode := .inHead }

def inBeforeHead (b : Builder) (token : Token) : Step :=
  let otherwise := again (b.openHead { name := "head" })
  match token with
  | .blanks _ => done b
  | .comment content => done (b.insertComment content)
  | .startTag tag =>
    match tag.name with
    | "html" => done (b.mergeRoot tag)
    | "head" => done (b.openHead tag)
    | _ => otherwise
  | .endTag name =>
    if ["head", "body", "html", "br"].contains name then otherwise else done b
  | _ => otherwise

def inHead (b : Builder) (token : Token) : Step :=
  let otherwise := redirect b.pop .afterHead
  match token with
  | .blanks run => done (b.insertText run)
  | .comment content => done (b.insertComment content)
  | .startTag tag =>
    match tag.name with
    | "html" => done (b.mergeRoot tag)
    | "base" | "basefont" | "bgsound" | "link" | "meta" => done (b.insertVoid tag)
    | "title" => done (b.insertRaw tag (.escapable "title"))
    | "noframes" | "style" | "noscript" => done (b.insertRaw tag (.raw tag.name))
    | "script" => done (b.insertRaw tag .script)
    | "template" =>
      let b := (b.insert tag).mark
      done { b with
        allowsFrameset := false
        mode := .inTemplate
        templateModes := .inTemplate :: b.templateModes }
    | "head" => done b
    | _ => otherwise
  | .endTag name =>
    match name with
    | "head" => done { b.pop with mode := .afterHead }
    | "body" | "html" | "br" => otherwise
    | "template" => done b.endTemplate
    | _ => done b
  | _ => otherwise

def inAfterHead (b : Builder) (token : Token) : Step :=
  let otherwise := redirect (b.insertImplied "body") .inBody
  match token with
  | .blanks run => done (b.insertText run)
  | .comment content => done (b.insertComment content)
  | .startTag tag =>
    match tag.name with
    | "html" => done (b.mergeRoot tag)
    | "body" => done { b.insert tag with allowsFrameset := false, mode := .inBody }
    | "frameset" => done { b.insert tag with mode := .inFrameset }
    | "head" => done b
    | _ =>
      if isHeadContent tag.name then
        match b.head with
        | some head =>
          (inHead { b with opened := head :: b.opened } token).map (·.unstack head)
        | none => done b
      else otherwise
  | .endTag name =>
    match name with
    | "template" => done b.endTemplate
    | "body" | "html" | "br" => otherwise
    | _ => done b
  | _ => otherwise

/-- The item that a new list item ends: the innermost of the names that no special element
other than `address`, `div` and `p` separates. -/
def endItem (b : Builder) (names : List String) : Builder :=
  let stops (id : Nat) : Bool := b.isOneOf special id && !b.isOneOf ["address", "div", "p"] id
  match b.opened.find? fun id => b.isOneOf names id || stops id with
  | some id =>
    if b.isOneOf names id then
      let (_, name) := b.nameOf id
      (b.closeImplied name).popNamed name
    else b
  | none => b

/-- An element without content among the text. -/
def insertEmbedded (b : Builder) (tag : Tag) : Builder :=
  let b := b.reconstruct.insertVoid tag
  if tag.name = "input" ∧ isHiddenInput tag then b else { b with allowsFrameset := false }

/-- A second link inside a link: the first is closed and forgotten. -/
def endLink (b : Builder) : Builder :=
  match b.recent.find? fun entry => b.isNamed "a" entry.1 with
  | some (id, _) => ((b.adopt "a").unlist id).unstack id
  | none => b

/-- A start tag in the body. -/
def startInBody (b : Builder) (tag : Tag) : Step :=
  match tag.name with
  | "html" => done (b.mergeRoot tag)
  | "base" | "basefont" | "bgsound" | "link" | "meta" | "noframes" | "script" | "style"
  | "template" | "title" => inHead b (.startTag tag)
  | "body" =>
    match b.body? with
    | some body =>
      if b.inTemplate then done b
      else done { b with
        allowsFrameset := false
        sketch := b.sketch.addMissing body tag.attributes }
    | none => done b
  | "frameset" =>
    match b.body? with
    | some body =>
      if b.allowsFrameset then
        let b := { b with
          sketch := b.sketch.detach body
          opened := b.opened.getLast?.toList }
        done { b.insert tag with mode := .inFrameset }
      else done b
    | none => done b
  | "address" | "article" | "aside" | "blockquote" | "center" | "details" | "dialog" | "dir"
  | "div" | "dl" | "fieldset" | "figcaption" | "figure" | "footer" | "header" | "hgroup"
  | "main" | "menu" | "nav" | "ol" | "p" | "search" | "section" | "summary" | "ul" =>
    done (b.closeOpenParagraph.insert tag)
  | "h1" | "h2" | "h3" | "h4" | "h5" | "h6" =>
    let b := b.closeOpenParagraph
    done ((if b.isOneOf headings b.current then b.pop else b).insert tag)
  | "pre" | "listing" =>
    done { b.closeOpenParagraph.insert tag with skipsLineFeed := true, allowsFrameset := false }
  | "form" =>
    if b.inTemplate then done (b.closeOpenParagraph.insert tag)
    else if b.form.isSome then done b
    else
      let b := b.closeOpenParagraph.insert tag
      done { b with form := some b.current }
  | "li" =>
    done ((({ b with allowsFrameset := false }.endItem ["li"]).closeOpenParagraph).insert tag)
  | "dd" | "dt" =>
    done ((({ b with allowsFrameset := false }.endItem ["dd", "dt"]).closeOpenParagraph).insert tag)
  | "plaintext" => done { b.closeOpenParagraph.insert tag with reading := .plain }
  | "button" =>
    let b := if b.hasInScope "button" then (b.closeImplied "").popNamed "button" else b
    done { b.reconstruct.insert tag with allowsFrameset := false }
  | "a" => done (b.endLink.reconstruct.insertFormatting tag)
  | "b" | "big" | "code" | "em" | "font" | "i" | "s" | "small" | "strike" | "strong" | "tt"
  | "u" => done (b.reconstruct.insertFormatting tag)
  | "nobr" =>
    let b := b.reconstruct
    let b := if b.hasInScope "nobr" then (b.adopt "nobr").reconstruct else b
    done (b.insertFormatting tag)
  | "applet" | "marquee" | "object" =>
    done { (b.reconstruct.insert tag).mark with allowsFrameset := false }
  | "table" =>
    let b := if b.legacy then b else b.closeOpenParagraph
    done { b.insert tag with allowsFrameset := false, mode := .inTable }
  | "area" | "br" | "embed" | "img" | "keygen" | "wbr" | "input" => done (b.insertEmbedded tag)
  | "param" | "source" | "track" => done (b.insertVoid tag)
  | "hr" => done { b.closeOpenParagraph.insertVoid tag with allowsFrameset := false }
  | "image" => done (b.insertEmbedded { tag with name := "img" })
  | "textarea" =>
    done { b.insertRaw tag (.escapable "textarea") with
      skipsLineFeed := true
      allowsFrameset := false }
  | "xmp" =>
    let b := { b.closeOpenParagraph.reconstruct with allowsFrameset := false }
    done (b.insertRaw tag (.raw "xmp"))
  | "iframe" => done ({ b with allowsFrameset := false }.insertRaw tag (.raw "iframe"))
  | "noembed" | "noscript" => done (b.insertRaw tag (.raw tag.name))
  | "select" =>
    let mode :=
      match b.mode with
      | .inTable | .inCaption | .inTableBody | .inRow | .inCell => Mode.inSelectInTable
      | _ => Mode.inSelect
    done { b.reconstruct.insert tag with allowsFrameset := false, mode }
  | "optgroup" | "option" =>
    let b := if b.isNamed "option" b.current then b.pop else b
    done (b.reconstruct.insert tag)
  | "rb" | "rtc" =>
    let b := if b.hasInScope "ruby" then b.closeImplied "" else b
    done (b.insert tag)
  | "rp" | "rt" =>
    let b := if b.hasInScope "ruby" then b.closeImplied "rtc" else b
    done (b.insert tag)
  | "math" => done (Foreign.insert b.reconstruct .math tag)
  | "svg" => done (Foreign.insert b.reconstruct .svg tag)
  | "caption" | "col" | "colgroup" | "frame" | "head" | "tbody" | "td" | "tfoot" | "th"
  | "thead" | "tr" => done b
  | _ => done (b.reconstruct.insert tag)

/-- The end tag of a form. Outside templates it closes the remembered form alone. -/
def endForm (b : Builder) : Builder :=
  if b.inTemplate then
    if b.hasInScope "form" then (b.closeImplied "").popNamed "form" else b
  else
    match b.form with
    | none => b
    | some form =>
      let b := { b with form := none }
      if b.inScope b.endsScope (· == form) then (b.closeImplied "").unstack form else b

/-- An end tag in the body. -/
def endInBody (b : Builder) (name : String) : Step :=
  match name with
  | "template" => done b.endTemplate
  | "body" => done (if b.hasInScope "body" then { b with mode := .afterBody } else b)
  | "html" => if b.hasInScope "body" then redirect b .afterBody else done b
  | "address" | "article" | "aside" | "blockquote" | "button" | "center" | "details" | "dialog"
  | "dir" | "div" | "dl" | "fieldset" | "figcaption" | "figure" | "footer" | "header" | "hgroup"
  | "listing" | "main" | "menu" | "nav" | "ol" | "pre" | "search" | "section" | "summary"
  | "ul" =>
    done (if b.hasInScope name then (b.closeImplied "").popNamed name else b)
  | "form" => done b.endForm
  | "p" =>
    let found := b.inScope b.endsButtonScope (b.isNamed "p")
    done (if found then b else b.insertImplied "p").closeParagraph
  | "li" =>
    done (if b.inScope b.endsListScope (b.isNamed "li") then
      (b.closeImplied "li").popNamed "li" else b)
  | "dd" | "dt" => done (if b.hasInScope name then (b.closeImplied name).popNamed name else b)
  | "h1" | "h2" | "h3" | "h4" | "h5" | "h6" =>
    done (if b.inScope b.endsScope (b.isOneOf headings) then
      (b.closeImplied "").popThrough (b.isOneOf headings) else b)
  | "a" | "b" | "big" | "code" | "em" | "font" | "i" | "nobr" | "s" | "small" | "strike"
  | "strong" | "tt" | "u" => done (b.adopt name)
  | "applet" | "marquee" | "object" =>
    done (if b.hasInScope name then ((b.closeImplied "").popNamed name).clearFormatting else b)
  | "br" => done (b.insertEmbedded { name := "br" })
  | _ => done (b.closeAny name)

def inBody (b : Builder) (token : Token) : Step :=
  match token with
  | .null => done b
  | .blanks run => done (b.reconstruct.insertText run)
  | .text run => done ({ b.reconstruct with allowsFrameset := false }.insertText run)
  | .comment content => done (b.insertComment content)
  | .startTag tag => startInBody b tag
  | .endTag name => endInBody b name
  | .eof => if b.templateModes.isEmpty then done b else b.eofInTemplate
  | .doctype _ | .fault => done b

def inText (b : Builder) (token : Token) : Step :=
  match token with
  | .blanks run | .text run => done (b.insertText run)
  | .endTag _ => done { b.pop with mode := b.resumed, reading := .data }
  | .eof => redirect { b.pop with reading := .data } b.resumed
  | _ => done b

/-- A token in a table that does not belong there: its content goes before the table. -/
def foster (b : Builder) (token : Token) : Step :=
  (inBody { b with fosters := true } token).map fun b => { b with fosters := false }

/-- The innermost element becomes the table, its section, or its row. -/
def toTable (b : Builder) : Builder := b.popUntil b.endsTableScope

def toSection (b : Builder) : Builder :=
  b.popUntil (b.isOneOf ["tbody", "tfoot", "thead", "template", "html"])

def toRow (b : Builder) : Builder := b.popUntil (b.isOneOf ["tr", "template", "html"])

def inTableMode (b : Builder) (token : Token) : Step :=
  match token with
  | .null | .blanks _ | .text _ =>
    if b.isOneOf ["table", "tbody", "tfoot", "thead", "tr"] b.current then
      again { b with resumed := b.mode, mode := .inTableText }
    else foster b token
  | .comment content => done (b.insertComment content)
  | .startTag tag =>
    match tag.name with
    | "caption" => done { (b.toTable.mark).insert tag with mode := .inCaption }
    | "colgroup" => done { b.toTable.insert tag with mode := .inColumnGroup }
    | "col" => redirect (b.toTable.insertImplied "colgroup") .inColumnGroup
    | "tbody" | "tfoot" | "thead" => done { b.toTable.insert tag with mode := .inTableBody }
    | "td" | "th" | "tr" => redirect (b.toTable.insertImplied "tbody") .inTableBody
    | "table" =>
      if b.hasInTableScope "table" then again (b.popNamed "table").resetMode else done b
    | "style" | "script" | "template" => inHead b token
    | "input" => if isHiddenInput tag then done (b.insertVoid tag) else foster b token
    | "form" =>
      if b.inTemplate || b.form.isSome then done b
      else
        let b := b.insert tag
        done { b with form := some b.current }.pop
    | _ => foster b token
  | .endTag name =>
    match name with
    | "table" =>
      done (if b.hasInTableScope "table" then (b.popNamed "table").resetMode else b)
    | "body" | "caption" | "col" | "colgroup" | "html" | "tbody" | "td" | "tfoot" | "th"
    | "thead" | "tr" => done b
    | "template" => done b.endTemplate
    | _ => foster b token
  | .eof => inBody b token
  | .doctype _ | .fault => done b

/-- The text collected in a table: blanks stay in it, anything else goes before it. -/
def flushTableText (b : Builder) : Builder :=
  let pending := b.tableText
  let b := { b with tableText := [] }
  let isBlank : Token → Bool
    | .blanks _ => true
    | _ => false
  if pending.all isBlank then
    pending.foldl (fun b t =>
      match t with
      | .blanks run => b.insertText run
      | _ => b) b
  else
    pending.foldl (fun b t =>
      match foster b t with
      | .done b | .again b => b) b

def inTableText (b : Builder) (token : Token) : Step :=
  match token with
  | .null => done b
  | .blanks _ | .text _ => done { b with tableText := b.tableText ++ [token] }
  | _ =>
    let b := b.flushTableText
    redirect b b.resumed

def inCaption (b : Builder) (token : Token) : Step :=
  let found := b.hasInTableScope "caption"
  let closed := ((b.closeImplied "").popNamed "caption").clearFormatting
  match token with
  | .startTag tag =>
    if ["caption", "col", "colgroup", "tbody", "td", "tfoot", "th", "thead", "tr"].contains tag.name
    then if found then redirect closed .inTable else done b
    else inBody b token
  | .endTag name =>
    match name with
    | "caption" => done (if found then { closed with mode := .inTable } else b)
    | "table" => if found then redirect closed .inTable else done b
    | "body" | "col" | "colgroup" | "html" | "tbody" | "td" | "tfoot" | "th" | "thead" | "tr" =>
      done b
    | _ => inBody b token
  | _ => inBody b token

def inColumnGroup (b : Builder) (token : Token) : Step :=
  let inGroup := b.isNamed "colgroup" b.current
  let otherwise := if inGroup then redirect b.pop .inTable else done b
  match token with
  | .blanks run => done (b.insertText run)
  | .comment content => done (b.insertComment content)
  | .startTag tag =>
    match tag.name with
    | "html" => done (b.mergeRoot tag)
    | "col" => done (b.insertVoid tag)
    | "template" => inHead b token
    | _ => otherwise
  | .endTag name =>
    match name with
    | "colgroup" => done (if inGroup then { b.pop with mode := .inTable } else b)
    | "col" => done b
    | "template" => done b.endTemplate
    | _ => otherwise
  | .eof => inBody b token
  | _ => otherwise

def inTableBody (b : Builder) (token : Token) : Step :=
  let leave :=
    if b.inScope b.endsTableScope (b.isOneOf ["table", "tbody", "tfoot"]) then
      redirect b.toSection.pop .inTable
    else done b
  match token with
  | .startTag tag =>
    match tag.name with
    | "tr" => done { b.toSection.insert tag with mode := .inRow }
    | "th" | "td" => redirect (b.toSection.insertImplied "tr") .inRow
    | "caption" | "col" | "colgroup" | "tbody" | "tfoot" | "thead" => leave
    | _ => inTableMode b token
  | .endTag name =>
    match name with
    | "tbody" | "tfoot" | "thead" =>
      done (if b.hasInTableScope name then { b.toSection.pop with mode := .inTable } else b)
    | "table" => leave
    | "body" | "caption" | "col" | "colgroup" | "html" | "td" | "th" | "tr" => done b
    | _ => inTableMode b token
  | _ => inTableMode b token

def inRow (b : Builder) (token : Token) : Step :=
  let found := b.hasInTableScope "tr"
  let leave := if found then redirect b.toRow.pop .inTableBody else done b
  match token with
  | .startTag tag =>
    match tag.name with
    | "th" | "td" => done { (b.toRow.insert tag).mark with mode := .inCell }
    | "caption" | "col" | "colgroup" | "tbody" | "tfoot" | "thead" | "tr" => leave
    | _ => inTableMode b token
  | .endTag name =>
    match name with
    | "tr" => done (if found then { b.toRow.pop with mode := .inTableBody } else b)
    | "table" => leave
    | "tbody" | "tfoot" | "thead" => if b.hasInTableScope name then leave else done b
    | "body" | "caption" | "col" | "colgroup" | "html" | "td" | "th" => done b
    | _ => inTableMode b token
  | _ => inTableMode b token

def inCell (b : Builder) (token : Token) : Step :=
  let closed := ((b.closeImplied "").popThrough (b.isOneOf ["td", "th"])).clearFormatting
  match token with
  | .startTag tag =>
    match tag.name with
    | "caption" | "col" | "colgroup" | "tbody" | "td" | "tfoot" | "th" | "thead" | "tr" =>
      if b.inScope b.endsTableScope (b.isOneOf ["td", "th"]) then redirect closed .inRow
      else done b
    | _ => inBody b token
  | .endTag name =>
    match name with
    | "td" | "th" =>
      if b.hasInTableScope name then
        done { ((b.closeImplied "").popNamed name).clearFormatting with mode := .inRow }
      else done b
    | "body" | "caption" | "col" | "colgroup" | "html" => done b
    | "table" | "tbody" | "tfoot" | "thead" | "tr" =>
      if b.hasInTableScope name then redirect closed .inRow else done b
    | _ => inBody b token
  | _ => inBody b token

def inSelect (b : Builder) (token : Token) : Step :=
  let found := b.inScope b.endsSelectScope (b.isNamed "select")
  let closeOption (b : Builder) : Builder := if b.isNamed "option" b.current then b.pop else b
  let closeGroup (b : Builder) : Builder := if b.isNamed "optgroup" b.current then b.pop else b
  match token with
  | .null => done b
  | .blanks run | .text run => done (b.insertText run)
  | .comment content => done (b.insertComment content)
  | .startTag tag =>
    match tag.name with
    | "html" => done (b.mergeRoot tag)
    | "option" => done ((closeOption b).insert tag)
    | "optgroup" => done ((closeGroup (closeOption b)).insert tag)
    | "hr" => done ((closeGroup (closeOption b)).insertVoid tag)
    | "select" => done (if found then (b.popNamed "select").resetMode else b)
    | "input" | "keygen" | "textarea" =>
      if found then again (b.popNamed "select").resetMode else done b
    | "script" | "template" => inHead b token
    | _ => done b
  | .endTag name =>
    match name with
    | "optgroup" =>
      let inGroup := (b.opened.drop 1).head?.any (b.isNamed "optgroup")
      let b := if inGroup then closeOption b else b
      done (closeGroup b)
    | "option" => done (closeOption b)
    | "select" => done (if found then (b.popNamed "select").resetMode else b)
    | "template" => done b.endTemplate
    | _ => done b
  | .eof => inBody b token
  | .doctype _ | .fault => done b

/-- Tags of a table. -/
def isTableTag (name : String) : Bool :=
  ["caption", "table", "tbody", "tfoot", "thead", "tr", "td", "th"].contains name

def inSelectInTable (b : Builder) (token : Token) : Step :=
  match token with
  | .startTag tag =>
    if isTableTag tag.name then again (b.popNamed "select").resetMode else inSelect b token
  | .endTag name =>
    if isTableTag name then
      if b.hasInTableScope name then again (b.popNamed "select").resetMode else done b
    else inSelect b token
  | _ => inSelect b token

/-- The contents of a template are read in another mode from here on. -/
def retarget (b : Builder) (mode : Mode) : Step :=
  redirect { b with templateModes := mode :: b.templateModes.drop 1 } mode

def inTemplateMode (b : Builder) (token : Token) : Step :=
  match token with
  | .null | .blanks _ | .text _ | .comment _ => inBody b token
  | .startTag tag =>
    match tag.name with
    | "caption" | "colgroup" | "tbody" | "tfoot" | "thead" => retarget b .inTable
    | "col" => retarget b .inColumnGroup
    | "tr" => retarget b .inTableBody
    | "td" | "th" => retarget b .inRow
    | _ => if isHeadContent tag.name then inHead b token else retarget b .inBody
  | .endTag name => if name = "template" then done b.endTemplate else done b
  | .eof => b.eofInTemplate
  | .doctype _ | .fault => done b

def inAfterBody (b : Builder) (token : Token) : Step :=
  match token with
  | .blanks _ => inBody b token
  | .comment content => done (b.commentIn (b.opened.getLast?.getD Sketch.root) content)
  | .startTag tag => if tag.name = "html" then done (b.mergeRoot tag) else redirect b .inBody
  | .endTag name =>
    if name = "html" then done { b with mode := .afterAfterBody } else redirect b .inBody
  | .eof => done b
  | _ => redirect b .inBody

def inFrameset (b : Builder) (token : Token) : Step :=
  match token with
  | .blanks run => done (b.insertText run)
  | .comment content => done (b.insertComment content)
  | .startTag tag =>
    match tag.name with
    | "html" => done (b.mergeRoot tag)
    | "frameset" => done (b.insert tag)
    | "frame" => done (b.insertVoid tag)
    | "noframes" => inHead b token
    | _ => done b
  | .endTag name =>
    if name = "frameset" ∧ b.opened.length ≠ 1 then
      let b := b.pop
      done (if b.isNamed "frameset" b.current then b else { b with mode := .afterFrameset })
    else done b
  | _ => done b

def inAfterFrameset (b : Builder) (token : Token) : Step :=
  match token with
  | .blanks run => done (b.insertText run)
  | .comment content => done (b.insertComment content)
  | .startTag tag =>
    match tag.name with
    | "html" => done (b.mergeRoot tag)
    | "noframes" => inHead b token
    | _ => done b
  | .endTag name => done (if name = "html" then { b with mode := .afterAfterFrameset } else b)
  | _ => done b

def inAfterAfterBody (b : Builder) (token : Token) : Step :=
  match token with
  | .blanks _ => inBody b token
  | .comment content => done (b.commentIn Sketch.root content)
  | .startTag tag => if tag.name = "html" then done (b.mergeRoot tag) else redirect b .inBody
  | .eof => done b
  | _ => redirect b .inBody

def inAfterAfterFrameset (b : Builder) (token : Token) : Step :=
  match token with
  | .blanks _ => inBody b token
  | .comment content => done (b.commentIn Sketch.root content)
  | .startTag tag =>
    match tag.name with
    | "html" => done (b.mergeRoot tag)
    | "noframes" => inHead b token
    | _ => done b
  | _ => done b

/-- The token in the present mode. -/
def inMode (b : Builder) (token : Token) : Step :=
  match b.mode with
  | .initial => inInitial b token
  | .beforeHtml => inBeforeHtml b token
  | .beforeHead => inBeforeHead b token
  | .inHead => inHead b token
  | .afterHead => inAfterHead b token
  | .inBody => inBody b token
  | .text => inText b token
  | .inTable => inTableMode b token
  | .inTableText => inTableText b token
  | .inCaption => inCaption b token
  | .inColumnGroup => inColumnGroup b token
  | .inTableBody => inTableBody b token
  | .inRow => inRow b token
  | .inCell => inCell b token
  | .inSelect => inSelect b token
  | .inSelectInTable => inSelectInTable b token
  | .inTemplate => inTemplateMode b token
  | .afterBody => inAfterBody b token
  | .inFrameset => inFrameset b token
  | .afterFrameset => inAfterFrameset b token
  | .afterAfterBody => inAfterAfterBody b token
  | .afterAfterFrameset => inAfterAfterFrameset b token

/-- The token in foreign content. -/
def inForeign (b : Builder) (token : Token) : Step :=
  match token with
  | .null => done (b.insertText "\ufffd")
  | .blanks run => done (b.insertText run)
  | .text run => done ({ b with allowsFrameset := false }.insertText run)
  | .comment content => done (b.insertComment content)
  | .startTag tag =>
    if Foreign.breaksOut tag then again (Foreign.leave b) else done (Foreign.startTag b tag)
  | .endTag name =>
    if name = "br" ∨ name = "p" then inMode (Foreign.leave b) token
    else match Foreign.endTarget b name true b.opened with
    | .closes id => done (b.popThrough (· == id))
    | .html => inMode b token
    | .ignored => done b
  | _ => done b

/-- One step with a token. -/
def step (b : Builder) (token : Token) : Step :=
  if Foreign.takes b token then inForeign b token else inMode b token

/-- Steps until the token is dealt with. The fuel bounds them. -/
def settle : Nat → Builder → Token → Builder
  | 0, b, _ => b
  | fuel + 1, b, token =>
    match b.step token with
    | .done b => b
    | .again b => settle fuel b token

/-- The state after a token. Taking a token up again closes an open element, leaves a
template, or follows the order of the modes, which bounds the steps. -/
def take (b : Builder) (token : Token) : Builder :=
  settle (2 * (b.opened.length + b.templateModes.length) + 64) b token

/-- A document type counts only at the start. -/
def takeDoctype (b : Builder) (d : Doctype) : Builder :=
  if b.mode = .initial then
    let (id, sketch) := b.sketch.add (.doctype (d.name.getD ""))
    { b with
      sketch := sketch.append Sketch.root id
      legacy := d.asksForLegacy
      mode := .beforeHtml }
  else b

/-- The state after a token of the text. Some elements drop a line feed at their start, unless
a fault stands before it. -/
def feed (b : Builder) (token : Token) : Builder :=
  let skips := b.skipsLineFeed
  let b := { b with skipsLineFeed := false }
  match token with
  | .doctype d => b.takeDoctype d
  | .fault => b
  | .blanks run =>
    match skips, run.toList with
    | true, ['\n'] => b
    | true, '\n' :: rest => b.take (.blanks (String.ofList rest))
    | _, _ => b.take token
  | _ => b.take token

end Pagefold.Html.Builder
