import Pagefold.Css.Declaration.Reader
import Pagefold.Css.Selector.Printer
import Pagefold.Css.Sheet

/-!
# Stylesheets as they are written

Rules are written one after the other without blanks. Declarations that stand between rules
are ended by a semicolon where another rule follows.
-/
namespace Pagefold.Css

/-- How the name of keyframes is written. -/
def KeyframesName.text : KeyframesName → String
  | ident name => Literal.name name
  | quoted name => (AnimationName.quoted name).text

/-- How one step of keyframes is written. -/
def Frame.text (f : Frame) : String := ",".intercalate f.times ++ "\x7b" ++ f.block.text ++ "\x7d"

/-- How the head of a group is written, unless the group holds everywhere. -/
def GroupHead.text? : GroupHead → Option String
  | media queries =>
    if Medium.isAlways queries then none else some ("@media " ++ Medium.textOfAll queries)
  | supports condition => some ("@supports " ++ Support.textOf condition)
  | container c => some ("@container " ++ c.text)
  | layer none => some "@layer"
  | layer (some name) => some ("@layer " ++ name)
  | startingStyle => some "@starting-style"
  | document => some "@-moz-document url-prefix()"

namespace Rule

/-- How the selector lists of a scope are written. The rule around the end of a scope is its
start. -/
def scopeHead (start stop : Option (List Selector)) : String :=
  let parent := (start.map Selector.standIn).getD "&"
  "@scope" ++ (start.map fun s => "(" ++ Selector.textOfAll s ++ ")").getD "" ++
    (stop.map fun s => " to (" ++ Selector.textOfAllIn parent s ++ ")").getD ""

/-- The declarations in front of rules, with a semicolon if some rule follows. -/
def blockText (block : Block) (last : Bool) : String :=
  block.text ++ if block.isEmpty || last then "" else ";"

/-- Whether a rule is made of declarations alone. -/
def isDeclarations : Rule → Bool
  | .declarations _ => true
  | _ => false

mutual

/-- How a rule is written. -/
def text : Rule → String
  | .style selectors block rules =>
    Selector.textOfAll selectors ++ "\x7b" ++ blockText block rules.isEmpty ++ textOf rules ++ "\x7d"
  | .nest selectors block rules =>
    "@nest " ++ Selector.textOfAll selectors ++ "\x7b" ++ blockText block rules.isEmpty ++
      textOf rules ++ "\x7d"
  | .declarations block => block.text
  | .group head rules =>
    match head.text? with
    | some head => head ++ "\x7b" ++ textOf rules ++ "\x7d"
    | none => textOf rules
  | .scope start stop rules => scopeHead start stop ++ "\x7b" ++ textOf rules ++ "\x7d"
  | .keyframes head name frames =>
    head ++ " " ++ name.text ++ "\x7b" ++ "".intercalate (frames.map Frame.text) ++ "\x7d"
  | .sections head block named =>
    head ++ "\x7b" ++ blockText block named.isEmpty ++
      "".intercalate (named.map fun m => m.1 ++ "\x7b" ++ m.2.text ++ "\x7d") ++ "\x7d"
  | .descriptors head block => head ++ "\x7b" ++ block.text ++ "\x7d"
  | .reference text _ => text
  | .layers names => "@layer " ++ ",".intercalate names ++ ";"
  | .namespaceOf text => text
  | .unknown name head body =>
    "@" ++ name ++ (if head.isEmpty then "" else " " ++ head.text) ++
      match body with
      | some body => "\x7b" ++ body.text ++ "\x7d"
      | none => ";"

/-- How rules are written. -/
def textOf : List Rule → String
  | [] => ""
  | r :: rest => r.text ++ (if r.isDeclarations && !rest.isEmpty then ";" else "") ++ textOf rest

end

end Rule

/-- How a stylesheet is written: each kept comment on a line of its own, then the rules. -/
def Sheet.text (s : Sheet) : String :=
  "".intercalate (s.notices.map fun c => "/*" ++ c ++ "*/\n") ++ Rule.textOf s.rules

end Pagefold.Css
