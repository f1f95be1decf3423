import Pagefold.Command.FieldValue

/-!
# Which log messages are shown

A filter is a set of directives, each of which lets the messages of a target pass up to a
level; without a target it is about all others. Two switches choose a filter, and without them
a variable of the environment can spell one out.
-/
namespace Pagefold.Command

/-- How much is logged, from nothing to everything. -/
inductive LogLevel where
  | off
  | error
  | warn
  | info
  | debug
  | trace
  deriving DecidableEq, Repr

/-- The word for a level. -/
def LogLevel.word : LogLevel → String
  | off => "off"
  | error => "error"
  | warn => "warn"
  | info => "info"
  | debug => "debug"
  | trace => "trace"

/-- The levels from the lowest on. -/
def LogLevel.all : List LogLevel := [off, error, warn, info, debug, trace]

/-- The level that a text names, by its word in any case or by its number. -/
def LogLevel.read? (text : List Char) : Option LogLevel :=
  match Environment.isWhole text && text.head? ≠ some '-' with
  | true => LogLevel.all[Json.decimal (Environment.unsigned text)]?
  | false => LogLevel.all.find? fun level => level.word.toList = text.map Char.toLower

/-- A test of one field of a span: that it is there, or that it has a value. -/
structure FieldTest where
  name : String
  value : Option FieldValue := none
  deriving DecidableEq, Repr

/-- How a test is written. -/
def FieldTest.text (t : FieldTest) : String :=
  t.name ++ (t.value.map fun value => "=" ++ value.text).getD ""

/-- The test that a text writes; what follows a second equals sign is dropped. -/
def FieldTest.read? (text : List Char) : Option FieldTest :=
  match Text.pieces (· == '=') text with
  | [] => none
  | [[]] => none
  | name :: value :: _ => (FieldValue.read? value).map fun value => ⟨String.ofList name, some value⟩
  | [name] => some ⟨String.ofList name, none⟩

/-- Whether two tests look for the same. -/
def FieldTest.same (t u : FieldTest) : Bool :=
  t.name == u.name &&
    match t.value, u.value with
    | some a, some b => a.same b
    | none, none => true
    | _, _ => false

/-- What passes, for one target and some kinds of spans, or for all that have none of their own. -/
structure LogDirective where
  target : Option String := none
  span : Option String := none
  fields : List FieldTest := []
  level : LogLevel := .trace
  deriving DecidableEq, Repr

namespace LogDirective

/-- What a directive is about, in its written form. -/
def subject (d : LogDirective) : String :=
  let fields :=
    if d.fields.isEmpty then ""
    else "\x7b" ++ ",".intercalate (d.fields.map FieldTest.text) ++ "\x7d"
  let spans := d.span.getD "" ++ fields
  d.target.getD "" ++
    if d.span.isSome || !d.fields.isEmpty then "[" ++ spans ++ "]" else ""

/-- Whether two directives are about the same. -/
def concurs (d e : LogDirective) : Bool :=
  d.target == e.target && d.span == e.span && d.fields.length == e.fields.length &&
    (d.fields.zip e.fields).all fun (t, u) => t.same u

/-- Whether a directive is about everything. -/
def isGeneral (d : LogDirective) : Bool := d.target.isNone && d.span.isNone && d.fields.isEmpty

/-- The text of a directive. -/
def text (d : LogDirective) : String :=
  if d.isGeneral then d.level.word else d.subject ++ "=" ++ d.level.word

/-- Whether a directive depends on the spans that a message is in. -/
def isDynamic (d : LogDirective) : Bool := d.span.isSome || !d.fields.isEmpty

/-- Whether a directive can be settled by the fields that a message has. -/
def isStatic (d : LogDirective) : Bool := d.span.isNone && d.fields.all (·.value.isNone)

/-- Whether a character can start a directive. -/
def canStart (c : Char) : Bool :=
  c == '-' || c == ':' || c == '_' || c == '[' || Text.isLetterOrNumber c

/-- The level after an equals sign; without a level everything passes. -/
def levelAfter? (text : List Char) : Option LogLevel :=
  match text with
  | [] => some .trace
  | text => LogLevel.read? text

/-- How far a directive has been read, and where its last part begins. -/
inductive Stage where
  | start
  | name (begins : Nat)
  | span (begins : Nat)
  | field (begins : Nat)
  | fields
  | closed
  | level (begins : Nat)
  deriving DecidableEq, Repr

/-- The text without its first bytes. -/
def afterBytes : Nat → List Char → List Char
  | 0, s => s
  | _, [] => []
  | bytes, c :: r => afterBytes (bytes - c.utf8Size) r

/-- The part of a text between two places, which are counted in bytes. -/
def part (text : List Char) (begins ends : Nat) : List Char :=
  Environment.withinBytes (ends - begins) (afterBytes begins text)

/-- One more character of a directive at a place. -/
def step (text : List Char) (place : Nat) (c : Char) (stage : Stage) (d : LogDirective) :
    Option (Stage × LogDirective) :=
  match stage with
  | .start =>
    if c = '[' then some (.span (place + 1), d)
    else if canStart c then some (.name place, d)
    else none
  | .name begins =>
    let target := some (String.ofList (part text begins place))
    if c = '=' then some (.level (place + 1), { d with target })
    else if c = '[' then some (.span (place + 1), { d with target })
    else some (.name begins, d)
  | .span begins =>
    let span := part text begins place
    if c = ']' then some (.closed, { d with span := some (String.ofList span) })
    else if c = '\x7b' then
      let named := if span.isEmpty then none else some (String.ofList span)
      some (.field (place + 1), { d with span := named })
    else some (.span begins, d)
  | .field begins =>
    if c = '\x7d' then do
      let field ← FieldTest.read? (part text begins place)
      pure (.fields, { d with fields := d.fields ++ [field] })
    else some (.field begins, d)
  | .fields => if c = ']' then some (.closed, d) else none
  | .closed => if c = '=' then some (.level (place + 1), d) else none
  | .level begins => some (.level begins, d)

/-- The rest of a directive, read character by character. -/
def readFrom (text : List Char) (place : Nat) (stage : Stage) (d : LogDirective) :
    List Char → Option (Stage × LogDirective)
  | [] => some (stage, d)
  | c :: rest => do
    let (stage, d) ← step text place c stage d
    readFrom text (place + c.utf8Size) stage d rest

/-- The directive that a text writes: a level, a target or span with a level, or a target or
span alone, of which everything passes. The parts are found in the text without the blanks at
its ends, and their places are then looked up in the text as it is. -/
def read? (text : List Char) : Option LogDirective := do
  let (stage, d) ← readFrom text 0 .start {} (Text.trim text)
  match stage with
  | .name begins =>
    let word := afterBytes begins text
    match LogLevel.read? word with
    | some level => pure { level }
    | none => pure { d with target := some (String.ofList word) }
  | .level begins => do pure { d with level := ← levelAfter? (afterBytes begins text) }
  | .closed => pure d
  | _ => none

end LogDirective

/-- A filter. -/
abbrev LogFilter := List LogDirective

namespace LogFilter

/-- The parts of the program that log. -/
def targets : List String := ["tater", "tater_core", "tater_cli"]

/-- The filter that treats all parts of the program alike. -/
def uniform (level : LogLevel) : LogFilter := targets.map fun target => { target := some target, level }

/-- Directives with one more. Of two for one target and the same spans the later one counts. -/
def insert (filter : List LogDirective) (d : LogDirective) : List LogDirective :=
  filter.filter (!·.concurs d) ++ [d]

/-- The filter that a text spells out. A directive that can be settled both with and without
spans stands in it twice. -/
def read? (text : String) : Option LogFilter := do
  let directives ← (Text.words (· == ',') text.toList).mapM LogDirective.read?
  let ofSpans := directives.filter (·.isDynamic)
  let settled := directives.filter (!·.isDynamic) ++ ofSpans.filter (·.isStatic)
  pure (settled.foldl insert [] ++ ofSpans.foldl insert [])

/-- The name of the variable that can spell out a filter. -/
def variableName : String := "RUST_LOG"

/-- The filter of a command. -/
def choose (env : Environment) (verbose quiet : Bool) : LogFilter :=
  if verbose then uniform .debug
  else if quiet then uniform .error
  else ((env.lookup variableName).bind read?).getD (uniform .info)

/-- The texts of the directives in order; a filter without directives has one empty text. -/
def texts (filter : LogFilter) : List String :=
  if filter.isEmpty then [""]
  else (filter.map (·.text)).mergeSort fun a b => decide (a ≤ b)

end LogFilter

end Pagefold.Command
