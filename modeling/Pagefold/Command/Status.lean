import Pagefold.Bundle
import Pagefold.Command.Environment
import Pagefold.Number.Nearest

/-!
# What a command says

Sizes and durations for readers, status lines, and the summary of a run.
-/
namespace Pagefold.Command

/-!
## Sizes and durations for readers

A size is shown in the largest unit of which it holds at least one, a duration in milliseconds,
in seconds, or in minutes and seconds. What is shown is first a figure, a number with its unit,
and then a text. Figures with a fraction have two places.
-/

/-- The units of sizes. -/
inductive SizeUnit where
  | b
  | kb
  | mb
  | gb
  deriving DecidableEq, Repr

namespace SizeUnit

/-- The sign of a unit. -/
def sign : SizeUnit → String
  | b => "B"
  | kb => "KB"
  | mb => "MB"
  | gb => "GB"

/-- The bytes in a unit. -/
def bytes : SizeUnit → Nat
  | b => 1
  | kb => 1024
  | mb => 1024 * 1024
  | gb => 1024 * 1024 * 1024

/-- The unit in which a size is shown. -/
def ofSize (size : Nat) : SizeUnit :=
  if size < kb.bytes then b
  else if size < mb.bytes then kb
  else if size < gb.bytes then mb
  else gb

end SizeUnit

/-- A number of hundredths with two places after the point. -/
def twoPlaces (hundredths : Nat) : String :=
  let rest := hundredths % 100
  toString (hundredths / 100) ++ (if rest < 10 then ".0" else ".") ++ toString rest

/-- A size as it is shown. -/
structure SizeFigure where
  hundredths : Nat
  unit : SizeUnit
  deriving DecidableEq, Repr

namespace SizeFigure

/-- The figure of a size in bytes, which counts with 53 binary digits. -/
def ofBytes (bytes : Nat) : SizeFigure :=
  let size := Number.toPrecision bytes
  let unit := SizeUnit.ofSize size
  ⟨Number.nearest (100 * size) unit.bytes, unit⟩

/-- The text of a figure. Bytes are whole. -/
def text (f : SizeFigure) : String :=
  match f.unit with
  | .b => toString (f.hundredths / 100) ++ " " ++ f.unit.sign
  | _ => twoPlaces f.hundredths ++ " " ++ f.unit.sign

end SizeFigure

/-- A duration as it is shown. -/
inductive DurationFigure where
  | milliseconds (count : Nat)
  | seconds (hundredths : Nat)
  | minutes (count left : Nat)
  deriving DecidableEq, Repr

namespace DurationFigure

/-- The nanoseconds in a second. -/
def perSecond : Nat := 1000000000

/-- The nanoseconds in a millisecond. -/
def perMillisecond : Nat := 1000000

/-- The figure of a duration in nanoseconds. Seconds are the sum of the whole ones and of their
fraction, each with 53 binary digits. -/
def ofNanoseconds (nanoseconds : Nat) : DurationFigure :=
  let whole := nanoseconds / perSecond
  let millis := nanoseconds / perMillisecond
  if millis < 1000 then .milliseconds millis
  else if millis < 60000 then
    let fraction := Number.BinaryFraction.ofRatio (nanoseconds % perSecond) perSecond
    .seconds (fraction.addNat whole).hundredths
  else .minutes (whole / 60) (whole % 60)

/-- The text of a figure. -/
def text : DurationFigure → String
  | milliseconds count => toString count ++ "ms"
  | seconds hundredths => twoPlaces hundredths ++ "s"
  | minutes count left => toString count ++ "m " ++ toString left ++ "s"

end DurationFigure

/-- The text of a size in bytes. -/
def sizeText (bytes : Nat) : String := (SizeFigure.ofBytes bytes).text

/-- The text of a duration in nanoseconds. -/
def durationText (nanoseconds : Nat) : String := (DurationFigure.ofNanoseconds nanoseconds).text

/-!
## Status lines

Status lines begin with a sign for their level, and a run ends with a summary of its documents.
Both are written with or without colours.
-/

/-- A colour of a terminal, by its number. -/
inductive Colour where
  | red
  | green
  | yellow
  | blue
  | cyan
  deriving DecidableEq, Repr

/-- The number of a colour among the text colours. -/
def Colour.number : Colour → Nat
  | red => 31
  | green => 32
  | yellow => 33
  | blue => 34
  | cyan => 36

/-- The control sequence with a number. -/
def control (number : Nat) : String := "\x1b[" ++ toString number ++ "m"

/-- A text in a colour. -/
def Colour.paint (colour : Colour) (text : String) : String :=
  control colour.number ++ text ++ control 39

/-- A text in bold letters. -/
def bold (text : String) : String := control 1 ++ text ++ control 0

/-- A faint text. -/
def faint (text : String) : String := control 2 ++ text ++ control 0

/-- An underlined text. -/
def underlined (text : String) : String := control 4 ++ text ++ control 0

/-- Whether colours are used: never when they are switched off, else when they are asked for
or someone watches. -/
def usesColour (env : Environment) (plain watched : Bool) : Bool :=
  !plain && !env.has "NO_COLOR" && (env.has "FORCE_COLOR" || watched)

/-- The levels of status lines. -/
inductive Level where
  | success
  | info
  | warning
  | error
  deriving DecidableEq, Repr

namespace Level

/-- The sign of a level. -/
def sign : Level → String
  | success => "✓"
  | info => "ℹ"
  | warning => "⚠"
  | error => "✗"

/-- The colour of a level. -/
def colour : Level → Colour
  | success => .green
  | info => .blue
  | warning => .yellow
  | error => .red

/-- Whether the message is in the colour of the level, like its sign. -/
def tintsMessage : Level → Bool
  | success | info => false
  | warning | error => true

/-- A status line. -/
def line (level : Level) (coloured : Bool) (message : String) : String :=
  if coloured then
    bold (level.colour.paint level.sign) ++ " " ++
      (if level.tintsMessage then level.colour.paint message else message)
  else level.sign ++ " " ++ message

end Level

namespace Summary

/-- The line above and below the documents. -/
def rule : String := String.ofList (List.replicate 80 '─')

/-- A text with blanks at its end to fill a column. -/
def column (width : Nat) (text : String) : String :=
  String.ofList (text.toList.rightpad width ' ')

/-- A text with blanks at its start to fill a column. -/
def figure (width : Nat) (text : String) : String :=
  String.ofList (text.toList.leftpad width ' ')

/-- The line of a document: its name and the sizes of its bundles. -/
def entry (coloured : Bool) (e : DocumentReport) : String :=
  let name := column 30 (e.output.fileName?.getD e.output.text)
  let sizes :=
    "css " ++ figure 10 (sizeText e.cssBytes) ++ "  js " ++ figure 10 (sizeText e.jsBytes)
  if coloured then "  " ++ Colour.cyan.paint name ++ " " ++ faint sizes
  else "  " ++ name ++ " " ++ sizes

/-- The heading of the summary. -/
def heading (coloured : Bool) : String :=
  if coloured then underlined (bold "Bundle Summary") else "Bundle Summary"

/-- The lines of the summary of a run that took the given time. -/
def lines (coloured : Bool) (report : Report) (time : String) : List String :=
  ["", heading coloured, rule] ++ report.entries.map (entry coloured) ++
    [rule, "  " ++ toString report.entries.length ++ " entry points, " ++
      toString report.assetsCopied ++ " assets copied in " ++ time]

end Summary

end Pagefold.Command
