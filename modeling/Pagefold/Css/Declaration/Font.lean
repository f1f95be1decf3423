import Pagefold.Css.Declaration
import Pagefold.Css.Declaration.Property

/-!
# Fonts

Font families and what else is said about a font, alone and together, and the descriptors of a
font that is brought along. A family is written without quotes where that is shorter and says the
same, weights are written as numbers and widths as shares.
-/
namespace Pagefold.Css.Font

/-- Generic font families, which are words and no names. -/
def genericFamilies : List String :=
  ["serif", "sans-serif", "cursive", "fantasy", "monospace", "system-ui", "emoji", "math",
   "fangsong", "ui-serif", "ui-sans-serif", "ui-monospace", "ui-rounded"]

/-- Words that are no names of families: the generic ones, and those that stand for a value of
any property. -/
def isWord (small : String) : Bool :=
  genericFamilies.contains small || wideKeywords.contains small

/-- The name of a family as it is written. -/
def familyText (name : String) : String :=
  let names := (Text.pieces (· == ' ') name.toList).map String.ofList
  let bare := " ".intercalate (names.map Literal.name)
  if isWord (Text.lower name) || names.contains "" || name.utf8ByteSize + 2 ≤ bare.utf8ByteSize then
    Literal.quoted name
  else bare

/-- The name of a family: a string, or names with blanks between them. -/
def readName : Reading String :=
  Reading.firstOf
    [Reading.quoted,
     do
      let first ← Reading.ident
      let rest ← Reading.many Reading.ident (← get).length
      return " ".intercalate (first :: rest)]

/-- A family, as it is written. -/
def readFamily : Reading Value := do
  let generic : Reading String := do
    let small := Text.lower (← Reading.ident)
    if isWord small then pure small else Reading.refuse
  match ← Reading.attempt generic with
  | some small => return .word small
  | none => return .word (familyText (← readName))

/-- A list of families. -/
def readFamilies : Reading Value := return .listed (← Reading.commaSeparated readFamily)

/-! ## Parts of a font -/

/-- A weight of a font. -/
def readWeight : Reading Value :=
  Reading.firstOf
    [return .word (← Reading.number).text, .keyword ["normal", "bold", "bolder", "lighter"]]

/-- How a weight is written: the words for weights that are numbers as these. -/
def weightValue (v : Value) : Value :=
  if v = .word "normal" then .word "400" else if v = .word "bold" then .word "700" else v

/-- The words for widths of fonts, with the shares that they stand for in thousandths. -/
def widths : List (String × Nat) :=
  [("normal", 1000), ("ultra-condensed", 500), ("extra-condensed", 625), ("condensed", 750),
   ("semi-condensed", 875), ("semi-expanded", 1125), ("expanded", 1250), ("extra-expanded", 1500),
   ("ultra-expanded", 2000)]

/-- A width of a font by a word. -/
def readWidthWord : Reading Value := do
  return .word (shareText (.ofRatio false (← Reading.wordIn widths) 1000))

/-- A width of a font. -/
def readWidth : Reading Value :=
  Reading.firstOf [readWidthWord, return .word (shareText (← Reading.percentage))]

/-- An angle that letters lean by; the usual one is not written. -/
def slantText (angles : List Angle) : String :=
  let usual (a : Angle) : Bool := a.text = "14deg"
  if angles.all usual then "oblique" else " ".intercalate ("oblique" :: angles.map Angle.text)

/-- A style of a font. -/
def readStyle : Reading Value := do
  match ← Reading.wordOf ["normal", "italic", "oblique"] with
  | "oblique" => return .word (slantText (← Reading.attempt Angle.read).toList)
  | word => pure (.word word)

/-- A style that a font is brought along for, which may be a range of angles. -/
def readStyles : Reading Value := do
  match ← Reading.wordOf ["normal", "italic", "oblique"] with
  | "oblique" =>
    let first ← Reading.attempt Angle.read
    let second ← if first.isSome then Reading.attempt Angle.read else pure none
    let angles := first.toList ++ (second.filter fun a => some a.text ≠ first.map Angle.text).toList
    return .word (slantText angles)
  | word => pure (.word word)

/-- The sizes of fonts that are words. -/
def sizes : List String := Property.words
  ["xx-small x-small small medium large x-large xx-large xxx-large smaller larger"]

/-- A size of a font. -/
def readSize : Reading Value :=
  Reading.firstOf [return .word (← Extent.read).text, .keyword sizes]

/-- The forms of capital letters that older fonts know. -/
def oldCaps : List String := ["normal", "small-caps"]

/-- A form of capital letters. -/
def readCaps : Reading Value := .keyword (oldCaps ++ Property.words
  ["all-small-caps petite-caps all-petite-caps unicase titling-caps"])

/-- A height of lines. -/
def readHeight : Reading Value :=
  Reading.firstOf
    [.keyword ["normal"], return .word (← Reading.number).text, return .word (← Extent.read).text]

/-- The properties of a font in the order of their writing. -/
def properties : List String :=
  ["font-style", "font-variant-caps", "font-weight", "font-stretch", "font-size", "line-height",
   "font-family"]

/-- What stands in front of the size of a font. The word `normal` may stand for any of it, and no
more than four words are possible. The bound is on the number of words. -/
def readFront : Nat → List (Option Value) → Nat → Reading (List (Option Value))
  | 0, found, count => if 4 < count then Reading.refuse else pure found
  | n + 1, found, count => do
    match ← Reading.attempt (Reading.word "normal") with
    | some () => readFront n found (count + 1)
    | none =>
      let rs := [readStyle, readWeight, .keyword oldCaps, readWidthWord]
      match ← Reading.attempt (Reading.fillOne (rs.zip found)) with
      | some slots => readFront n (slots.map (·.2)) (count + 1)
      | none => if 4 < count then Reading.refuse else pure found

/-- What is said about a font, in the order of its properties. -/
def readAll : Reading (List (List Value)) := do
  match ← readFront (← get).length [none, none, none, none] 0 with
  | [style, weight, caps, width] =>
    let size ← readSize
    let height ← match ← Reading.attempt (Reading.delim '/') with
      | some () => readHeight
      | none => pure (.word "normal")
    let families ← Reading.commaSeparated readFamily
    let normal : Value := .word "normal"
    pure [[style.getD normal], [caps.getD normal], [weight.getD normal],
      [width.getD (.word "100%")], [size], [height], families]
  | _ => Reading.refuse

/-- How a font is written, without what is usual. Newer forms of capital letters have no place
in it. -/
def fontValue? : List (List Value) → Option Value
  | [[style], [caps], [weight], [width], [size], [height], families] =>
    if !oldCaps.contains caps.text then none
    else
      let part (v : Value) (usual : String) : List Value := if v = .word usual then [] else [v]
      let front := part style "normal" ++ part caps "normal" ++
        (part weight "normal").map weightValue ++ part width "100%"
      let sized := if height = .word "normal" then size else size ++ .text "/" :: height
      some (.spaced (front ++ [sized, .listed families]))
  | _ => none

/-- The property for a font in all its parts. -/
def shorthand : Shorthand := .of "font" properties readAll fontValue?

/-! ## Descriptors -/

/-- The formats of font files. -/
def formats : List String :=
  ["woff", "woff2", "truetype", "opentype", "embedded-opentype", "collection", "svg"]

/-- What a font file may ask for. -/
def techniques : List String := Property.words
  ["features-opentype features-aat features-graphite color-colrv0 color-colrv1 color-svg",
   "color-sbix color-cbdt variations palettes incremental"]

/-- The format of a font file, which is written as a string. -/
def readFormat : Reading String := do
  let name ← Reading.identOrQuoted
  let small := Text.lower name
  return "format(" ++ Literal.quoted (if formats.contains small then small else name) ++ ")"

/-- What a font file asks for. -/
def readTechniques : Reading String := do
  let words ← Reading.commaSeparated (Reading.wordOf techniques)
  return "tech(" ++ ",".intercalate words ++ ")"

/-- The address of a font file, with what is said about the file. -/
def readFile : Reading Value := do
  let link ← Reading.link
  let described (name : String) (r : Reading String) : Reading String := do
    match ← Reading.attempt (Reading.callOf name) with
    | some content => Reading.within content r
    | none => pure ""
  let format ← described "format" readFormat
  let techniques ← described "tech" readTechniques
  return [.url link, .text (format ++ techniques)]

/-- Where a font comes from: a file, or a family that is at hand. -/
def readSource : Reading Value := do
  match ← Reading.attempt readFile with
  | some file => pure file
  | none => do
    let family ← Reading.within (← Reading.callOf "local") readFamily
    return .text "local(" :: family ++ [.text ")"]

/-- The places that a font comes from, in order. -/
def readSources : Reading Value := return .listed (← Reading.commaSeparated readSource)

/-- One thing, or the first and the last one of a range, each as `shown` writes it. -/
def readRange (one : Reading Value) (shown : Value → Value) : Reading Value := do
  let least ← one
  match ← Reading.attempt one with
  | some greatest =>
    return if least = greatest then shown least else .spaced [shown least, shown greatest]
  | none => return shown least

/-- A code point in base sixteen. -/
def codeText (code : Nat) : String := String.ofList ((Nat.toDigits 16 code).map Char.toUpper)

/-- How a range of code points is written: with open digits if it holds all codes that start with
some digits. The bound is on the number of open digits. -/
def codesText (first last : Nat) : String :=
  let opened? (n : Nat) : Option String :=
    let size := Nat.pow 16 n
    if first % size = 0 ∧ first + size = last + 1 then
      some ((if first / size = 0 then "" else codeText (first / size)) ++
        String.ofList (List.replicate n '?'))
    else none
  if first = last then "U+" ++ codeText first
  else
    "U+" ++ (([1, 2, 3, 4, 5, 6].findSome? opened?).getD (codeText first ++ "-" ++ codeText last))

/-- A code point that digits stand for. -/
def code? (digits : List Char) : Option Nat :=
  if digits.isEmpty || 6 < digits.length || !digits.all Token.isHexDigit then none
  else some (digits.foldl (fun n c => n * 16 + Token.hexDigit c) 0)

/-- The range of code points that a text describes: one of them, the first and the last one, or
digits of which some are left open. -/
def codes? (s : List Char) : Option (Nat × Nat) := do
  let u :: '+' :: rest := s | none
  if u ≠ 'u' ∧ u ≠ 'U' then none
  let known := rest.takeWhile Token.isHexDigit
  let (first, last) ← match rest.drop known.length with
    | [] => do
      let n ← code? known
      pure (n, n)
    | '-' :: last => return (← code? known, ← code? last)
    | gaps => do
      if !gaps.all (· == '?') then none
      return (← code? (known ++ gaps.map fun _ => '0'), ← code? (known ++ gaps.map fun _ => 'f'))
  if last < first ∨ 0x10ffff < last then none
  pure (first, last)

/-- A range of code points. -/
def readCodes : Reading Value := do
  let parts := Part.trim (← Reading.takeAll)
  let (first, last) ← Reading.orRefuse (codes? (Part.textOf parts))
  return .word (codesText first last)

/-- The reading for a descriptor of a font, by its name in small letters. -/
def descriptor? (name : String) : Option (Reading Value) :=
  match name with
  | "src" => some readSources
  | "font-family" => some readFamily
  | "font-style" => some readStyles
  | "font-weight" => some (readRange readWeight weightValue)
  | "font-stretch" => some (readRange readWidth id)
  | "unicode-range" => some do
    return .listed (← Reading.commaSeparated readCodes)
  | _ => none

end Pagefold.Css.Font
