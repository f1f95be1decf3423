import Pagefold.Css.Paint

/-!
# Values

A value is what its parts say, in the order in which they say it: runs of blanks become one
blank each, comments nothing, and numbers, colours and names take their shortest form. The
addresses of files stay apart from other text, so that they can be replaced.
-/
namespace Pagefold.Css

/-- A piece of a value. -/
inductive Piece where
  | blank
  | text (written : String)
  | url (link : String)
  deriving DecidableEq, Repr

/-- A value, as the pieces that it is written with. -/
abbrev Value := List Piece

namespace Piece

/-- How a piece is written. -/
def written : Piece → String
  | blank => " "
  | text s => s
  | url link => Literal.url link

/-- Whether a piece is a blank. -/
def isBlank : Piece → Bool
  | blank => true
  | _ => false

/-- The piece that a token stands for, unless the token is an error. -/
def ofToken (t : Token) : Option Piece :=
  match t.kind with
  | .blank => some blank
  | .comment _ => some (text "")
  | .ident name => some (text (Literal.name name))
  | .atWord name => some (text ("@" ++ Literal.name name))
  | .hash name _ =>
    match Color.ofDigits? name.toList with
    | some c => some (text c.text)
    | none => some (text ("#" ++ String.ofList (Literal.nameRest name.toList)))
  | .quoted content => some (text (Literal.quoted content))
  | .url link => some (url link)
  | .number n => some (text n.value.text)
  | .percentage n => some (text (exactText n (n.value.times 100 1) ++ "%"))
  | .dimension n unit => some (text (quantityText n.value unit))
  | .delim c => some (text (String.singleton c))
  | .test c => some (text (String.ofList [c, '=']))
  | .colon => some (text ":")
  | .semicolon => some (text ";")
  | .comma => some (text ",")
  | .markupComment => some (text (String.ofList t.text))
  | .call _ | .opening _ | .closing _ | .bad => none

end Piece

namespace Value

/-- A value without one blank at each end, unless it is a single piece. -/
def trim (v : Value) : Value :=
  match v with
  | [] | [_] => v
  | first :: rest =>
    let v := if first.isBlank then rest else v
    if v.getLast?.any Piece.isBlank then v.dropLast else v

/-- The closing bracket of an opening one. -/
def closing (c : Char) : String := if c = '(' then ")" else if c = '[' then "]" else "\x7d"

/-- The name of a variable at the front of the arguments of `var`, and the parts after the comma
that may follow it. -/
def customName? (content : List Part) : Option (String × Option (List Part)) :=
  match Part.skipSpace content with
  | p :: rest =>
    match p.ident?, Part.skipSpace rest with
    | some name, [] => if name.startsWith "--" then some (name, none) else none
    | some name, q :: fallback =>
      if name.startsWith "--" ∧ q.is .comma then some (name, some fallback) else none
    | none, _ => none
  | [] => none

/-- The address that is the one string in the arguments of `url`. -/
def link? (content : List Part) : Option String :=
  match content.filter (!·.isSpace) with
  | [p] => p.quoted?
  | _ => none

/-- A name of the surroundings and its numbers at the front of the arguments of `env`, as they are
written, and the parts after the comma that may follow them. -/
def surroundings : Reading (String × Option (List Part)) := do
  let name ← Reading.ident
  let numbers ← Reading.many Reading.integer (← get).length
  let written := " ".intercalate (Literal.name name :: numbers.map toString)
  if ← Reading.atEnd then return (written, none)
  Reading.token .comma
  return (written, some (← Reading.takeAll))

/-- The arguments of a call by its name in small letters, if they describe a colour of which not
everything is known: texts as they are written, and parts that are values of their own. -/
def openColor (name : String) : Reading (List (String ⊕ List Part)) := do
  match name with
  | "rgb" =>
    let c : Reading String := do
      let share ← Reading.orRefuse (← Paint.readLight [])
      pure (share.mul (.ofNat 255)).nearestWhole.text
    let red ← c
    let green ← c
    let blue ← c
    Reading.delim '/'
    return [.inl ("rgb(" ++ " ".intercalate [red, green, blue] ++ "/"),
      .inr (← Reading.takeAll), .inl ")"]
  | "hsl" =>
    let hue ← Reading.orRefuse (← Paint.readHue [])
    let second ← Reading.orRefuse (← Paint.readShare [] 100)
    let third ← Reading.orRefuse (← Paint.readShare [] 100)
    Reading.delim '/'
    return [.inl ("hsl(" ++ " ".intercalate [hue.text, shareText second, shareText third] ++ "/"),
      .inr (← Reading.takeAll), .inl ")"]
  | "light-dark" =>
    let (light, rest) := Part.before (·.is .comma) (← get)
    if rest.isEmpty then Reading.refuse
    set ([] : List Part)
    return [.inl "light-dark(", .inr light, .inl ",", .inr (rest.drop 1), .inl ")"]
  | _ => Reading.refuse

/-- The pieces of a part with brackets up to a depth; a part that is an error has none. -/
def ofPartUpTo : Nat → Part → Option Value
  | _, .token t => (Piece.ofToken t).map ([·])
  | 0, .block .. => none
  | n + 1, .block o content _ => do
    let all (parts : List Part) : Option Value := (parts.mapM (ofPartUpTo n)).map List.flatten
    let fallback (head : String) (rest : Option (List Part)) : Option Value :=
      match rest with
      | none => some [.text (head ++ ")")]
      | some rest => do
        return .text (head ++ ",") :: trim (← all rest) ++ [.text ")"]
    match o.kind with
    | .call name =>
      match Paint.ofCall? name content with
      | some p => pure [.text p.text]
      | none =>
        match ((openColor (Text.lower name)).whole content).toOption with
        | some items =>
          let item : String ⊕ List Part → Option Value
            | .inl written => some [.text written]
            | .inr parts => (all parts).map trim
          (items.mapM item).map List.flatten
        | none =>
          if name = "url" then (link? content).map fun link => [.url link]
          else if name = "var" then
            let (own, rest) ← customName? content
            fallback ("var(" ++ Literal.name own) rest
          else if name = "env" then
            let (head, rest) ← (surroundings.whole content).toOption
            fallback ("env(" ++ head) rest
          else return .text (Literal.name name ++ "(") :: trim (← all content) ++ [.text ")"]
    | .opening c => return .text (String.singleton c) :: (← all content) ++ [.text (closing c)]
    | _ => none

/-- The pieces of a part; a part that is an error has none. -/
def ofPart (p : Part) : Option Value := ofPartUpTo p.size p

/-- The pieces of some parts. -/
def ofParts (parts : List Part) : Option Value :=
  (parts.mapM (ofPartUpTo (Part.sizeOfAll parts))).map List.flatten

/-- The value that parts stand for. -/
def ofAll? (parts : List Part) : Option Value := (ofParts parts).map trim

/-- All parts that are left, as a value. -/
def read : Reading Value := do Reading.orRefuse (ofAll? (← Reading.takeAll))

/-- A call of `env`, as it is written. -/
def readSurroundings : Reading String := do
  let (head, fallback) ← Reading.within (← Reading.callOf "env") surroundings
  match fallback with
  | none => pure ("env(" ++ head ++ ")")
  | some parts =>
    let value ← Reading.orRefuse (ofAll? parts)
    pure ("env(" ++ head ++ "," ++ "".intercalate (value.map Piece.written) ++ ")")

/-- A token as it is written where nothing is known about its use, unless it is an error. -/
def exactToken (t : Token) : Option String :=
  match t.kind with
  | .hash name _ => some ("#" ++ String.ofList (Literal.nameRest name.toList))
  | .number n => some (exactText n n.value)
  | .dimension n unit => some (exactText n n.value ++ unitText unit)
  | _ => (Piece.ofToken t).map Piece.written

mutual

/-- A part as it is written where nothing is known about its use. -/
def exactPart : Part → Option String
  | .token t => exactToken t
  | .block o content _ => do
    let inner ← exactParts content
    match o.kind with
    | .call name => pure (Literal.name name ++ "(" ++ inner ++ ")")
    | .opening c => pure (String.singleton c ++ inner ++ closing c)
    | _ => none

/-- Parts as they are written where nothing is known about their use. -/
def exactParts : List Part → Option String
  | [] => some ""
  | p :: rest => do
    let written ← exactPart p
    let more ← exactParts rest
    pure (written ++ more)

end

/-- A value of one word. -/
def word (written : String) : Value := [.text written]

/-- How a value is written. -/
def text (v : Value) : String := "".intercalate (v.map Piece.written)

/-- The addresses in a value, in order. -/
def urls (v : Value) : List String :=
  v.filterMap fun
    | .url link => some link
    | _ => none

/-- A value with its addresses replaced. -/
def mapUrls (f : String → String) (v : Value) : Value :=
  v.map fun
    | .url link => .url (f link)
    | p => p

/-- Values with a blank between neighbours. -/
def spaced (vs : List Value) : Value := (vs.intersperse [.text " "]).flatten

/-- Two values with a blank between them, of which the second is not needed if it is the same. -/
def pair (first second : Value) : Value := if first = second then first else spaced [first, second]

/-- Values with a comma between neighbours. -/
def listed (vs : List Value) : Value := (vs.intersperse [.text ","]).flatten

end Value

namespace Reading

/-- What is read, as a value of one word. -/
def valued (r : Reading String) : Reading Value := return .word (← r)

/-- A word out of a list, as a value. -/
def keyword (words : List String) : Reading Value := valued (wordOf words)

end Reading

end Pagefold.Css
