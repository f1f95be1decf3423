import Pagefold.Css.Calc

/-!
# Reading calculations

Sums of products of numbers and quantities in brackets, and the functions of calculations. Blanks
stand around the signs of sums. Each level of brackets is read by a reading of the next depth, so
that the depth of the brackets bounds all of them.
-/
namespace Pagefold.Css.Calc

open Number (Single)

/-! ## Functions of numbers -/

/-- A number rounded to a multiple of another one. -/
def rounded (strategy : String) (x step : Single) : Option Single := do
  let count ← x.div? step
  let whole := match strategy with
    | "up" => count.ceiling
    | "down" => count.floor
    | "to-zero" => count.towardZero
    | _ => count.nearestWhole
  pure (whole.mul step)

/-- What remains after whole multiples of a number; it has the sign of that number. -/
def modulo (x y : Single) : Option Single := do
  let rest ← x.rem? y
  (rest.add y).rem? y

/-- The root of the sum of some squares, if they can be put together. -/
def hypot? : List Calc → Option Calc
  | [] => none
  | first :: rest => do
    let square (c : Calc) : Option Calc := combine? (fun x y => some (x.mul y)) c c
    let total ← rest.foldlM (fun sum c => do
      combine? (fun x y => some (x.add y)) sum (← square c)) (← square first)
    match total with
    | value q => (q.value.sqrt?).map fun root => .value (q.map fun _ => root)
    | number x => x.sqrt?.map .number
    | _ => none

/-- The words for numbers. -/
def constant? (word : String) : Option Single :=
  match Text.lower word with
  | "e" => some (.ofRatio false 2718281828459045 1000000000000000)
  | "pi" => some (.ofRatio false 3141592653589793 1000000000000000)
  | _ => none

/-- A function of one number. -/
def curve? (name : String) (x : Single) : Option Single :=
  match name with
  | "sqrt" => x.sqrt?
  | "exp" => x.exp?
  | "sin" => some (x.through .sin)
  | "cos" => some (x.through .cos)
  | "tan" =>
    let angle := Number.Fine.ofSingle x
    let cosine := angle.cos
    if cosine = 0 then none else some (Number.Fine.div angle.sin cosine).toSingle
  | _ => none

/-- The angle in radians whose sine, cosine or tangent is a number. -/
def arc? (name : String) (x : Single) : Option Single :=
  let inside := !(Single.one.below x.abs)
  match name with
  | "asin" => if inside then some (x.through .asin) else none
  | "acos" =>
    if inside then
      some (x.through fun x => (Number.Fine.quarterTurn : Int) - (Number.Fine.asin x : Int))
    else none
  | "atan" => some (x.through .atan)
  | _ => none

/-- An angle in radians, or a number of them. -/
def radians? : Calc → Option Single
  | number x => some x
  | value (.angle a) =>
    if a.unit = "rad" then some a.value
    else some (a.degrees.mul (.ofRatio false 314159265359 18000000000000))
  | _ => none

/-- The angle of a point, where both distances are numbers or quantities of one kind. -/
def atan2? : Calc → Calc → Option Single
  | number y, number x => some (y.atan2 x).toSingle
  | value p, value q =>
    (Quantity.combine? (fun y x => some (y.atan2 x).toSingle) p q).map (·.value)
  | _, _ => none

/-! ## Brackets -/

/-- What a calculation may be made of: quantities of some kinds, and words for numbers. -/
structure Terms where
  kinds : List QuantityKind
  word? : String → Option Single := fun _ => none

/-- What may stand in a sum whose result is a number of radians. -/
def Terms.angular (t : Terms) : Terms := { t with kinds := [.angle] }

/-- What may stand in a sum whose result is a number. -/
def Terms.numeric (t : Terms) : Terms := { t with kinds := [] }

/-- Takes a part at the front that is a blank, if one is there. -/
def blank : Reading Bool := do
  match (← get).dropWhile Part.isComment with
  | p :: rest =>
    if p.isSpace then do
      set rest
      pure true
    else pure false
  | [] => pure false

/-- Factors with their operators. The bound is on their number. -/
def productFrom (factor : Reading Calc) : Nat → Calc → Reading Calc
  | 0, c => pure c
  | n + 1, c => do
    let operator : Reading Bool := do
      let p ← Reading.next
      if p.is (.delim '*') then pure true
      else if p.is (.delim '/') then pure false
      else Reading.refuse
    match ← Reading.attempt operator with
    | none => pure c
    | some true =>
      match c, ← factor with
      | c, number x => productFrom factor n (c.times x)
      | number x, d => productFrom factor n (d.times x)
      | _, _ => Reading.refuse
    | some false =>
      match ← factor with
      | number x => productFrom factor n (c.times (← Reading.orRefuse (Single.one.div? x)))
      | _ => Reading.refuse

/-- Products with their signs, around which blanks stand. The bound is on their number. -/
def sumFrom (product : Reading Calc) : Nat → Calc → Reading Calc
  | 0, c => pure c
  | n + 1, c => do
    if !(← blank) then pure c
    else if ← Reading.atEnd then pure c
    else
      let p ← Reading.next
      if p.is (.delim '+') then sumFrom product n (c.add (← product))
      else if p.is (.delim '-') then
        sumFrom product n (c.add ((← product).times Single.one.neg))
      else Reading.refuse

/-- A sum of products of the given factors. -/
def sumOf (factor : Reading Calc) : Reading Calc := do
  let bound := (← get).length
  let product : Reading Calc := do productFrom factor bound (← factor)
  sumFrom product bound (← product)

/-- A number, and nothing that is left to calculate. -/
def asNumber : Calc → Reading Single
  | number x => pure x
  | _ => Reading.refuse

/-- What two arguments make, or the call of a function where they cannot be put together. -/
def ofTwo (f : CalcFunction) (op : Single → Single → Option Single) : List Calc → Reading Calc
  | [a, b] => pure ((combine? op a b).getD (.call f [a, b]))
  | _ => Reading.refuse

/-- An angle of so many radians, where angles may stand. -/
def ofRadians (t : Terms) (x : Option Single) : Reading Calc := do
  if t.kinds.contains .angle then return .value (.angle ⟨← Reading.orRefuse x, "rad"⟩)
  else Reading.refuse

/-- A call by its name in small letters, where `sum` reads the sums in its arguments. -/
def callOf (sum : Terms → Reading Calc) (t : Terms) (name : String) (content : List Part) :
    Reading Calc := do
  let arguments (t : Terms) : Reading (List Calc) :=
    Reading.within content (Reading.commaSeparated (sum t))
  let argument (t : Terms) : Reading Calc := Reading.within content (sum t)
  match name with
  | "calc" =>
    match ← argument t with
    | value q => pure (.value q)
    | number x => pure (.number x)
    | c => pure (.call .calc [c])
  | "min" =>
    match reduced .lt (← arguments t) with
    | [c] => pure c
    | found => pure (.call .min found)
  | "max" =>
    match reduced .gt (← arguments t) with
    | [c] => pure c
    | found => pure (.call .max found)
  | "clamp" =>
    match ← arguments t with
    | [least, center, greatest] => pure (clamped least center greatest)
    | _ => Reading.refuse
  | "round" =>
    let (strategy, found) ← Reading.within content do
      let strategy ← Reading.attempt do
        let word ← Reading.wordOf ["nearest", "up", "down", "to-zero"]
        Reading.token .comma
        pure word
      return (strategy.getD "nearest", ← Reading.commaSeparated (sum t))
    ofTwo (.round strategy) (rounded strategy) found
  | "rem" => do ofTwo .rem (fun x y => x.rem? y) (← arguments t)
  | "mod" => do ofTwo .mod modulo (← arguments t)
  | "hypot" =>
    let found ← arguments t
    pure ((hypot? found).getD (.call .hypot found))
  | "abs" =>
    let c ← argument t
    pure ((c.map? Single.abs).getD (.call .abs [c]))
  | "sign" =>
    let c ← argument t
    match (c.map? Single.sign).bind front? with
    | some x => pure (.number x)
    | none => pure (.call .sign [c])
  | "pow" =>
    match ← arguments t.numeric with
    | [number x, number y] => return .number (← Reading.orRefuse (x.pow? y))
    | _ => Reading.refuse
  | "log" =>
    match ← arguments t.numeric with
    | [number x] => return .number (← Reading.orRefuse x.log?)
    | [number x, number y] =>
      let top ← Reading.orRefuse x.log?
      let bottom ← Reading.orRefuse y.log?
      return .number (← Reading.orRefuse (top.div? bottom))
    | _ => Reading.refuse
  | "sqrt" | "exp" =>
    let x ← asNumber (← argument t.numeric)
    return .number (← Reading.orRefuse (curve? name x))
  | "sin" | "cos" | "tan" =>
    let x ← Reading.orRefuse (radians? (← argument t.angular))
    return .number (← Reading.orRefuse (curve? name x))
  | "asin" | "acos" | "atan" =>
    let x ← asNumber (← argument t.numeric)
    ofRadians t (arc? name x)
  | "atan2" =>
    match ← arguments { t with kinds := [.length, .share, .angle, .time] } with
    | [a, b] => ofRadians t (atan2? a b)
    | _ => Reading.refuse
  | _ => Reading.refuse

/-- What stands between operators, where `sum` reads what is in brackets. -/
def factorOf (sum : Terms → Reading Calc) (t : Terms) : Reading Calc := do
  let p ← Reading.next
  match p.call?, p.content? '(', p.number?, p.ident? with
  | some (name, content), _, _, _ =>
    match ← callOf sum t (Text.lower name) content with
    | call .calc [c] => pure c
    | c => pure c
  | none, some content, _, _ => Reading.within content (sum t)
  | none, none, some n, _ => pure (.number n.value)
  | none, none, none, some word =>
    return .number (← Reading.orRefuse (constant? word <|> t.word? word))
  | none, none, none, none => return .value (← Reading.orRefuse (Quantity.ofPart? t.kinds p))

/-- A sum with brackets up to a depth. -/
def sumUpTo : Nat → Terms → Reading Calc
  | 0, _ => Reading.refuse
  | n + 1, t => sumOf (factorOf (sumUpTo n) t)

/-- A calculation that a part is. -/
def ofPart (t : Terms) (p : Part) : Reading Calc := do
  let (name, content) ← Reading.orRefuse p.call?
  callOf (sumUpTo p.size) t (Text.lower name) content

/-- A calculation of quantities of some kinds. -/
def read (kinds : List QuantityKind) : Reading Calc := do ofPart { kinds } (← Reading.next)

/-- A calculation of numbers in which some words stand for numbers. -/
def readNumber (word? : String → Option Single) : Reading Single := do
  asNumber (← ofPart { kinds := [], word? } (← Reading.next))

end Pagefold.Css.Calc
