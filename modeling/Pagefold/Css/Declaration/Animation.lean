import Pagefold.Css.Declaration

/-!
# Animations

The parts of an animation may come in any order: each is taken for the first meaning that it
can have and that is not yet given. They are written in a fixed order, and a part with its usual
value is left out, unless the name of the keyframes could be mistaken for it.
-/
namespace Pagefold.Css

namespace AnimationName

/-- A name of keyframes. -/
def read : Reading AnimationName :=
  Reading.firstOf
    [do Reading.word "none"; pure none, return quoted (← Reading.quoted),
     return ident (← Reading.ownName)]

/-- How a name of keyframes is written in a declaration. A string keeps its quotes only when
it would be a word with another meaning without them. -/
def text : AnimationName → String
  | none => "none"
  | ident name => Literal.name name
  | quoted name =>
    if ("none" :: wideKeywords).contains (Text.lower name) then Literal.quoted name
    else Literal.name name

/-- The name itself. -/
def name? : AnimationName → Option String
  | none => Option.none
  | ident name => some name
  | quoted name => some name

end AnimationName

namespace Course

/-- The courses that have names. -/
def names : List String := ["linear", "ease", "ease-in", "ease-out", "ease-in-out"]

/-- The courses of one step that have names. -/
def stepNames : List String := ["step-start", "step-end"]

/-- The curves of the names: both coordinates of both points in hundredths. -/
def curves : List (String × List Nat) :=
  [("ease", [25, 10, 25, 100]), ("ease-in", [42, 0, 100, 100]), ("ease-out", [0, 0, 58, 100]),
   ("ease-in-out", [42, 0, 58, 100])]

/-- Where the jumps of steps may be, with the word that is kept. -/
def jumps : List (String × String) :=
  [("start", "start"), ("end", "end"), ("jump-start", "start"), ("jump-end", "end"),
   ("jump-none", "jump-none"), ("jump-both", "jump-both")]

/-- A course by its name. -/
def readName : Reading Course := do
  match ← Reading.wordOf (names ++ stepNames) with
  | "step-start" => pure (.steps 1 "start")
  | "step-end" => pure (.steps 1 "end")
  | name => pure (.named name)

/-- The two points of a curve. -/
def readCurve : Reading Course := do
  let x₁ ← Reading.number
  Reading.token .comma
  let y₁ ← Reading.number
  Reading.token .comma
  let x₂ ← Reading.number
  Reading.token .comma
  return .curve x₁ y₁ x₂ (← Reading.number)

/-- The number of steps and the place of the jumps, which is at the end if none is given. -/
def readSteps : Reading Course := do
  let count ← Reading.integer
  let place ← Reading.attempt do
    Reading.token .comma
    Reading.wordOf (jumps.map (·.1))
  return .steps count ((place.bind fun w => jumps.lookup w).getD "end")

/-- A course as a call. -/
def readCall : Reading Course := do
  let (name, content) ← Reading.call
  match Text.lower name with
  | "cubic-bezier" => Reading.within content readCurve
  | "steps" => Reading.within content readSteps
  | _ => Reading.refuse

/-- A course. -/
def read : Reading Course := Reading.firstOf [readName, readCall]

/-- The name that says the same as a curve. -/
def nameOfCurve? (points : List Number.Single) : Option String :=
  (curves.find? fun entry =>
    (entry.2.zip points).all fun (n, p) => (Number.Single.ofRatio false n 100).same p).map (·.1)

/-- How a course is written. -/
def text : Course → String
  | named name => name
  | curve x₁ y₁ x₂ y₂ =>
    let points := [x₁, y₁, x₂, y₂]
    match nameOfCurve? points with
    | some name => name
    | none => "cubic-bezier(" ++ ",".intercalate (points.map Number.Single.text) ++ ")"
  | steps 1 "start" => "step-start"
  | steps 1 "end" => "step-end"
  | steps count place => "steps(" ++ toString count ++ "," ++ place ++ ")"

end Course

namespace Animation

/-- The words for the direction of the runs. -/
def directions : List String := ["normal", "reverse", "alternate", "alternate-reverse"]

/-- The words for what holds before and after the runs. -/
def fills : List String := ["none", "forwards", "backwards", "both"]

/-- The words for whether the animation runs. -/
def plays : List String := ["running", "paused"]

/-- The directions along which something scrolls. -/
def axes : List String := ["block", "inline", "x", "y"]

/-- The number of runs; none is for ever. -/
def readRuns : Reading (Option Number.Single) :=
  Reading.firstOf [return some (← Reading.number), do Reading.word "infinite"; pure none]

/-- An extent or the word `auto`, as it is written. -/
def readExtentOrAuto : Reading String :=
  Reading.firstOf [do Reading.word "auto"; pure "auto", return (← Extent.read).text]

/-- The scroller and the axis of a timeline that follows scrolling. The usual ones are not
written. -/
def readScroll : Reading String := do
  let scroller ← Reading.attempt (Reading.wordOf ["root", "nearest", "self"])
  let axis ← Reading.attempt (Reading.wordOf axes)
  let late ←
    if scroller.isNone ∧ axis.isSome then
      Reading.attempt (Reading.wordOf ["root", "nearest", "self"])
    else pure none
  let scroller := (scroller <|> late).filter (· ≠ "nearest")
  let axis := axis.filter (· ≠ "block")
  return "scroll(" ++ " ".intercalate (scroller.toList ++ axis.toList) ++ ")"

/-- The insets of a timeline that follows visibility. -/
def readInset : Reading String := do
  let first ← readExtentOrAuto
  match ← Reading.attempt readExtentOrAuto with
  | some second => return if first = second then first else first ++ " " ++ second
  | none => return first

/-- The axis and the insets of a timeline that follows visibility. -/
def readView : Reading String := do
  let axis ← Reading.attempt (Reading.wordOf axes)
  let inset ← Reading.attempt readInset
  let late ←
    if axis.isNone ∧ inset.isSome then Reading.attempt (Reading.wordOf axes) else pure none
  let axis := (axis <|> late).filter (· ≠ "block")
  let inset := inset.filter (· ≠ "auto")
  return "view(" ++ " ".intercalate (axis.toList ++ inset.toList) ++ ")"

/-- What drives an animation, as it is written. -/
def readTimeline : Reading String :=
  Reading.firstOf
    [Reading.wordOf ["auto", "none"], return Literal.name (← Reading.dashedName),
     do Reading.within (← Reading.callOf "scroll") readScroll,
     do Reading.within (← Reading.callOf "view") readView]

/-- The parts of an animation that are given. -/
structure Slots where
  duration : Option Time := none
  course : Option Course := none
  delay : Option Time := none
  runs : Option (Option Number.Single) := none
  direction : Option String := none
  fill : Option String := none
  play : Option String := none
  name : Option AnimationName := none
  timeline : Option String := none

/-- A reading for a part that is not given yet. -/
def Slots.vacant {α : Type} (given : Option α) (r : Reading α) (put : α → Slots) :
    Reading Slots :=
  if given.isSome then Reading.refuse else return put (← r)

/-- One more part. -/
def Slots.step (s : Slots) : Reading Slots :=
  Reading.firstOf
    [vacant s.duration Time.read ({ s with duration := some · }),
     vacant s.course Course.read ({ s with course := some · }),
     vacant s.delay Time.read ({ s with delay := some · }),
     vacant s.runs readRuns ({ s with runs := some · }),
     vacant s.direction (Reading.wordOf directions) ({ s with direction := some · }),
     vacant s.fill (Reading.wordOf fills) ({ s with fill := some · }),
     vacant s.play (Reading.wordOf plays) ({ s with play := some · }),
     vacant s.name AnimationName.read ({ s with name := some · }),
     vacant s.timeline readTimeline ({ s with timeline := some · })]

/-- Parts as long as there are any; no more than nine are possible. -/
def Slots.fill? : Nat → Slots → Reading Slots
  | 0, s => pure s
  | n + 1, s => do
    match ← Reading.attempt s.step with
    | some s => fill? n s
    | none => pure s

/-- One animation. Parts that are not given have their usual values. -/
def read : Reading Animation := do
  let s ← Slots.fill? 9 {}
  let usual : Animation := {}
  return {
    duration := s.duration.getD usual.duration
    course := s.course.getD usual.course
    delay := s.delay.getD usual.delay
    runs := s.runs.getD usual.runs
    direction := s.direction.getD usual.direction
    fill := s.fill.getD usual.fill
    play := s.play.getD usual.play
    name := s.name.getD usual.name
    timeline := s.timeline.getD usual.timeline }

/-- Whether a name in any case of its letters is one of the words. -/
def isWord (words : List String) (name : String) : Bool := words.contains (Text.lower name)

/-- The parts of an animation in front of its name, as they are written. -/
def before (a : Animation) (name : String) : List String :=
  let part (written : String) (needed : Bool) : List String := if needed then [written] else []
  let isEase := a.course.text = "ease"
  let isOnce := a.runs.any (·.same (.ofNat 1))
  part a.duration.text (!a.duration.value.isZero || !a.delay.value.isZero) ++
    part a.course.text (!isEase || (Course.names ++ Course.stepNames).contains name) ++
    part a.delay.text (!a.delay.value.isZero) ++
    part ((a.runs.map Number.Single.text).getD "infinite") (!isOnce || name = "infinite") ++
    part a.direction (a.direction ≠ "normal" || isWord directions name) ++
    part a.fill (a.fill ≠ "none" || (!Text.sameLetters name "none" && isWord fills name)) ++
    part a.play (a.play ≠ "running" || isWord plays name)

/-- How an animation is written: its name comes last, but for what drives it. An animation
without a name is nothing else. -/
def text (a : Animation) : String :=
  match a.name.name? with
  | none => "none"
  | some name =>
    let after := if a.timeline = "auto" then [] else [a.timeline]
    " ".intercalate (a.before name ++ a.name.text :: after)

end Animation

namespace Content

/-- A list of animations. -/
def readAnimations : Reading Content :=
  return .animations (← Reading.commaSeparated Animation.read)

/-- A list of names of keyframes. -/
def readAnimationNames : Reading Content :=
  return .animationNames (← Reading.commaSeparated AnimationName.read)

end Content

end Pagefold.Css
