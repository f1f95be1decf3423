import Pagefold.Css.Declaration
import Pagefold.Css.Declaration.Animation
import Pagefold.Css.Declaration.Property

/-!
# Transitions

Which properties change gradually, how long it takes, when it starts and which course it takes.
What is said about each is a list; lists that are shorter than the list of properties are repeated.
-/
namespace Pagefold.Css

/-- One transition of a property. -/
structure Transition where
  property : String := "all"
  duration : Time := ⟨.zero, false⟩
  course : Course := .named "ease"
  delay : Time := ⟨.zero, false⟩

namespace Transition

/-- The name of a property that changes. -/
def readProperty : Reading String := do
  return Literal.name (Property.canonical (← Reading.ident))

/-- What the parts of a transition are. -/
inductive Item where
  | time (t : Time)
  | course (c : Course)
  | property (name : String)

/-- A transition: the first time is the duration, and the second one the delay. -/
def read : Reading Transition := do
  let time : Reading Item := return .time (← Time.read)
  let found ← Reading.anyOrder
    [time, return .course (← Course.read), time, return .property (← readProperty)]
  let usual : Transition := {}
  let step (t : Transition) (entry : Option Item × Nat) : Transition :=
    match entry with
    | (some (.time value), 0) => { t with duration := value }
    | (some (.time value), _) => { t with delay := value }
    | (some (.course c), _) => { t with course := c }
    | (some (.property name), _) => { t with property := name }
    | (none, _) => t
  pure (found.zipIdx.foldl step usual)

/-- How a transition is written, without what is usual. -/
def text (t : Transition) : String :=
  let duration :=
    if t.duration.value.isZero && t.delay.value.isZero then [] else [t.duration.text]
  let course := if t.course.text = "ease" then [] else [t.course.text]
  let delay := if t.delay.value.isZero then [] else [t.delay.text]
  " ".intercalate (t.property :: duration ++ course ++ delay)

/-- The properties of transitions in the order of writing. -/
def properties : List String :=
  ["transition-property", "transition-duration", "transition-delay", "transition-timing-function"]

/-- The transition that some values describe. -/
def ofSaid? (property duration delay course : Value) : Option Transition := do
  let read {α : Type} (r : Reading α) (v : Value) : Option α :=
    (r.whole (Part.list v.text.toList)).toOption
  pure {
    property := property.text
    duration := ← read Time.read duration
    delay := ← read Time.read delay
    course := ← read Course.read course }

/-- The value of a list that is repeated as often as needed at a place. -/
def cycled (values : List Value) (n : Nat) : Option Value := values[n % values.length]?

/-- The property for transitions in all their parts. -/
def shorthand : Shorthand :=
  .of "transition" properties
    (do
      let list ← Reading.commaSeparated read
      return [list.map fun t => .word t.property, list.map fun t => .word t.duration.text,
        list.map fun t => .word t.delay.text, list.map fun t => .word t.course.text])
    fun
    | [properties, durations, delays, courses] => do
      let list ← properties.zipIdx.mapM fun (property, n) => do
        ofSaid? property (← cycled durations n) (← cycled delays n) (← cycled courses n)
      pure (.listed (list.map fun t => .word t.text))
    | _ => none

end Transition

namespace Animation

/-- The properties of animations in the order of writing, each with what an animation says about
it. -/
def details : List (String × (Animation → String)) :=
  [("animation-name", fun a => a.name.text), ("animation-duration", fun a => a.duration.text),
   ("animation-timing-function", fun a => a.course.text),
   ("animation-iteration-count", fun a => (a.runs.map Number.Single.text).getD "infinite"),
   ("animation-direction", fun a => a.direction), ("animation-play-state", fun a => a.play),
   ("animation-delay", fun a => a.delay.text), ("animation-fill-mode", fun a => a.fill),
   ("animation-timeline", fun a => a.timeline)]

/-- What some animations say about each of their properties. -/
def columns (list : List Animation) : List Said :=
  details.map fun (property, detail) => ⟨property, list.map fun a => .word (detail a)⟩

/-- The animation that some values describe. -/
def ofSaid? : List Value → Option Animation
  | [name, duration, course, runs, direction, play, delay, fill, timeline] => do
    let read {α : Type} (r : Reading α) (v : Value) : Option α :=
      (r.whole (Part.list v.text.toList)).toOption
    pure {
      name := ← read AnimationName.read name
      duration := ← read Time.read duration
      course := ← read Course.read course
      runs := ← read readRuns runs
      direction := direction.text
      play := play.text
      delay := ← read Time.read delay
      fill := fill.text
      timeline := timeline.text }
  | _ => none

/-- The property for animations in all their parts. -/
def shorthand : Shorthand :=
  .of "animation" (details.map (·.1))
    (return (columns (← Reading.commaSeparated read)).map (·.values))
    fun said => do
      let names ← said.head?
      if !said.all (·.length == names.length) then none
      let list ← (List.range names.length).mapM fun n =>
        ofSaid? (said.map fun values => (values[n]?).getD [])
      pure (.listed (list.map fun a => .word a.text))

/-- The names of stretches of a timeline. -/
def stretches : List String :=
  ["cover", "contain", "entry", "exit", "entry-crossing", "exit-crossing"]

/-- One end of the stretch of a timeline that an animation takes: the name of the stretch, if it has
one, and how the end is written. A distance that is usual for a stretch with a name is left out. -/
def readEnd (usual : Extent) : Reading (Option String × String) :=
  Reading.firstOf
    [do Reading.word "normal"; pure (none, "normal"),
     do
      let e ← Extent.read
      pure (none, e.text),
     do
      let name ← Reading.wordOf stretches
      match ← Reading.attempt Extent.read with
      | some e => pure (some name, if e.same usual then name else name ++ " " ++ e.text)
      | none => pure (some name, name)]

/-- The start of the stretch that an animation takes. -/
def readStart : Reading (Option String × String) := readEnd (.share .zero)

/-- The end of the stretch that an animation takes. -/
def readStop : Reading (Option String × String) := readEnd (.share (.ofNat 1))

/-- The stretch that an animation takes. Without an end it reaches to the end of the stretch that
the start names. -/
def range : Shorthand :=
  .of "animation-range" ["animation-range-start", "animation-range-end"]
    (do
      let one : Reading (Value × Value) := do
        let (name, start) ← readStart
        match ← Reading.attempt readStop with
        | some (_, stop) => pure (.word start, .word stop)
        | none => pure (.word start, .word (name.getD "normal"))
      let list ← Reading.commaSeparated one
      return [list.map (·.1), list.map (·.2)])
    fun
    | [starts, stops] =>
      if starts.length ≠ stops.length then none
      else
        let one : Value × Value → Value := fun (start, stop) =>
          let name := ((start.text.splitOn " ").head?).getD ""
          let implied := if stretches.contains name then name else "normal"
          if stop = .word implied then start else .spaced [start, stop]
        some (.listed ((starts.zip stops).map one))
    | _ => none

end Animation

end Pagefold.Css
