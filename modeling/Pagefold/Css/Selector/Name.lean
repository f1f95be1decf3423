import Pagefold.Css.Selector
import Pagefold.Css.Value

/-!
# Names of pseudo-classes and pseudo-elements

What may follow a pseudo-element depends on the pseudo-element, and some names have a meaning
only there. Names that are known are written in small letters, others as they are.
-/
namespace Pagefold.Css.Selector

/-- How far the reading of a selector has come, as far as it decides what may follow. -/
structure Stage where
  afterSlotted : Bool := false
  afterPart : Bool := false
  /-- Whether a pseudo-element was read whose name is known. -/
  afterElement : Bool := false
  afterScrollbar : Bool := false
  afterTransition : Bool := false
  mayJoin : Bool := true
  mayHaveElements : Bool := true
  deriving DecidableEq, Repr

namespace Stage

/-- Whether something was read that is not an element of the document. -/
def isAfter (s : Stage) : Bool := s.afterSlotted || s.afterPart || s.afterElement

/-- Inside the arguments of a pseudo-class no pseudo-element may stand. -/
def withoutElements (s : Stage) : Stage := { s with mayHaveElements := false }

/-- A single compound without pseudo-elements. -/
def simple (s : Stage) : Stage := { s with mayHaveElements := false, mayJoin := false }

end Stage

/-- The words of some lines. -/
def words (lines : List String) : List String := lines.flatMap (·.splitOn " ")

/-- Pseudo-elements that are also, and shorter, written with one colon. -/
def oneColonElements : List String := ["before", "after", "first-line", "first-letter"]

/-- Pseudo-elements that are written with two colons. -/
def twoColonElements : List String := words
  ["cue cue-region selection -moz-selection placeholder -webkit-input-placeholder",
   "-moz-placeholder -ms-input-placeholder marker backdrop -webkit-backdrop",
   "file-selector-button -webkit-file-upload-button -ms-browse details-content target-text",
   "search-text grammar-error spelling-error picker-icon checkmark view-transition"]

/-- The parts of scroll bars. -/
def scrollbarElements : List String := words
  ["-webkit-scrollbar -webkit-scrollbar-button -webkit-scrollbar-track",
   "-webkit-scrollbar-track-piece -webkit-scrollbar-thumb -webkit-scrollbar-corner",
   "-webkit-resizer"]

/-- The pseudo-elements of a transition between views, which take arguments. -/
def transitionElements : List String := words
  ["view-transition-group view-transition-image-pair view-transition-old view-transition-new"]

/-- Pseudo-elements that may follow slotted elements. -/
def afterSlottedElements : List String :=
  ["before", "after", "marker", "placeholder", "-webkit-input-placeholder", "-moz-placeholder",
   "-ms-input-placeholder", "file-selector-button", "-webkit-file-upload-button", "-ms-browse"]

/-- Pseudo-classes about the place of an element in the document. -/
def placeClasses : List String := words
  ["first-child last-child only-child root empty scope host first-of-type last-of-type",
   "only-of-type"]

/-- Pseudo-classes about what the user does. -/
def actionClasses : List String := ["hover", "active", "focus", "focus-visible", "focus-within"]

/-- Pseudo-classes about the state of an element or of what it shows. -/
def stateClasses : List String := words
  ["current past future playing paused seeking buffering stalled muted volume-locked fullscreen",
   "-webkit-full-screen -moz-full-screen -ms-fullscreen open closed modal picture-in-picture",
   "popover-open defined any-link -webkit-any-link -moz-any-link link local-link target",
   "target-within visited enabled disabled read-only -moz-read-only read-write -moz-read-write",
   "placeholder-shown -moz-placeholder -ms-input-placeholder default checked indeterminate blank",
   "valid invalid in-range out-of-range required optional user-valid user-invalid autofill",
   "-webkit-autofill -o-autofill active-view-transition"]

/-- Pseudo-classes about a part of a scroll bar. -/
def scrollbarClasses : List String := words
  ["horizontal vertical decrement increment start end double-button single-button no-button",
   "corner-present window-inactive"]

/-- Pseudo-classes of elements that may follow a part of a scroll bar as well. -/
def commonClasses : List String := ["enabled", "disabled", "hover", "active"]

/-- Whether a pseudo-class may stand here that is not about the place of an element. -/
def fits (s : Stage) (small : String) : Bool :=
  let isBar := scrollbarClasses.contains small
  if s.afterScrollbar then isBar || commonClasses.contains small
  else if s.afterElement then actionClasses.contains small
  else !isBar

/-- The pseudo-class with a name. -/
def pseudoClass? (s : Stage) (name : String) : Option Simple :=
  let small := Text.lower name
  if s.afterSlotted then none
  else if !s.isAfter && placeClasses.contains small then
    match small with
    | "host" => some (.host none)
    | "scope" => some .scope
    | small => some (.pseudo (":" ++ small))
  else if s.afterTransition && small = "only-child" then some (.pseudo ":only-child")
  else if fits s small then
    let isKnown := (actionClasses ++ stateClasses ++ scrollbarClasses).contains small
    some (.pseudo (":" ++ if isKnown then small else name))
  else none

/-- A pseudo-element, with what is known about it. -/
structure PseudoElement where
  simple : Simple
  isKnown : Bool := true
  isScrollbar : Bool := false
  isTransition : Bool := false
  maySlot : Bool := false

/-- The pseudo-element with a name. -/
def PseudoElement.ofName (name : String) : PseudoElement :=
  let small := Text.lower name
  if oneColonElements.contains small then
    { simple := .pseudo (":" ++ small), maySlot := afterSlottedElements.contains small }
  else if (twoColonElements ++ scrollbarElements).contains small then
    { simple := .pseudo ("::" ++ small)
      isScrollbar := scrollbarElements.contains small
      maySlot := afterSlottedElements.contains small }
  else { simple := .pseudo ("::" ++ name), isKnown := false }

/-- The stage after a pseudo-element, if it may stand at this stage. -/
def Stage.afterPseudo? (s : Stage) (e : PseudoElement) : Option Stage :=
  if s.afterSlotted && !e.maySlot then none
  else some { s with
    afterElement := s.afterElement || e.isKnown
    afterScrollbar := s.afterScrollbar || e.isScrollbar
    afterTransition := s.afterTransition || e.isTransition }

end Pagefold.Css.Selector

/-!
## Selectors that every engine understands

A rule whose selectors some engine may not understand is dropped by it as a whole, so that its
declarations cannot be shared with other selectors. Lists of selectors that forgive are
understood whatever they hold.
-/
namespace Pagefold.Css

/-- Pseudo-classes and pseudo-elements without arguments that every engine understands, as they
are written. -/
def portableTexts : List String := Selector.words
  [":link :visited :active :hover :focus :checked :disabled :enabled :target :any-link",
   ":indeterminate :fullscreen :focus-visible :focus-within :default :optional",
   ":placeholder-shown :read-only :read-write :valid :invalid :required :in-range :out-of-range",
   ":autofill :first-child :last-child :only-child :root :empty :first-of-type :last-of-type",
   ":only-of-type :before :after :first-line :first-letter ::selection ::placeholder ::marker",
   "::backdrop ::cue"]

mutual

/-- Whether every engine understands a simple selector. -/
def Simple.isPortable : Simple → Bool
  | .pseudo text =>
    portableTexts.contains text || text.startsWith ":lang(" || text.startsWith ":dir(" ||
      text.startsWith "::part("
  | .group .negation among => Selector.areAllPortable among
  | .group .has among => Selector.areAllPortable among
  | .group .webkitAny _ => false
  | .group .mozAny _ => false
  | .nth _ _ (some among) => Selector.areAllPortable among
  | .nth name _ none => name ≠ "nth-col" && name ≠ "nth-last-col"
  | .foreign name _ => name = "cue"
  | _ => true

/-- Whether every engine understands some simple selectors. -/
def Simple.areAllPortable : List Simple → Bool
  | [] => true
  | s :: rest => s.isPortable && Simple.areAllPortable rest

/-- Whether every engine understands a selector. -/
def Selector.isPortable : Selector → Bool
  | .last compound => Simple.areAllPortable compound
  | .step compound _ rest => Simple.areAllPortable compound && rest.isPortable

/-- Whether every engine understands some selectors. -/
def Selector.areAllPortable : List Selector → Bool
  | [] => true
  | s :: rest => s.isPortable && Selector.areAllPortable rest

end

end Pagefold.Css
