import Pagefold.Text.Cut

/-!
# Names of properties

The properties whose values have a meaning, by name. Such a name is read in any case of its
letters and written in small ones; any other name stays as it is. Some of the names may carry
the mark of the maker of an engine in front.
-/
namespace Pagefold.Css.Property

/-- The words of some lines. -/
def words (lines : List String) : List String :=
  lines.flatMap fun line => (Text.pieces (· = ' ') line.toList).map String.ofList

/-- The names without a mark. -/
def plain : List String := words
  ["background-color background-image background-position-x background-position-y",
   "background-position background-size background-repeat background-attachment",
   "background-clip background-origin background box-shadow opacity color display visibility",
   "width height min-width min-height max-width max-height block-size inline-size",
   "min-block-size min-inline-size max-block-size max-inline-size box-sizing aspect-ratio",
   "overflow overflow-x overflow-y text-overflow position top bottom left right",
   "inset-block-start inset-block-end inset-inline-start inset-inline-end inset-block",
   "inset-inline inset border-spacing border-top-color border-bottom-color border-left-color",
   "border-right-color border-block-start-color border-block-end-color",
   "border-inline-start-color border-inline-end-color border-top-style border-bottom-style",
   "border-left-style border-right-style border-block-start-style border-block-end-style",
   "border-inline-start-style border-inline-end-style border-top-width border-bottom-width",
   "border-left-width border-right-width border-block-start-width border-block-end-width",
   "border-inline-start-width border-inline-end-width border-top-left-radius",
   "border-top-right-radius border-bottom-left-radius border-bottom-right-radius",
   "border-start-start-radius border-start-end-radius border-end-start-radius",
   "border-end-end-radius border-radius border-image-source border-image-outset",
   "border-image-repeat border-image-width border-image-slice border-image border-color",
   "border-style border-width border-block-color border-block-style border-block-width",
   "border-inline-color border-inline-style border-inline-width border border-top",
   "border-bottom border-left border-right border-block border-block-start border-block-end",
   "border-inline border-inline-start border-inline-end outline outline-color outline-style",
   "outline-width flex-direction flex-wrap flex-flow flex-grow flex-shrink flex-basis flex order",
   "align-content justify-content place-content align-self justify-self place-self align-items",
   "justify-items place-items row-gap column-gap gap grid-template-columns grid-template-rows",
   "grid-auto-columns grid-auto-rows grid-auto-flow grid-template-areas grid-template grid",
   "grid-row-start grid-row-end grid-column-start grid-column-end grid-row grid-column grid-area",
   "margin-top margin-bottom margin-left margin-right margin-block-start margin-block-end",
   "margin-inline-start margin-inline-end margin-block margin-inline margin padding-top",
   "padding-bottom padding-left padding-right padding-block-start padding-block-end",
   "padding-inline-start padding-inline-end padding-block padding-inline padding",
   "scroll-margin-top scroll-margin-bottom scroll-margin-left scroll-margin-right",
   "scroll-margin-block-start scroll-margin-block-end scroll-margin-inline-start",
   "scroll-margin-inline-end scroll-margin-block scroll-margin-inline scroll-margin",
   "scroll-padding-top scroll-padding-bottom scroll-padding-left scroll-padding-right",
   "scroll-padding-block-start scroll-padding-block-end scroll-padding-inline-start",
   "scroll-padding-inline-end scroll-padding-block scroll-padding-inline scroll-padding",
   "font-weight font-size font-stretch font-family font-style font-variant-caps line-height font",
   "vertical-align font-palette transition-property transition-duration transition-delay",
   "transition-timing-function transition animation-name animation-duration",
   "animation-timing-function animation-iteration-count animation-direction",
   "animation-play-state animation-delay animation-fill-mode animation-composition",
   "animation-timeline animation-range-start animation-range-end animation-range animation",
   "transform transform-origin transform-style transform-box backface-visibility perspective",
   "perspective-origin translate rotate scale text-transform white-space tab-size word-break",
   "line-break hyphens overflow-wrap word-wrap text-align text-align-last text-justify",
   "word-spacing letter-spacing text-indent text-decoration-line text-decoration-style",
   "text-decoration-color text-decoration-thickness text-decoration text-decoration-skip-ink",
   "text-emphasis-style text-emphasis-color text-emphasis text-emphasis-position text-shadow",
   "text-size-adjust direction unicode-bidi box-decoration-break resize cursor caret-color",
   "caret-shape caret user-select accent-color appearance list-style-type list-style-image",
   "list-style-position list-style marker-side fill fill-rule fill-opacity stroke stroke-opacity",
   "stroke-width stroke-linecap stroke-linejoin stroke-miterlimit stroke-dasharray",
   "stroke-dashoffset marker-start marker-mid marker-end marker color-interpolation",
   "color-interpolation-filters color-rendering shape-rendering text-rendering image-rendering",
   "clip-path clip-rule mask-image mask-mode mask-repeat mask-position-x mask-position-y",
   "mask-position mask-clip mask-origin mask-size mask-composite mask-type mask",
   "mask-border-source mask-border-mode mask-border-slice mask-border-width mask-border-outset",
   "mask-border-repeat mask-border filter backdrop-filter z-index container-type container-name",
   "container view-transition-name view-transition-class view-transition-group color-scheme",
   "print-color-adjust all"]

/-- The names that may carry each mark. -/
def marked : List (String × List String) :=
  [("-webkit-", words
    ["background-clip box-shadow box-sizing border-top-left-radius border-top-right-radius",
     "border-bottom-left-radius border-bottom-right-radius border-radius border-image",
     "flex-direction flex-wrap flex-flow flex-grow flex-shrink flex-basis flex order",
     "align-content justify-content align-self align-items box-orient box-direction",
     "box-ordinal-group box-align box-flex box-flex-group box-pack box-lines transition-property",
     "transition-duration transition-delay transition-timing-function transition animation-name",
     "animation-duration animation-timing-function animation-iteration-count",
     "animation-direction animation-play-state animation-delay animation-fill-mode animation",
     "transform transform-origin transform-style backface-visibility perspective",
     "perspective-origin hyphens text-decoration-line text-decoration-style",
     "text-decoration-color text-decoration text-decoration-skip-ink text-emphasis-style",
     "text-emphasis-color text-emphasis text-emphasis-position text-size-adjust",
     "box-decoration-break user-select appearance clip-path mask-image mask-repeat mask-position",
     "mask-clip mask-origin mask-size mask mask-source-type mask-box-image",
     "mask-box-image-source mask-box-image-slice mask-box-image-width mask-box-image-outset",
     "mask-box-image-repeat filter backdrop-filter print-color-adjust"]),
   ("-moz-", words
    ["background-clip box-shadow box-sizing border-top-left-radius border-top-right-radius",
     "border-bottom-left-radius border-bottom-right-radius border-radius border-image box-orient",
     "box-direction box-ordinal-group box-align box-flex box-pack box-lines",
     "transition-property transition-duration transition-delay transition-timing-function",
     "transition animation-name animation-duration animation-timing-function",
     "animation-iteration-count animation-direction animation-play-state animation-delay",
     "animation-fill-mode animation transform transform-origin transform-style",
     "backface-visibility perspective perspective-origin tab-size hyphens text-align-last",
     "text-decoration-line text-decoration-style text-decoration-color text-decoration",
     "text-size-adjust user-select appearance"]),
   ("-ms-", words
    ["flex-direction flex-wrap flex-flow flex flex-pack flex-order flex-align flex-item-align",
     "flex-line-pack flex-positive flex-negative flex-preferred-size transition-property",
     "transition-duration transition-delay transition-timing-function transition transform",
     "transform-origin hyphens text-size-adjust user-select appearance"]),
   ("-o-", words
    ["text-overflow border-image animation-name animation-duration animation-timing-function",
     "animation-iteration-count animation-direction animation-play-state animation-delay",
     "animation-fill-mode animation transform transform-origin tab-size"])]

/-- Whether a name may carry a mark. -/
def mayBeMarked (name : String) : Bool := marked.any fun entry => entry.2.contains name

/-- The mark in front of a name and what follows it, in small letters. -/
def split (small : String) : String × String :=
  match marked.find? fun entry => small.startsWith entry.1 with
  | some (mark, _) => (mark, String.ofList (small.toList.drop mark.length))
  | none => ("", small)

/-- The mark and the rest of a name whose values have a meaning. -/
def known? (name : String) : Option (String × String) :=
  let (mark, rest) := split (Text.lower name)
  let names := if mark = "" then plain else (marked.lookup mark).getD []
  if names.contains rest then some (mark, rest) else none

/-- How the name of a property is kept. -/
def canonical (name : String) : String :=
  match known? name with
  | some (mark, rest) => mark ++ rest
  | none => name

end Pagefold.Css.Property
