import Mathlib
import Pagefold.Html.Extract
import Pagefold.Proofs.Html.Frame
import Pagefold.Proofs.Html.Pieces

/-!
# Where the texts of a document go

The texts of a document are gathered by three walks: into styles, into scripts, and into the markup.
Which of them take a text is told by the elements around it. The markup stops at every inlined
element, but the walk for styles goes on into scripts, and the walk for scripts into styles.
-/
namespace Pagefold.Html

/-- A text in a document, with the elements around it, the outermost first. -/
structure TextNode where
  around : List (String × List Attribute)
  content : String
  deriving DecidableEq

mutual

/-- The texts at or below a node, in the order of the document. -/
def Node.texts (around : List (String × List Attribute)) : Node → List TextNode
  | .document children => textsOf around children
  | .element name attributes children => textsOf (around ++ [(name, attributes)]) children
  | .text content => [⟨around, content⟩]
  | _ => []

/-- The texts in a list of nodes. -/
def textsOf (around : List (String × List Attribute)) : List Node → List TextNode
  | [] => []
  | n :: rest => n.texts around ++ textsOf around rest

end

mutual

/-- Whether no whole document stands at or below a node. -/
def Node.isPart : Node → Bool
  | .document _ => false
  | .element _ _ children => areParts children
  | _ => true

/-- Whether no whole document stands in a list of nodes. -/
def areParts : List Node → Bool
  | [] => true
  | n :: rest => n.isPart && areParts rest

end

/-- Nodes in a row hold no whole document if none of them does. -/
theorem areParts_iff (all : List Node) : areParts all = true ↔ ∀ n ∈ all, n.isPart = true := by
  induction all with
  | nil => simp [areParts]
  | cons n rest inductionHypothesis => simp [areParts, inductionHypothesis]

mutual

/-- What is inside of a frame holds no whole document. -/
theorem Node.isPart_inner : (n : Node) → n.isInner = true → n.isPart = true
  | .document _ => nofun
  | .element _ _ children => fun inner =>
    areParts_inner children (Bool.and_eq_true_iff.mp inner).2
  | .doctype _ => fun _ => rfl
  | .text _ => fun _ => rfl
  | .comment _ => fun _ => rfl

/-- Nodes inside of a frame hold no whole document. -/
theorem areParts_inner : (all : List Node) → areInner all = true → areParts all = true
  | [] => fun _ => rfl
  | n :: rest => fun inner => by
    obtain ⟨first, others⟩ := Bool.and_eq_true_iff.mp inner
    rw [areParts, n.isPart_inner first, areParts_inner rest others]
    rfl

end

/-- No whole document stands inside the document that a text is read as. -/
theorem parse_parts (source : String) :
    ∃ children, parse source = .document children ∧ areParts children = true := by
  obtain ⟨page, document, inner, _⟩ := parse_page source
  refine ⟨_, document, ?_⟩
  have parts := (areParts_iff _).mp (areParts_inner _ inner)
  simp only [Page.nodes, Page.bodyNodes, Page.ending] at parts ⊢
  rw [areParts_iff]
  cases body : page.body <;> grind [areParts_iff, Node.isPart, Part.toNode]

/-- The content of a style or script that is written in the document. -/
def Source.content? : Source → Option String
  | .inline content => some content
  | .linked _ => none

/-- The text of a piece with the mode in which it is written. -/
def Piece.text? : Piece → Option (TextMode × String)
  | .text mode content => some (mode, content)
  | _ => none

namespace TextNode

/-- A style, or a link to one. -/
def isSheet (element : String × List Attribute) : Bool :=
  element.1 == "style" || isStylesheetLink element.1 element.2

/-- Whether the text belongs to a style: of the styles and links to styles around it, the outermost
is a style. -/
def inStyle (t : TextNode) : Bool := (t.around.find? isSheet).any (·.1 == "style")

/-- Whether the text belongs to a script: the outermost script around it has no source of its
own. -/
def inScript (t : TextNode) : Bool :=
  (t.around.find? (·.1 == "script")).any fun element => (linkIn? element.2 "src").isNone

/-- Whether the text is written as markup: no element around it is inlined. -/
def isWritten (t : TextNode) : Bool := t.around.all fun element => !isInlined element.1 element.2

/-- The mode in which the text is written. -/
def mode (t : TextNode) : TextMode :=
  t.around.foldl (fun mode element => mode.inside element.1) .collapse

end TextNode

/-- The contents hold the texts in their order, each text in one of the contents. -/
def Gathers (contents : List String) (texts : List TextNode) : Prop :=
  ∃ groups : List (List TextNode), groups.flatten = texts ∧
    contents = groups.map fun group => String.join (group.map (·.content))

namespace Gathers

theorem nil : Gathers [] [] := ⟨[], rfl, rfl⟩

theorem append {contents contents' : List String} {texts texts' : List TextNode}
    (first : Gathers contents texts) (second : Gathers contents' texts') :
    Gathers (contents ++ contents') (texts ++ texts') := by
  obtain ⟨groups, rfl, rfl⟩ := first
  obtain ⟨groups', rfl, rfl⟩ := second
  exact ⟨groups ++ groups', List.flatten_append, List.map_append.symm⟩

theorem single (texts : List TextNode) :
    Gathers [String.join (texts.map (·.content))] texts :=
  ⟨[texts], by simp, rfl⟩

end Gathers

/-! ## The texts of an element -/

mutual

/-- The elements around a node are around its texts. -/
theorem Node.texts_around (around : List (String × List Attribute)) :
    (n : Node) → ∀ t ∈ n.texts around, around <+: t.around
  | .document children => by
    intro t member
    exact textsOf_around around children t member
  | .element name attributes children => by
    intro t member
    have inside := textsOf_around (around ++ [(name, attributes)]) children t member
    exact (List.prefix_append around _).trans inside
  | .text content => by
    intro t member
    rw [List.mem_singleton.mp member]
  | .doctype _ => by
    intro t member
    cases member
  | .comment _ => by
    intro t member
    cases member

/-- The elements around a list of nodes are around its texts. -/
theorem textsOf_around (around : List (String × List Attribute)) :
    (all : List Node) → ∀ t ∈ textsOf around all, around <+: t.around
  | [] => by
    intro t member
    cases member
  | n :: rest => by
    intro t member
    rcases List.mem_append.mp member with here | later
    · exact n.texts_around around t here
    · exact textsOf_around around rest t later

end

mutual

/-- The content of a node is the content of its texts. -/
theorem Node.textContent_texts (around : List (String × List Attribute)) :
    (n : Node) → n.isPart = true →
      n.textContent = String.join ((n.texts around).map (·.content))
  | .document _ => nofun
  | .element name attributes children => fun part => textOf_texts _ children part
  | .text content => fun _ => by simp [Node.textContent, Node.texts]
  | .doctype _ => fun _ => rfl
  | .comment _ => fun _ => rfl

/-- The content of a list of nodes is the content of their texts. -/
theorem textOf_texts (around : List (String × List Attribute)) :
    (all : List Node) → areParts all = true →
      textOf all = String.join ((textsOf around all).map (·.content))
  | [] => fun _ => rfl
  | n :: rest => fun parts => by
    obtain ⟨first, others⟩ := Bool.and_eq_true_iff.mp parts
    rw [textOf, textsOf, List.map_append, String.join_append,
      n.textContent_texts around first, textOf_texts around rest others]

end

/-- The first element of a kind around a node is the first one around its texts. -/
theorem find_around {around around' : List (String × List Attribute)}
    {p : String × List Attribute → Bool} {element : String × List Attribute}
    (found : around.find? p = some element) (inside : around <+: around') :
    around'.find? p = some element := by
  obtain ⟨below, rfl⟩ := inside
  rw [List.find?_append, found, Option.some_or]

/-- An element is the first of a kind if none around it is. -/
theorem find_last {around : List (String × List Attribute)}
    {p : String × List Attribute → Bool} (none : around.find? p = none)
    (element : String × List Attribute) :
    (around ++ [element]).find? p = if p element then some element else Option.none := by
  rw [List.find?_append, none, Option.none_or, List.find?_singleton]

/-- If all texts in an element are taken by a walk, they are taken as one content. -/
theorem gathers_all {around : List (String × List Attribute)} {children : List Node}
    (parts : areParts children = true) (taken : TextNode → Bool)
    (all : ∀ t ∈ textsOf around children, taken t = true) :
    Gathers [textOf children] ((textsOf around children).filter taken) := by
  rw [List.filter_eq_self.mpr all, textOf_texts around children parts]
  exact Gathers.single _

/-- If no text in an element is taken by a walk, nothing is gathered. -/
theorem gathers_none {texts : List TextNode} (taken : TextNode → Bool)
    (none : ∀ t ∈ texts, taken t = false) : Gathers [] (texts.filter taken) := by
  have empty : texts.filter taken = [] := by
    rw [List.filter_eq_nil_iff]
    intro t member
    rw [none t member]
    exact Bool.false_ne_true
  rw [empty]
  exact Gathers.nil

/-! ## What the walks take -/

open TextNode

mutual

/-- The walk for styles takes the texts that belong to a style. -/
theorem Node.styles_texts (around : List (String × List Attribute))
    (outside : around.find? isSheet = none) :
    (n : Node) → n.isPart = true →
      Gathers (n.styles.filterMap Source.content?) ((n.texts around).filter inStyle)
  | .document _ => nofun
  | .text content => fun _ => by
    have free : inStyle ⟨around, content⟩ = false := by simp [inStyle, outside]
    simp only [Node.styles, Node.texts, List.filterMap_nil, List.filter_singleton, free]
    exact Gathers.nil
  | .doctype _ => fun _ => Gathers.nil
  | .comment _ => fun _ => Gathers.nil
  | .element name attributes children => fun part => by
    have first := find_last outside (name, attributes)
    rw [Node.styles, Node.texts]
    by_cases style : name = "style"
    · have sheet : isSheet (name, attributes) = true := by simp [isSheet, style]
      rw [if_pos style]
      refine gathers_all part inStyle ?_
      intro t member
      have found := find_around (first.trans (if_pos sheet)) (textsOf_around _ children t member)
      simp [inStyle, found, style]
    · rw [if_neg style]
      cases link : isStylesheetLink name attributes with
      | true =>
        have sheet : isSheet (name, attributes) = true := by simp [isSheet, link]
        have linked : (((linkIn? attributes "href").map Source.linked).toList).filterMap
            Source.content? = [] := by
          cases linkIn? attributes "href" <;> rfl
        rw [if_pos rfl, linked]
        refine gathers_none inStyle ?_
        intro t member
        have found := find_around (first.trans (if_pos sheet)) (textsOf_around _ children t member)
        simp [inStyle, found, style]
      | false =>
        have other : isSheet (name, attributes) = false := by simp [isSheet, style, link]
        rw [if_neg Bool.false_ne_true]
        refine stylesOf_texts _ ?_ children part
        rw [first, other, if_neg Bool.false_ne_true]

/-- The walk for styles takes the texts of a list of nodes that belong to a style. -/
theorem stylesOf_texts (around : List (String × List Attribute))
    (outside : around.find? isSheet = none) :
    (all : List Node) → areParts all = true →
      Gathers ((stylesOf all).filterMap Source.content?) ((textsOf around all).filter inStyle)
  | [] => fun _ => Gathers.nil
  | n :: rest => fun parts => by
    obtain ⟨first, others⟩ := Bool.and_eq_true_iff.mp parts
    rw [stylesOf, textsOf, List.filterMap_append, List.filter_append]
    exact (n.styles_texts around outside first).append (stylesOf_texts around outside rest others)

end

mutual

/-- The walk for scripts takes the texts that belong to a script. -/
theorem Node.scripts_texts (around : List (String × List Attribute))
    (outside : around.find? (·.1 == "script") = none) :
    (n : Node) → n.isPart = true →
      Gathers (n.scripts.filterMap Source.content?) ((n.texts around).filter inScript)
  | .document _ => nofun
  | .text content => fun _ => by
    have free : inScript ⟨around, content⟩ = false := by simp [inScript, outside]
    simp only [Node.scripts, Node.texts, List.filterMap_nil, List.filter_singleton, free]
    exact Gathers.nil
  | .doctype _ => fun _ => Gathers.nil
  | .comment _ => fun _ => Gathers.nil
  | .element name attributes children => fun part => by
    have first := find_last outside (name, attributes)
    rw [Node.scripts, Node.texts]
    by_cases script : name = "script"
    · have found : ∀ t ∈ textsOf (around ++ [(name, attributes)]) children,
          t.around.find? (·.1 == "script") = some (name, attributes) := by
        intro t member
        exact find_around (first.trans (if_pos (by simp [script])))
          (textsOf_around _ children t member)
      rw [if_pos script]
      cases source : linkIn? attributes "src" with
      | none =>
        refine gathers_all part inScript ?_
        intro t member
        simp [inScript, found t member, source]
      | some link =>
        refine gathers_none inScript ?_
        intro t member
        simp [inScript, found t member, source]
    · rw [if_neg script]
      refine scriptsOf_texts _ ?_ children part
      rw [first, if_neg (by simp [script])]

/-- The walk for scripts takes the texts of a list of nodes that belong to a script. -/
theorem scriptsOf_texts (around : List (String × List Attribute))
    (outside : around.find? (·.1 == "script") = none) :
    (all : List Node) → areParts all = true →
      Gathers ((scriptsOf all).filterMap Source.content?) ((textsOf around all).filter inScript)
  | [] => fun _ => Gathers.nil
  | n :: rest => fun parts => by
    obtain ⟨first, others⟩ := Bool.and_eq_true_iff.mp parts
    rw [scriptsOf, textsOf, List.filterMap_append, List.filter_append]
    exact (n.scripts_texts around outside first).append
      (scriptsOf_texts around outside rest others)

end

/-- The texts that are written as markup, with their modes. -/
def writtenTexts (texts : List TextNode) : List (TextMode × String) :=
  (texts.filter isWritten).map fun t => (t.mode, t.content)

theorem writtenTexts_append (first second : List TextNode) :
    writtenTexts (first ++ second) = writtenTexts first ++ writtenTexts second := by
  rw [writtenTexts, List.filter_append, List.map_append]
  rfl

mutual

/-- The markup holds the texts that no inlined element is around. -/
theorem Node.pieces_texts (around : List (String × List Attribute))
    (outside : (around.all fun element => !isInlined element.1 element.2) = true) :
    (n : Node) → (n.pieces (TextNode.mode ⟨around, ""⟩)).filterMap Piece.text? =
      writtenTexts (n.texts around)
  | .document children => piecesOf_texts around outside children
  | .text content => by
    have written : isWritten ⟨around, content⟩ = true := outside
    simp [Node.pieces, Node.texts, writtenTexts, written, Piece.text?, mode]
  | .doctype _ => rfl
  | .comment _ => rfl
  | .element name attributes children => by
    rw [Node.pieces, Node.texts]
    cases inlined : isInlined name attributes with
    | true =>
      have none : (textsOf (around ++ [(name, attributes)]) children).filter isWritten = [] := by
        rw [List.filter_eq_nil_iff]
        intro t member
        obtain ⟨below, same⟩ := textsOf_around _ children t member
        simp [isWritten, ← same, inlined]
      simp [writtenTexts, none]
    | false =>
      have onward : ((around ++ [(name, attributes)]).all fun element =>
          !isInlined element.1 element.2) = true := by
        simpa [inlined] using outside
      have deeper : (TextNode.mode ⟨around, ""⟩).inside name =
          TextNode.mode ⟨around ++ [(name, attributes)], ""⟩ := by
        simp [mode]
      have inside := piecesOf_texts (around ++ [(name, attributes)]) onward children
      rw [if_neg Bool.false_ne_true, deeper]
      split
      · next closed =>
        obtain ⟨empty, _⟩ := Bool.and_eq_true_iff.mp closed
        rw [List.isEmpty_iff.mp empty]
        rfl
      · rw [List.cons_append, List.filterMap_cons_none rfl, List.filterMap_append, inside]
        simp [Piece.text?]

/-- The markup of a list of nodes holds the texts that no inlined element is around. -/
theorem piecesOf_texts (around : List (String × List Attribute))
    (outside : (around.all fun element => !isInlined element.1 element.2) = true) :
    (all : List Node) → (piecesOf (TextNode.mode ⟨around, ""⟩) all).filterMap Piece.text? =
      writtenTexts (textsOf around all)
  | [] => rfl
  | n :: rest => by
    rw [piecesOf, textsOf, List.filterMap_append, writtenTexts_append,
      n.pieces_texts around outside, piecesOf_texts around outside rest]

end

/-! ## Who takes a text -/

/-- A text that is written belongs to no style and to no script. -/
theorem written_apart (t : TextNode) (written : t.isWritten = true) :
    t.inStyle = false ∧ t.inScript = false := by
  have plain : ∀ element ∈ t.around, isInlined element.1 element.2 = false := by
    intro element member
    simpa using List.all_eq_true.mp written element member
  constructor
  · have none : t.around.find? isSheet = none := by
      rw [List.find?_eq_none]
      intro element member
      have apart := plain element member
      simp only [isInlined, Bool.or_eq_false_iff] at apart
      simp [isSheet, apart]
    simp [inStyle, none]
  · have none : t.around.find? (·.1 == "script") = none := by
      rw [List.find?_eq_none]
      intro element member
      have apart := plain element member
      simp only [isInlined, Bool.or_eq_false_iff] at apart
      simp [apart]
    simp [inScript, none]

/-- A style is around each text that belongs to a style. -/
theorem inStyle_around (t : TextNode) (taken : t.inStyle = true) :
    ∃ attributes, ("style", attributes) ∈ t.around := by
  obtain ⟨⟨name, attributes⟩, found, style⟩ := (Option.any_eq_true _ _).mp taken
  have named : name = "style" := by simpa using style
  exact ⟨attributes, named ▸ List.mem_of_find?_eq_some found⟩

/-- A script without a source is around each text that belongs to a script. -/
theorem inScript_around (t : TextNode) (taken : t.inScript = true) :
    ∃ attributes, ("script", attributes) ∈ t.around ∧ linkIn? attributes "src" = none := by
  obtain ⟨⟨name, attributes⟩, found, sourceless⟩ := (Option.any_eq_true _ _).mp taken
  have named : name = "script" := by simpa using List.find?_some found
  exact ⟨attributes, named ▸ List.mem_of_find?_eq_some found, by simpa using sourceless⟩

/-- A text that nobody takes lies in a script with a source or below a link to a style. -/
theorem untaken_around (t : TextNode) (unwritten : t.isWritten = false)
    (noStyle : t.inStyle = false) (noScript : t.inScript = false) :
    (∃ attributes, ("script", attributes) ∈ t.around ∧
        (linkIn? attributes "src").isSome = true) ∨
      ∃ name attributes, (name, attributes) ∈ t.around ∧
        isStylesheetLink name attributes = true := by
  obtain ⟨⟨name, attributes⟩, member, inlined⟩ := List.all_eq_false.mp unwritten
  have some_sheet : name = "script" ∨ isSheet (name, attributes) = true := by
    simp only [isInlined, Bool.not_eq_true', Bool.not_eq_false, Bool.or_eq_true,
      beq_iff_eq] at inlined
    simp only [isSheet, Bool.or_eq_true, beq_iff_eq]
    tauto
  rcases some_sheet with script | sheet
  · -- The outermost script is the one that decides.
    left
    have there : (t.around.find? (·.1 == "script")).isSome = true := by
      rw [List.find?_isSome]
      exact ⟨_, member, by simp [script]⟩
    obtain ⟨⟨outer, attrs⟩, found⟩ := Option.isSome_iff_exists.mp there
    have named : outer = "script" := by simpa using List.find?_some found
    refine ⟨attrs, named ▸ List.mem_of_find?_eq_some found, ?_⟩
    simpa [inScript, found] using noScript
  · right
    have there : (t.around.find? isSheet).isSome = true := by
      rw [List.find?_isSome]
      exact ⟨_, member, sheet⟩
    obtain ⟨⟨outer, attrs⟩, found⟩ := Option.isSome_iff_exists.mp there
    have other : outer ≠ "style" := by simpa [inStyle, found] using noStyle
    have chosen := List.find?_some found
    refine ⟨outer, attrs, List.mem_of_find?_eq_some found, ?_⟩
    simpa [isSheet, other] using chosen

/-- The styles of a document hold the texts that belong to a style, its scripts those that belong to
a script, and its markup those that no inlined element is around: each walk has each of its texts
once, in the order of the document. A text that is written belongs to no style and no script. One that
is taken nowhere lies in a script with a source or below a link to a style. One that is taken twice
lies in a style and in a script without a source, so that one of the two is inside the other. -/
theorem texts_parted (source : String) (e : Emitter) (classes : Class.Table) :
    Gathers ((parse source).styles.filterMap Source.content?)
        (((parse source).texts []).filter inStyle) ∧
      Gathers ((parse source).scripts.filterMap Source.content?)
        (((parse source).texts []).filter inScript) ∧
      (∃ parts, (e.emit (parse source) classes).1 = String.join parts ∧
        List.Forall₂ e.Writes parts ((parse source).pieces .collapse)) ∧
      ((parse source).pieces .collapse).filterMap Piece.text? =
        writtenTexts ((parse source).texts []) ∧
      ∀ t ∈ (parse source).texts [],
        (t.isWritten = true → t.inStyle = false ∧ t.inScript = false) ∧
        (t.inStyle = true → t.inScript = true →
          (∃ attributes, ("style", attributes) ∈ t.around) ∧
          ∃ attributes, ("script", attributes) ∈ t.around ∧ linkIn? attributes "src" = none) ∧
        (t.isWritten = false → t.inStyle = false → t.inScript = false →
          (∃ attributes, ("script", attributes) ∈ t.around ∧
            (linkIn? attributes "src").isSome = true) ∨
          ∃ name attributes, (name, attributes) ∈ t.around ∧
            isStylesheetLink name attributes = true) := by
  obtain ⟨children, document, parts⟩ := parse_parts source
  have styles : Gathers ((parse source).styles.filterMap Source.content?)
      (((parse source).texts []).filter inStyle) := by
    rw [document]
    exact stylesOf_texts [] rfl children parts
  have scripts : Gathers ((parse source).scripts.filterMap Source.content?)
      (((parse source).texts []).filter inScript) := by
    rw [document]
    exact scriptsOf_texts [] rfl children parts
  refine ⟨styles, scripts, e.emit_pieces _ classes, (parse source).pieces_texts [] rfl, ?_⟩
  intro t _
  refine ⟨written_apart t, ?_, untaken_around t⟩
  intro style script
  exact ⟨inStyle_around t style, inScript_around t script⟩

/-- A style inside of a script is no raw text where SVG is read, and both walks take its content. -/
theorem nested_style_twice :
    ∃ t, (parse "<svg><script><style>x</style></script></svg>").texts [] = [t] ∧
      t.inStyle = true ∧ t.inScript = true ∧
      (parse "<svg><script><style>x</style></script></svg>").styles = [.inline "x"] ∧
      (parse "<svg><script><style>x</style></script></svg>").scripts = [.inline "x"] := by
  refine ⟨⟨[("html", []), ("body", []), ("svg", []), ("script", []), ("style", [])], "x"⟩, ?_⟩
  decide +kernel

end Pagefold.Html
