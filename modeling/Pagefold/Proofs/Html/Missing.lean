import Mathlib
import Pagefold.Html.Emit
import Pagefold.Html.Extract
import Pagefold.Proofs.Localization

/-!
# The keys that stay in a written document

The keys that the dictionary lacks are found in one walk over the document, and the document is
written in another one that does not look for them. To compare the two, a document is written here
while each key that stays in it is noted. The notes do not change what is written, and are the keys
that the other walk has found, except for the attributes that get a new name as an asset: those are
never localized.
-/
namespace Pagefold

variable {n : Type → Type} [Monad n]

namespace Localizer

variable (l : Localizer)

/-- What is written for a segment. The key of a placeholder that stays as it is is noted. -/
def resolveNoting : Segment → StateT (List String) n (List Char)
  | .literal c => pure [c]
  | .placeholder key =>
    match l.value? key with
    | some value => pure value.toList
    | none => do
      modify (· ++ [key])
      pure (Segment.text (.placeholder key))

/-- What is written for segments in a row, with notes. -/
def resolveAllNoting : List Segment → StateT (List String) n (List Char)
  | [] => pure []
  | segment :: rest => do
    let first ← l.resolveNoting segment
    let others ← resolveAllNoting rest
    pure (first ++ others)

/-- A text with every known placeholder replaced; the other keys are noted. -/
def applyNoting (s : List Char) : StateT (List String) n (List Char) :=
  l.resolveAllNoting (Segment.scan s)

end Localizer

namespace Html.Emitter

section Noting

variable (token : String → n String) (e : Emitter)

/-- The value of an attribute before quoting, with notes. -/
def valueNoting (element : String) (attributes : List Attribute) (a : Attribute) :
    StateT (List String) n (List Char) :=
  match e.renamed? element attributes a with
  | some url => pure url.toList
  | none => do
    let localized ← e.localizer.applyNoting (Text.collapse (Text.trim a.value.toList))
    if a.name = "class" then do
      let names := (Text.words (· == ' ') localized).map String.ofList
      let tokens ← StateT.lift (classTokens token names)
      pure (" ".intercalate tokens).toList
    else pure localized

/-- The attributes of an element in order, with notes. -/
def attributesNoting (element : String) (all : List Attribute) :
    List Attribute → StateT (List String) n String
  | [] => pure ""
  | a :: rest => do
    let value ← valueNoting token e element all a
    let written := if value = [] then "" else "=" ++ String.ofList (quoteValue value)
    let others ← attributesNoting element all rest
    pure (" " ++ a.name ++ written ++ others)

/-- Text in a mode, with notes. -/
def textNoting (mode : TextMode) (content : String) : StateT (List String) n String := do
  let localized ← e.localizer.applyNoting content.toList
  pure (String.ofList
    (match mode with
    | .raw => localized
    | .preserve => escapeText localized
    | .collapse => escapeText (Text.collapse localized)))

mutual

/-- The markup of a node, with notes. -/
def nodeNoting (mode : TextMode) : Node → StateT (List String) n String
  | .document children => nodesNoting mode children
  | .doctype name => pure ("<!DOCTYPE " ++ (if name = "" then "html" else name) ++ ">")
  | .text content => e.textNoting mode content
  | .comment _ => pure ""
  | .element name attrs children =>
    if isInlined name attrs then pure ""
    else do
      let written ← attributesNoting token e name attrs attrs
      let opening := "<" ++ name ++ written ++ ">"
      if children.isEmpty && selfClosing.contains name then pure opening
      else
        let content ← nodesNoting (mode.inside name) children
        pure (opening ++ content ++ e.bundle name ++ "</" ++ name ++ ">")

/-- The markup of a list of nodes, with notes. -/
def nodesNoting (mode : TextMode) : List Node → StateT (List String) n String
  | [] => pure ""
  | first :: rest => do
    let written ← nodeNoting mode first
    let others ← nodesNoting mode rest
    pure (written ++ others)

end

end Noting

/-- The markup of a document with the tokens of a table, the table after it, and the keys that stay
in the markup, in order. -/
def emitNoting (e : Emitter) (document : Node) (classes : Class.Table) :
    (String × List String) × Class.Table :=
  ((nodeNoting (fun name => modifyGet (·.associate name .html)) e .collapse document :
    StateT (List String) (StateM Class.Table) String).run []).run classes

end Html.Emitter

/-- Whatever has been noted before, a computation with notes gives what the plain one gives, and
notes the keys, in order. -/
def Notes {α : Type} (noting : StateT (List String) n α) (plain : n α) (keys : List String) :
    Prop :=
  ∀ before, noting.run before = (fun a => (a, before ++ keys)) <$> plain

namespace Notes

variable [LawfulMonad n] {α β : Type}

theorem pure (a : α) : Notes (n := n) (Pure.pure a) (Pure.pure a) [] := by
  intro before
  simp

theorem lift (plain : n α) : Notes (StateT.lift plain) plain [] := by
  intro before
  simp [StateT.run_lift]

/-- Two computations in a row note the keys of the first one and then those of the second one, if
the latter do not depend on what the first one gives. -/
theorem bind {noting : StateT (List String) n α} {plain : n α} {keys later : List String}
    {next : α → StateT (List String) n β} {plainNext : α → n β}
    (first : Notes noting plain keys) (second : ∀ a, Notes (next a) (plainNext a) later) :
    Notes (noting >>= next) (plain >>= plainNext) (keys ++ later) := by
  intro before
  rw [StateT.run_bind, first before, bind_map_left, map_bind]
  congr 1
  funext a
  rw [second a, List.append_assoc]

/-- The result of a computation can be changed afterwards. -/
theorem map {noting : StateT (List String) n α} {plain : n α} {keys : List String} (f : α → β)
    (first : Notes noting plain keys) :
    Notes (do let a ← noting; Pure.pure (f a)) (do let a ← plain; Pure.pure (f a)) keys := by
  have both := first.bind fun a => Notes.pure (f a)
  rwa [List.append_nil] at both

/-- What follows a computation that always gives the same has to note only for that. -/
theorem bind_pure {noting : StateT (List String) n α} {a : α} {keys later : List String}
    {next : α → StateT (List String) n β} {plain : n β} (first : Notes noting (Pure.pure a) keys)
    (second : Notes (next a) plain later) : Notes (noting >>= next) plain (keys ++ later) := by
  intro before
  rw [StateT.run_bind, first before, map_pure, pure_bind, second, List.append_assoc]

end Notes

variable [LawfulMonad n]

namespace Localizer

variable (l : Localizer)

theorem resolveNoting_notes (segment : Segment) :
    Notes (n := n) (l.resolveNoting segment) (pure (l.resolve segment))
      (l.missingKey? segment).toList := by
  cases segment with
  | literal c => exact .pure [c]
  | placeholder key =>
    cases known : l.value? key with
    | some value =>
      simp only [resolveNoting, resolve, missingKey?, known]
      exact .pure value.toList
    | none =>
      intro before
      simp only [resolveNoting, resolve, missingKey?, known]
      simp

/-- Replacing placeholders notes the keys that a text lacks. -/
theorem applyNoting_notes (s : List Char) :
    Notes (n := n) (l.applyNoting s) (pure (l.apply s)) (l.missing s) := by
  have all : ∀ segments : List Segment,
      Notes (n := n) (l.resolveAllNoting segments) (pure (segments.flatMap l.resolve))
        (segments.filterMap l.missingKey?) := by
    intro segments
    induction segments with
    | nil => exact .pure []
    | cons segment rest inductionHypothesis =>
      have keys : (segment :: rest).filterMap l.missingKey? =
          (l.missingKey? segment).toList ++ rest.filterMap l.missingKey? := by
        cases missing : l.missingKey? segment <;> simp [missing]
      rw [keys, List.flatMap_cons, resolveAllNoting]
      refine (l.resolveNoting_notes segment).bind_pure ?_
      rw [← List.append_nil (rest.filterMap _)]
      exact inductionHypothesis.bind_pure (.pure _)
  exact all (Segment.scan s)

end Localizer

namespace Html.Emitter

variable (token : String → n String) (e : Emitter)

/-- The keys left in an attribute: one with a new name is not localized. -/
def leftIn (element : String) (attributes : List Attribute) (a : Attribute) : List String :=
  if (e.renamed? element attributes a).isSome then [] else e.localizer.missing a.value.toList

mutual

/-- The keys left in the markup of a node. -/
def left : Node → List String
  | .document children => leftOf children
  | .element name attributes children =>
    if isInlined name attributes then []
    else attributes.flatMap (e.leftIn name attributes) ++ leftOf children
  | .text content => e.localizer.missing content.toList
  | _ => []

/-- The keys left in the markup of a list of nodes. -/
def leftOf : List Node → List String
  | [] => []
  | first :: rest => left first ++ leftOf rest

end

theorem valueNoting_notes (element : String) (attributes : List Attribute) (a : Attribute) :
    Notes (valueNoting token e element attributes a) (e.value token element attributes a)
      (e.leftIn element attributes a) := by
  rw [valueNoting, value, leftIn]
  cases e.renamed? element attributes a with
  | some url => exact .pure url.toList
  | none =>
    have localized := e.localizer.applyNoting_notes (n := n)
      (Text.collapse (Text.trim a.value.toList))
    rw [Localizer.missing_tidied] at localized
    change Notes (_ >>= _) _ (e.localizer.missing a.value.toList)
    rw [← List.append_nil (e.localizer.missing _)]
    refine localized.bind_pure ?_
    by_cases same : a.name = "class"
    · simp only [same, if_true]
      exact (Notes.lift _).map _
    · simp only [same, if_false]
      exact .pure _

theorem attributesNoting_notes (element : String) (all rest : List Attribute) :
    Notes (attributesNoting token e element all rest) (attributes token e element all rest)
      (rest.flatMap (e.leftIn element all)) := by
  induction rest with
  | nil => exact .pure ""
  | cons a rest inductionHypothesis =>
    rw [attributesNoting, attributes, List.flatMap_cons]
    exact (valueNoting_notes token e element all a).bind fun _ => inductionHypothesis.map _

theorem textNoting_notes (mode : TextMode) (content : String) :
    Notes (n := n) (e.textNoting mode content) (pure (e.text mode content))
      (e.localizer.missing content.toList) := by
  rw [textNoting, ← List.append_nil (e.localizer.missing _)]
  exact (e.localizer.applyNoting_notes content.toList).bind_pure (.pure _)

mutual

/-- The notes on a node are the keys left in it. -/
theorem nodeNoting_notes (mode : TextMode) : (root : Node) →
    Notes (nodeNoting token e mode root) (node token e mode root) (e.left root)
  | .document children => by
    rw [nodeNoting, node, left]
    exact nodesNoting_notes mode children
  | .doctype name => by
    rw [nodeNoting, node, left]
    · exact .pure _
    all_goals simp
  | .text content => by
    rw [nodeNoting, node, left]
    exact e.textNoting_notes mode content
  | .comment content => by
    rw [nodeNoting, node, left]
    · exact .pure _
    all_goals simp
  | .element name attrs children => by
    rw [nodeNoting, node, left]
    cases isInlined name attrs with
    | true => exact .pure ""
    | false =>
      refine (attributesNoting_notes token e name attrs attrs).bind fun written => ?_
      cases childless : children.isEmpty && selfClosing.contains name with
      | true =>
        have none : children = [] := by
          rw [Bool.and_eq_true, List.isEmpty_iff] at childless
          exact childless.1
        rw [none, leftOf]
        exact .pure _
      | false => exact (nodesNoting_notes (mode.inside name) children).map _

/-- The notes on nodes are the keys left in them. -/
theorem nodesNoting_notes (mode : TextMode) : (all : List Node) →
    Notes (nodesNoting token e mode all) (nodes token e mode all) (e.leftOf all)
  | [] => by
    rw [nodesNoting, nodes, leftOf]
    exact .pure ""
  | first :: rest => by
    rw [nodesNoting, nodes, leftOf]
    exact (nodeNoting_notes mode first).bind fun _ => (nodesNoting_notes mode rest).map _

end

mutual

/-- The keys left in a node are among those that the dictionary lacks for it, in the same order. -/
theorem left_sublist : (root : Node) → (e.left root).Sublist (root.missing e.localizer)
  | .document children => by
    rw [left, Node.missing]
    exact leftOf_sublist children
  | .doctype name => by simp [left]
  | .text content => by rw [left, Node.missing]
  | .comment content => by simp [left]
  | .element name attrs children => by
    rw [left, Node.missing]
    cases isInlined name attrs with
    | true => exact List.Sublist.refl []
    | false =>
      have each : ∀ rest : List Attribute, (rest.flatMap (e.leftIn name attrs)).Sublist
          (rest.flatMap fun a => e.localizer.missing a.value.toList) := by
        intro rest
        induction rest with
        | nil => exact .refl []
        | cons a rest inductionHypothesis =>
          have here : (e.leftIn name attrs a).Sublist (e.localizer.missing a.value.toList) := by
            rw [leftIn]
            split
            · exact List.nil_sublist _
            · exact .refl _
          exact here.append inductionHypothesis
      exact (each attrs).append (leftOf_sublist children)

theorem leftOf_sublist : (all : List Node) → (e.leftOf all).Sublist (missingOf e.localizer all)
  | [] => by rw [leftOf, missingOf]
  | first :: rest => by
    rw [leftOf, missingOf]
    exact (left_sublist first).append (leftOf_sublist rest)

end

mutual

/-- Without assets all keys are left that the dictionary lacks. -/
theorem left_without_assets : (root : Node) →
    ({ e with assets := none } : Emitter).left root = root.missing e.localizer
  | .document children => by rw [left, Node.missing, leftOf_without_assets children]
  | .doctype name => by simp [left, Node.missing]
  | .text content => by rw [left, Node.missing]
  | .comment content => by simp [left, Node.missing]
  | .element name attrs children => by
    have each : ({ e with assets := none } : Emitter).leftIn name attrs =
        fun a => e.localizer.missing a.value.toList := by
      funext a
      simp [leftIn, renamed?]
    rw [left, Node.missing, leftOf_without_assets children, each]

theorem leftOf_without_assets : (all : List Node) →
    ({ e with assets := none } : Emitter).leftOf all = missingOf e.localizer all
  | [] => by rw [leftOf, missingOf]
  | first :: rest => by
    rw [leftOf, missingOf, left_without_assets first, leftOf_without_assets rest]

end

/-- The keys that stay in a written document are those that the other walk finds. Noting them
changes nothing: the markup and the table after it are those of `emit`. Without assets, the keys
noted are those found, in the same order and as often, as a value lacks the same keys after it is
trimmed and its blanks are collapsed. With any assets, no key is noted that was not found.

Proof: by induction over the tree, the notes are the keys left in it, and those differ from the keys
found in the attributes with a new name alone. -/
theorem emitNoting_missing (e : Emitter) (document : Node) (classes : Class.Table) :
    let written := e.emitNoting document classes
    let plain := ({ e with assets := none } : Emitter).emitNoting document classes
    (written.1.1, written.2) = e.emit document classes ∧
      plain.1.2 = document.missing e.localizer ∧
      written.1.2.Sublist (document.missing e.localizer) ∧
      ∀ raw, e.localizer.missing (Text.collapse (Text.trim raw)) = e.localizer.missing raw := by
  have notes : ∀ e : Emitter, e.emitNoting document classes =
      (((e.emit document classes).1, e.left document), (e.emit document classes).2) := by
    intro e
    have run := nodeNoting_notes (n := StateM Class.Table)
      (fun name => modifyGet (·.associate name .html)) e .collapse document []
    rw [emitNoting, run]
    rfl
  refine ⟨?_, ?_, ?_, e.localizer.missing_tidied⟩
  · rw [notes]
  · rw [notes]
    exact e.left_without_assets document
  · rw [notes]
    exact e.left_sublist document

end Html.Emitter

end Pagefold
