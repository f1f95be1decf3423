import Mathlib
import Pagefold.Html.Extract
import Pagefold.Proofs.Html.Pieces

/-!
# The asset attributes of a document

The elements of a document that are written, at any depth, and what is collected from them: the
links of their asset attributes, and the placeholder keys of all of their attributes.
-/
namespace Pagefold

namespace Html

mutual

/-- The elements at or below a node that are written, each with its attributes, outer ones first. -/
def Node.written : Node → List (String × List Attribute)
  | .document children => writtenOf children
  | .element name attributes children =>
    if isInlined name attributes then [] else (name, attributes) :: writtenOf children
  | _ => []

/-- The elements in a list of nodes that are written. -/
def writtenOf : List Node → List (String × List Attribute)
  | [] => []
  | n :: rest => n.written ++ writtenOf rest

end

mutual

/-- The elements that are written are those that have a tag among the pieces. -/
theorem Node.opening_mem_pieces {name : String} {attributes : List Attribute} (mode : TextMode) :
    (node : Node) → (.opening name attributes ∈ node.pieces mode ↔ (name, attributes) ∈ node.written)
  | .document children => by
    rw [Node.pieces, Node.written, opening_mem_piecesOf mode children]
  | .doctype other => by simp [Node.pieces, Node.written]
  | .text content => by simp [Node.pieces, Node.written]
  | .comment content => by simp [Node.pieces, Node.written]
  | .element other attrs children => by
    rw [Node.pieces, Node.written]
    cases inlined : isInlined other attrs with
    | true => simp
    | false =>
      have below : .opening name attributes ∈ piecesOf (mode.inside other) children ↔
          (name, attributes) ∈ writtenOf children :=
        opening_mem_piecesOf (mode.inside other) children
      cases alone : children.isEmpty && selfClosing.contains other with
      | true =>
        rw [Bool.and_eq_true, List.isEmpty_iff] at alone
        simp [alone.1, writtenOf]
      | false => simp [below]

theorem opening_mem_piecesOf {name : String} {attributes : List Attribute} (mode : TextMode) :
    (all : List Node) → (.opening name attributes ∈ piecesOf mode all ↔
      (name, attributes) ∈ writtenOf all)
  | [] => by simp [piecesOf, writtenOf]
  | node :: rest => by
    rw [piecesOf, writtenOf, List.mem_append, List.mem_append, node.opening_mem_pieces mode,
      opening_mem_piecesOf mode rest]

end

/-- Where no name is repeated, each attribute has the value under its name. -/
theorem attribute_of_mem {attributes : List Attribute} {a : Attribute}
    (distinct : (attributes.map (·.name)).Nodup) (member : a ∈ attributes) :
    attribute? attributes a.name = some a.value := by
  induction attributes with
  | nil => cases member
  | cons first rest inductionHypothesis =>
    rw [List.map_cons, List.nodup_cons] at distinct
    rcases List.mem_cons.mp member with rfl | later
    · simp [attribute?]
    · have apart : first.name ≠ a.name := fun same =>
        distinct.1 (same ▸ List.mem_map_of_mem later)
      have found := inductionHypothesis distinct.2 later
      rwa [attribute?, List.find?_cons_of_neg (by simpa using apart)]

/-- The asset links of an element. -/
def linksOf (element : String × List Attribute) : List String :=
  (assetAttributes element.1 element.2).filterMap (linkIn? element.2)

mutual

/-- The asset links of a node are those of the elements that are written. -/
theorem Node.assets_written (node : Node) : node.assets = node.written.flatMap linksOf := by
  cases node with
  | document children => exact assetsOf_written children
  | element name attributes children =>
    rw [Node.assets, Node.written]
    split
    · rfl
    · rw [List.flatMap_cons, assetsOf_written children]
      rfl
  | _ => rfl

theorem assetsOf_written (list : List Node) : assetsOf list = (writtenOf list).flatMap linksOf := by
  cases list with
  | nil => rfl
  | cons node rest =>
    rw [assetsOf, writtenOf, List.flatMap_append, node.assets_written, assetsOf_written rest]

end

mutual

/-- If a localizer lacks no key of the markup, it lacks none in the attributes that are written. -/
theorem Node.known_written {l : Localizer} (node : Node) (known : node.missing l = []) :
    ∀ e ∈ node.written, ∀ a ∈ e.2, l.missing a.value.toList = [] := by
  cases node with
  | document children => exact known_writtenOf children known
  | element name attributes children =>
    rw [Node.missing] at known
    rw [Node.written]
    split
    · simp
    · next shown =>
      rw [if_neg shown, List.append_eq_nil_iff] at known
      refine List.forall_mem_cons.mpr ⟨?_, known_writtenOf children known.2⟩
      exact List.flatMap_eq_nil_iff.mp known.1
  | _ => simp [Node.written]

theorem known_writtenOf {l : Localizer} (list : List Node) (known : missingOf l list = []) :
    ∀ e ∈ writtenOf list, ∀ a ∈ e.2, l.missing a.value.toList = [] := by
  cases list with
  | nil => simp [writtenOf]
  | cons node rest =>
    rw [missingOf, List.append_eq_nil_iff] at known
    exact List.forall_mem_append.mpr ⟨node.known_written known.1, known_writtenOf rest known.2⟩

end

/-- The value of an asset attribute that is not blank is among the links of its document. -/
theorem mem_assetLinks {document : Node} {element : String} {attributes : List Attribute}
    (written : (element, attributes) ∈ document.written) {name raw : String}
    (asset : name ∈ assetAttributes element attributes)
    (value : attribute? attributes name = some raw) (filled : Link.trimmed raw ≠ "") :
    Link.trimmed raw ∈ document.assetLinks := by
  rw [Node.assetLinks, List.mem_eraseDups, document.assets_written]
  refine List.mem_flatMap.mpr ⟨_, written, List.mem_filterMap.mpr ⟨name, asset, ?_⟩⟩
  simp [linkIn?, value, filled]

/-- The class attribute is no asset attribute. -/
theorem class_not_asset (element : String) (attributes : List Attribute) :
    "class" ∉ assetAttributes element attributes := by
  unfold assetAttributes
  repeat' split
  all_goals simp

/-- A list without its repeats holds each entry once.

Proof: by induction on the length of the list, as what follows an entry is a filtered list. -/
theorem nodup_eraseDups (list : List String) : list.eraseDups.Nodup := by
  induction size : list.length using Nat.strong_induction_on generalizing list with
  | _ size inductionHypothesis =>
    cases list with
    | nil => simp
    | cons link rest =>
      rw [List.eraseDups_cons, List.nodup_cons]
      refine ⟨by simp [List.mem_eraseDups], inductionHypothesis _ ?_ _ rfl⟩
      rw [← size]
      exact Nat.lt_succ_of_le (List.length_filter_le _ rest)

/-- Each link of a document is listed once. -/
theorem Node.assetLinks_nodup (document : Node) : document.assetLinks.Nodup :=
  nodup_eraseDups document.assets

end Html

end Pagefold
