import Mathlib
import Pagefold.Html.Emit
import Pagefold.Proofs.Html.Assets
import Pagefold.Proofs.Link
import Pagefold.Proofs.Localization
import Pagefold.Proofs.Settled
import Pagefold.Renaming.Document
import Pagefold.Store.Memory

/-!
# What becomes of the asset attributes of a document

An asset attribute is classified by its value as it stands in the source, with its placeholders. If
that value leads into the source tree, then the attribute is written as the new name of its file,
followed by the fragment of the value as it stands. Any other value is localized, and no file belongs
to it, wherever it then leads.

So placeholders make no difference for values that lead elsewhere, before their placeholders are
replaced and afterwards. In a value that leads into the source tree they always make one: they are
still there in the fragment.
-/
namespace Pagefold

/-- The value as it is written by hand, with its placeholders replaced. -/
def Localizer.byHand (l : Localizer) (raw : String) : String := String.ofList (l.apply raw.toList)

namespace Context

variable (c : Context)

/-- The record of the file that a link of the markup leads to, which is named before the fragment. -/
def record? (assets : Asset.Table) (link : String) : Option Asset.Record :=
  assets.find? (Asset.Table.sourceOf
    (c.resolve (Link.splitFragment (Link.trimmed link)).1 c.root).text)

/-- The record of the file that a link in a file of the directory `base` leads to. -/
def recordFrom? (assets : Asset.Table) (base : Path) (link : String) : Option Asset.Record :=
  assets.get? (c.resolve (Link.splitFragment (Link.trimmed link)).1 base).text

/-- What is written for a link with a record. -/
def urlOf (link : String) (r : Asset.Record) : String :=
  c.renamedUrl r.name (Link.splitFragment (Link.trimmed link)).2

/-- What is written for an asset attribute, by its value in the source. -/
inductive Writes (l : Localizer) (assets : Asset.Table) : String → List Char → Prop
  | renamed {raw : String} {r : Asset.Record} : Link.isLocal raw = true →
      c.record? assets raw = some r → Writes l assets raw (c.urlOf raw r).toList
  | localized {raw : String} : Link.isLocal raw = false →
      Writes l assets raw (l.apply (Text.collapse (Text.trim raw.toList)))

/-- The number signs of the new form of a link are those of the name and those of the link. -/
theorem count_url (link : String) (r : Asset.Record) :
    (c.urlOf link r).toList.count '#' =
      (c.publicUrl r.name).toList.count '#' + link.toList.count '#' := by
  have fragment := Link.count_fragment (Link.trimmed link)
  have blanks : (Link.trimmed link).toList.count '#' = link.toList.count '#' := by
    rw [Link.trimmed, String.toList_ofList, Text.count_trim]
  rw [urlOf, renamedUrl, String.toList_append, List.count_append, fragment, blanks]

/-- A name without number signs adds none to the prefix that all names get. -/
theorem count_public (name other : String) (unmarked : '#' ∉ name.toList) :
    (c.publicUrl name).toList.count '#' ≤ (c.publicUrl other).toList.count '#' := by
  have none : name.toList.count '#' = 0 := List.count_eq_zero.mpr unmarked
  unfold publicUrl
  split
  · omega
  · simp only [String.toList_append, List.count_append, none]
    omega

variable {c} {l : Localizer} {assets others : Asset.Table} {raw : String} {text byHand : List Char}

/-- A placeholder in a value that leads into the source tree makes a difference: the attribute is not
written as it is when the value of the placeholder is put in by hand, whatever the assets are.

Proof: by the count of number signs. The placeholder is still there in the fragment, with its number
signs, and what is put in by hand has none. -/
theorem Writes.apart (unmarked : l.Unmarked) (inside : Link.isLocal raw = true)
    (placeholder : ∃ key, .placeholder key ∈ Segment.scan raw.toList ∧ (l.value? key).isSome = true)
    (plain : ∀ r ∈ others.records, '#' ∉ r.name.toList) (written : c.Writes l assets raw text)
    (handwritten : c.Writes l others (l.byHand raw) byHand) : byHand ≠ text := by
  have fewer : (l.byHand raw).toList.count '#' < raw.toList.count '#' := by
    rw [Localizer.byHand, String.toList_ofList]
    exact (unmarked.apply_marks raw.toList).2 placeholder
  obtain ⟨r, rfl⟩ : ∃ r, text = (c.urlOf raw r).toList := by
    cases written with
    | renamed _ _ => exact ⟨_, rfl⟩
    | localized outside =>
      rw [inside] at outside
      cases outside
  have marks := c.count_url raw r
  have most : byHand.count '#' ≤
      (c.publicUrl r.name).toList.count '#' + (l.byHand raw).toList.count '#' := by
    cases handwritten with
    | @renamed other _ found =>
      have name := c.count_public other.name r.name (plain other (List.mem_of_find?_eq_some found))
      rw [c.count_url]
      omega
    | localized _ =>
      have replaced := (unmarked.apply_marks
        (Text.collapse (Text.trim (l.byHand raw).toList))).1
      rw [Text.collapse, Text.count_collapse, Text.count_trim] at replaced
      rw [Text.collapse]
      omega
  rintro rfl
  omega

/-- In a value that leads elsewhere, before its placeholders are replaced and afterwards, they make
no difference, provided that what is put in holds no blanks and no placeholder comes up. -/
theorem Writes.same (dense : l.Dense) (outside : Link.isLocal raw = false)
    (outsideByHand : Link.isLocal (l.byHand raw) = false)
    (replaced : l.apply (l.byHand raw).toList = (l.byHand raw).toList)
    (written : c.Writes l assets raw text)
    (handwritten : c.Writes l others (l.byHand raw) byHand) : byHand = text := by
  cases written with
  | renamed inside _ =>
    rw [outside] at inside
    cases inside
  | localized _ =>
    cases handwritten with
    | renamed inside _ =>
      rw [outsideByHand] at inside
      cases inside
    | localized _ =>
      rw [dense.apply_collapsed, dense.apply_collapsed, replaced, Localizer.byHand,
        String.toList_ofList]

end Context

namespace Renaming

variable {c : Context} {w : World}

/-- A link into the source tree gets the record of its file. Any other link gets none. -/
theorem rename_settled {base : Path} {link : String} {renamed : Option String}
    {answers : List Answer} (settled : (rename c link base : Settled _) w answers renamed) :
    (Link.isLocal link = true ∧ ∃ r, answers = [.record r] ∧
        c.recordFrom? w.assets base link = some r ∧ renamed = some (c.urlOf link r)) ∨
      (Link.isLocal link = false ∧ answers = [] ∧ renamed = none) := by
  unfold rename at settled
  cases inside : Link.isLocal link with
  | true =>
    rw [inside, if_pos rfl] at settled
    rcases parts : Link.splitFragment (Link.trimmed link) with ⟨path, fragment⟩
    rw [parts] at settled
    obtain ⟨first, second, r, joined, asked, last⟩ := settled
    refine Or.inl ⟨rfl, r, ?_, ?_, ?_⟩
    · rw [joined, asked.1, last.1, List.append_nil]
    · rw [Context.recordFrom?, parts]
      exact asked.2
    · rw [Context.urlOf, parts]
      exact last.2
  | false =>
    rw [inside, if_neg Bool.false_ne_true] at settled
    exact Or.inr ⟨rfl, settled⟩

/-- The links into the source tree that are not known yet get the forms of their records, also if
links are repeated. What is known stays, and no other link gets a form. -/
theorem renameAll_found {base : Path} {links : List String} {known found : List (String × String)}
    {answers : List Answer}
    (settled : (renameAll c base known links : Settled _) w answers found) :
    ∃ added, found = known ++ added ∧
      (∀ link url, (link, url) ∈ added → Link.isLocal link = true ∧
        ∃ r ∈ Answer.records answers,
          c.recordFrom? w.assets base link = some r ∧ url = c.urlOf link r) ∧
      ∀ link ∈ links, Link.isLocal link = true → (found.lookup link).isSome = true := by
  induction links generalizing known answers with
  | nil =>
    obtain ⟨rfl, rfl⟩ := settled
    exact ⟨[], (List.append_nil _).symm, by simp, by simp⟩
  | cons link rest inductionHypothesis =>
    rw [renameAll] at settled
    split at settled
    · next already =>
      obtain ⟨added, rfl, formed, all⟩ := inductionHypothesis settled
      refine ⟨added, rfl, formed, List.forall_mem_cons.mpr ⟨fun _ => ?_, all⟩⟩
      obtain ⟨url, form⟩ := Option.isSome_iff_exists.mp already
      rw [List.lookup_append, form]
      rfl
    · obtain ⟨first, second, renamed, rfl, here, later⟩ := settled
      rcases rename_settled here with ⟨inside, r, rfl, record, rfl⟩ | ⟨outside, rfl, rfl⟩
      · obtain ⟨added, rfl, formed, all⟩ := inductionHypothesis later
        refine ⟨(link, c.urlOf link r) :: added, by simp, ?_, ?_⟩
        · intro other url member
          rw [Answer.records_append]
          rcases List.mem_cons.mp member with here | after
          · cases here
            exact ⟨inside, r, List.mem_cons_self, record, rfl⟩
          · obtain ⟨inside, found, among, told⟩ := formed other url after
            exact ⟨inside, found, List.mem_append_right _ among, told⟩
        · refine List.forall_mem_cons.mpr ⟨fun _ => ?_, all⟩
          rw [List.append_assoc, List.lookup_append]
          simp
      · obtain ⟨added, rfl, formed, all⟩ := inductionHypothesis later
        refine ⟨added, rfl, formed, List.forall_mem_cons.mpr ⟨fun inside => ?_, all⟩⟩
        rw [outside] at inside
        cases inside

/-- Each link into the source tree gets a record and its new form, and no other link does. -/
theorem renameAll_settled {links : List String} {known found : List (String × String)}
    {answers : List Answer} (distinct : links.Nodup)
    (fresh : ∀ link ∈ links, known.lookup link = none)
    (settled : (renameAll c c.root known links : Settled _) w answers found) :
    ∃ records, answers = records.map .record ∧
      List.Forall₂ (fun link r => c.record? w.assets link = some r)
        (links.filter Link.isLocal) records ∧
      found = known ++
        List.zipWith (fun link r => (link, c.urlOf link r)) (links.filter Link.isLocal) records := by
  induction links generalizing known answers with
  | nil =>
    obtain ⟨rfl, rfl⟩ := settled
    exact ⟨[], rfl, .nil, (List.append_nil _).symm⟩
  | cons link rest inductionHypothesis =>
    rw [List.nodup_cons] at distinct
    have others := fun other member => fresh other (List.mem_cons_of_mem link member)
    rw [renameAll, fresh link List.mem_cons_self, if_neg (by simp)] at settled
    obtain ⟨first, second, renamed, joined, here, later⟩ := settled
    rcases rename_settled here with ⟨inside, r, asked, record, form⟩ | ⟨outside, nothing, form⟩
    · have still : ∀ other ∈ rest, (known ++ [(link, c.urlOf link r)]).lookup other = none := by
        intro other member
        have apart : (other == link) = false := by
          refine beq_eq_false_iff_ne.mpr ?_
          rintro rfl
          exact distinct.1 member
        rw [List.lookup_append, others other member]
        simp [List.lookup, apart]
      subst form
      obtain ⟨records, made, related, all⟩ := inductionHypothesis distinct.2 still later
      refine ⟨r :: records, by rw [joined, asked, made]; rfl, ?_, ?_⟩
      · rw [List.filter_cons_of_pos inside]
        exact .cons record related
      · rw [all, List.filter_cons_of_pos inside, List.zipWith_cons_cons, List.append_assoc,
          List.singleton_append]
    · subst form
      obtain ⟨records, made, related, all⟩ := inductionHypothesis distinct.2 others later
      rw [List.filter_cons_of_neg (by simp [outside])]
      exact ⟨records, by rw [joined, nothing, made]; rfl, related, all⟩

/-- The new form of a link is found under the link, if links are listed once. -/
theorem lookup_zipWith {links : List String} {records : List Asset.Record}
    {R : String → Asset.Record → Prop} (f : String → Asset.Record → String)
    (distinct : links.Nodup) (related : List.Forall₂ R links records) (link : String) :
    (∃ r, link ∈ links ∧ R link r ∧
      (List.zipWith (fun link r => (link, f link r)) links records).lookup link =
        some (f link r)) ∨
    (link ∉ links ∧
      (List.zipWith (fun link r => (link, f link r)) links records).lookup link = none) := by
  induction related with
  | nil => exact Or.inr ⟨by simp, rfl⟩
  | @cons first r rest records here _ inductionHypothesis =>
    rw [List.nodup_cons] at distinct
    by_cases same : link = first
    · subst same
      exact Or.inl ⟨r, List.mem_cons_self, here, by simp⟩
    · have apart : (link == first) = false := beq_eq_false_iff_ne.mpr same
      rcases inductionHypothesis distinct.2 with ⟨other, among, told, found⟩ | ⟨absent, none⟩
      · refine Or.inl ⟨other, List.mem_cons_of_mem first among, told, ?_⟩
        rw [List.zipWith_cons_cons, List.lookup_cons, apart]
        exact found
      · refine Or.inr ⟨by simp [same, absent], ?_⟩
        rw [List.zipWith_cons_cons, List.lookup_cons, apart]
        exact none

end Renaming

/-- The asset attributes of a document as the emitter `e` writes them. Each is written by its value in
the source. The records are those of the links into the source tree. -/
structure Html.Node.AssetsWritten (c : Context) (l : Localizer) (assets : Asset.Table)
    (document : Html.Node) (e : Html.Emitter) (records : List Asset.Record) : Prop where
  values : ∀ element attributes, (element, attributes) ∈ document.written →
    ∀ name ∈ Html.assetAttributes element attributes, ∀ raw,
      Html.attribute? attributes name = some raw → ∃ text, c.Writes l assets raw text ∧
        ∀ {n : Type → Type} [Monad n] (token : String → n String),
          e.value token element attributes ⟨name, raw⟩ = pure text
  records : List.Forall₂ (fun link r => c.record? assets link = some r)
    (document.assetLinks.filter Link.isLocal) records

/-- With the new forms that the links of a document have, its asset attributes are written so. -/
theorem Renaming.assets_written {c : Context} {l : Localizer} {w : World} {document : Html.Node}
    {answers : List Answer} {found : List (String × String)} {e : Html.Emitter}
    (localizer : e.localizer = l) (forms : e.assets = some found)
    (settled : (Renaming.assets c document : Settled _) w answers found) :
    document.AssetsWritten c l w.assets e (Answer.records answers) := by
  have distinct := document.assetLinks_nodup
  obtain ⟨records, rfl, related, rfl⟩ := renameAll_settled distinct (fun _ _ => rfl) settled
  have same : Answer.records (records.map .record) = records := by
    simp [Answer.records, List.filterMap_map]
  rw [same]
  refine ⟨?_, related⟩
  intro element attributes written name asset raw value
  have isAsset : (Html.assetAttributes element attributes).contains name = true := by
    simpa using asset
  have renamed : e.renamed? element attributes ⟨name, raw⟩ =
      (List.zipWith (fun link r => (link, c.urlOf link r))
        (document.assetLinks.filter Link.isLocal) records).lookup (Link.trimmed raw) := by
    simp only [Html.Emitter.renamed?, isAsset, if_true, forms]
    rfl
  rcases lookup_zipWith c.urlOf (distinct.filter _) related (Link.trimmed raw) with
    ⟨r, among, record, lookup⟩ | ⟨absent, lookup⟩
  · have inside : Link.isLocal raw = true := by
      rw [← Link.isLocal_trimmed]
      exact (List.mem_filter.mp among).2
    have url : c.urlOf (Link.trimmed raw) r = c.urlOf raw r := by
      simp only [Context.urlOf, Link.trimmed_trimmed]
    refine ⟨(c.urlOf raw r).toList, .renamed inside ?_, ?_⟩
    · simpa only [Context.record?, Link.trimmed_trimmed] using record
    · intro n _ token
      simp only [Html.Emitter.value, renamed, lookup, url]
  · have outside : Link.isLocal raw = false := by
      cases inside : Link.isLocal raw with
      | false => rfl
      | true =>
        have filled : Link.trimmed raw ≠ "" := by
          intro blank
          simp [Link.isLocal, blank] at inside
        have member := Html.mem_assetLinks written asset value filled
        refine absurd (List.mem_filter.mpr ⟨member, ?_⟩) absent
        rw [Link.isLocal_trimmed, inside]
    have named : name ≠ "class" := by
      rintro rfl
      exact Html.class_not_asset element attributes asset
    refine ⟨_, .localized outside, ?_⟩
    intro n _ token
    simp only [Html.Emitter.value, renamed, lookup, named, if_false, localizer]

/-- How a document is emitted with the new forms of its assets. It is written piece by piece. An
attribute of a tag that names an asset, by a link into the source tree, is written as the public form
of the record of its file, with the fragment of the link. Every other attribute, and everything that
is no tag, is written as it is without new forms. -/
structure Html.Node.AssetsEmitted (c : Context) (assets : Asset.Table) (document : Html.Node)
    (e : Html.Emitter) (records : List Asset.Record) : Prop where
  markup : ∀ {n : Type → Type} [Monad n] [LawfulMonad n] (token : String → n String),
    e.markup token document = Html.Emitter.writeAll token e (document.pieces .collapse)
  others : ∀ piece ∈ document.pieces .collapse,
    (∀ element attributes, piece ≠ .opening element attributes) →
      ∀ {n : Type → Type} [Monad n] (token : String → n String),
        Html.Emitter.write token e piece = Html.Emitter.write token { e with assets := none } piece
  renamed : ∀ element attributes, .opening element attributes ∈ document.pieces .collapse →
    ∀ a ∈ attributes, a.name ∈ Html.assetAttributes element attributes →
      Link.isLocal (Link.trimmed a.value) = true →
      ∃ r ∈ records, c.recordFrom? assets c.root a.value = some r ∧
        ∀ {n : Type → Type} [Monad n] (token : String → n String),
          e.value token element attributes a = pure (c.urlOf a.value r).toList
  kept : ∀ element attributes, .opening element attributes ∈ document.pieces .collapse →
    ∀ a ∈ attributes, ¬ (a.name ∈ Html.assetAttributes element attributes ∧
        Link.isLocal (Link.trimmed a.value) = true) →
      ∀ {n : Type → Type} [Monad n] (token : String → n String),
        e.value token element attributes a =
          Html.Emitter.value token { e with assets := none } element attributes a

namespace Renaming

/-- What is related to a list entry by entry holds something for each of its entries. -/
theorem exists_related {R : String → Asset.Record → Prop} {links : List String}
    {records : List Asset.Record} (related : List.Forall₂ R links records) {link : String}
    (among : link ∈ links) : ∃ r ∈ records, R link r := by
  obtain ⟨place, bound, rfl⟩ := List.mem_iff_getElem.mp among
  have answered : place < records.length := related.length_eq ▸ bound
  exact ⟨records[place], List.getElem_mem answered, related.get bound answered⟩

variable {c : Context} {assets : Asset.Table} {document : Html.Node} {e : Html.Emitter}
  {records : List Asset.Record} {element : String} {attributes : List Html.Attribute}
  {a : Html.Attribute}

/-- An asset attribute with a link into the source tree is emitted as the form of its record. -/
theorem value_renamed (written : document.AssetsWritten c e.localizer assets e records)
    (shown : (element, attributes) ∈ document.written)
    (value : Html.attribute? attributes a.name = some a.value)
    (asset : a.name ∈ Html.assetAttributes element attributes)
    (inside : Link.isLocal (Link.trimmed a.value) = true) :
    ∃ r ∈ records, c.recordFrom? assets c.root a.value = some r ∧
      ∀ {n : Type → Type} [Monad n] (token : String → n String),
        e.value token element attributes a = pure (c.urlOf a.value r).toList := by
  have filled : Link.trimmed a.value ≠ "" := by
    intro blank
    rw [blank] at inside
    exact absurd inside (by decide)
  have isLink : Link.trimmed a.value ∈ document.assetLinks.filter Link.isLocal :=
    List.mem_filter.mpr ⟨Html.mem_assetLinks shown asset value filled, inside⟩
  obtain ⟨r, among, known⟩ := exists_related written.records isLink
  have found : c.recordFrom? assets c.root a.value = some r := by
    rw [← known, Context.record?, Link.trimmed_trimmed]
    rfl
  obtain ⟨text, form, emitted⟩ := written.values element attributes shown a.name asset _ value
  refine ⟨r, among, found, ?_⟩
  cases form with
  | renamed _ record =>
    obtain rfl := Option.some.inj (record.symm.trans found)
    exact emitted
  | localized outside =>
    rw [Link.isLocal_trimmed, outside] at inside
    cases inside

/-- Any other attribute is emitted as it is without new forms. -/
theorem value_kept (written : document.AssetsWritten c e.localizer assets e records)
    (shown : (element, attributes) ∈ document.written)
    (value : Html.attribute? attributes a.name = some a.value)
    (other : ¬ (a.name ∈ Html.assetAttributes element attributes ∧
      Link.isLocal (Link.trimmed a.value) = true))
    {n : Type → Type} [Monad n] (token : String → n String) :
    e.value token element attributes a =
      Html.Emitter.value token { e with assets := none } element attributes a := by
  have plain : Html.Emitter.renamed? { e with assets := none } element attributes a = none := by
    simp [Html.Emitter.renamed?]
  by_cases asset : a.name ∈ Html.assetAttributes element attributes
  · obtain ⟨text, form, emitted⟩ := written.values element attributes shown a.name asset _ value
    have named : a.name ≠ "class" := fun same =>
      Html.class_not_asset element attributes (same ▸ asset)
    cases form with
    | renamed inside _ => exact absurd ⟨asset, by rwa [Link.isLocal_trimmed]⟩ other
    | localized _ =>
      rw [emitted token, Html.Emitter.value, plain]
      simp only [named, if_false]
  · have absent : e.renamed? element attributes a = none := by
      simp [Html.Emitter.renamed?, asset]
    rw [Html.Emitter.value, Html.Emitter.value, plain, absent]

/-- With the new forms of its links, a document in which no element repeats a name is emitted so. -/
theorem emitted_of_written
    (distinct : ∀ element ∈ document.written, (element.2.map (·.name)).Nodup)
    (written : document.AssetsWritten c e.localizer assets e records) :
    document.AssetsEmitted c assets e records where
  markup token := Html.Emitter.node_pieces token e .collapse document
  others piece _ apart n _ token := by
    cases piece with
    | opening element attributes => exact absurd rfl (apart element attributes)
    | _ => rfl
  renamed element attributes opened a member asset inside := by
    have shown := (document.opening_mem_pieces .collapse).mp opened
    exact value_renamed written shown (Html.attribute_of_mem (distinct _ shown) member) asset inside
  kept element attributes opened a member other n _ token := by
    have shown := (document.opening_mem_pieces .collapse).mp opened
    exact value_kept written shown (Html.attribute_of_mem (distinct _ shown) member) other token

/-- What is collected from a document and what is emitted for it fit together. If no element repeats
a name and the links of the assets are resolved, then the document is emitted with their new forms:
each asset attribute with a link into the source tree is written as the public form of its file, all
else is written as it is without new forms, and the records of all files that are renamed are noted
as referred to.

Proof: the links are listed once each, so that the form of a link is the one under its trimmed text;
and an attribute whose name is not repeated has the value that was collected for it. -/
theorem assets_emitted {m : Type → Type} [Monad m] [FileStore m] {σ : Type} (exec : Execution m σ)
    {forms : List (String × String)} {s s' : Tables × σ}
    (distinct : ∀ element ∈ document.written, (element.2.map (·.name)).Nodup)
    (given : (exec.above Tables).gives (Renaming.assets c document : Renaming m _).run s (.ok forms)
      s') (e : Html.Emitter) :
    ∃ records, s'.1.referenced = s.1.referenced ++ records ∧
      document.AssetsEmitted c s'.1.assets { e with assets := some forms } records := by
  have observes : Observes exec (fun _ _ => True) fun _ => True := fun _ _ _ _ _ _ => ⟨⟨⟩, ⟨⟩⟩
  have asked : (settling exec c.assetDir (fun _ _ => True) fun _ => True).Answers c.assetDir :=
    settling_answers observes
  obtain ⟨_, answers, grown, settles⟩ :=
    Simulation.of_renameAll asked c.root [] document.assetLinks s forms s' given ⟨⟩
  have settled := settles s'.1.classes s'.1.assets (.refl _) .same
  exact ⟨Answer.records answers, grown.noted,
    emitted_of_written distinct (assets_written rfl rfl settled)⟩

/-- An image whose source leads to a file, with a fragment and blanks around it, and whose other
attribute has the name of the file for a text. -/
theorem assets_emitted_image :
    let c : Context := { root := ⟨"/s"⟩, assetDir := ⟨"/o"⟩ }
    let image : List Html.Attribute := [⟨"src", " a#b "⟩, ⟨"alt", "a"⟩]
    let document : Html.Node := .document [.element "img" image []]
    let store := ({} : Memory).insertFile ⟨"/s/a"⟩ "x".toUTF8
    ∃ forms s', ((Execution.ofState Memory).above Tables).gives
        (Renaming.assets c document : Renaming (StateM Memory) _).run ({}, store) (.ok forms) s' ∧
      ∀ token : String → Id String,
        Html.Emitter.value token { assets := some forms } "img" image ⟨"src", " a#b "⟩ =
            pure "L#b".toList ∧
          Html.Emitter.value token { assets := some forms } "img" image ⟨"alt", "a"⟩ =
            pure "a".toList := by
  intro c image document store
  obtain ⟨forms, s', given⟩ := Execution.exists_ok_above
    (Renaming.assets c document : Renaming (StateM Memory) _) ({}, store) (by decide +kernel)
  have ran : ((Renaming.assets c document : Renaming (StateM Memory) _).run.run {}).run store =
      ((.ok forms, s'.1), s'.2) := given
  have tables : (((Renaming.assets c document : Renaming (StateM Memory) _).run.run {}).run
      store).1.2 = s'.1 := by rw [ran]
  have name : (c.recordFrom? s'.1.assets c.root " a#b ").map (c.urlOf " a#b ") = some "L#b" := by
    rw [← tables]
    decide +kernel
  have opened : .opening "img" image ∈ document.pieces .collapse := by
    rw [document.opening_mem_pieces]
    decide
  obtain ⟨records, _, emitted⟩ := assets_emitted _ (by decide) given {}
  refine ⟨forms, s', given, fun token => ⟨?_, ?_⟩⟩
  · obtain ⟨r, _, record, value⟩ :=
      emitted.renamed "img" image opened ⟨"src", " a#b "⟩ (by decide) (by decide) (by decide +kernel)
    rw [record] at name
    rw [value token, Option.some.inj name]
  · rw [emitted.kept "img" image opened ⟨"alt", "a"⟩ (by decide) (by decide +kernel) token]
    rfl

end Renaming

end Pagefold
