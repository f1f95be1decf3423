import Mathlib
import Pagefold.Proofs.Asset.Table
import Pagefold.Proofs.Config
import Pagefold.Proofs.Link
import Pagefold.Proofs.Path.Clean

/-!
# Where references lead

The link of a stylesheet or script is followed from the root of the source tree, wherever that may
be: how far it climbs is read off the link. Nothing keeps it from climbing out of the tree.

The link to an asset is made from the directory of assets and the name of the copy, without looking
at the destination. Followed from the destination it leads to the copy. That it is also read as a
link into the tree, and as a whole, hangs on the characters of the directory of assets and of the
extensions.
-/
namespace Pagefold

/-- A normal path has the names that it goes down by after the root. -/
theorem Path.normal_names (p : Path) (normal : p.IsNormal) :
    p.components = .root :: p.namesOf.map .name := by
  obtain ⟨names, form⟩ := normal
  have same : p.namesOf = names := by
    rw [namesOf, form, List.filterMap_cons_none rfl, List.filterMap_map]
    exact List.filterMap_some
  rw [same, form]

namespace Context

/-- The link of a stylesheet or script leads from the root of the source tree to the end of its
way, whether it starts with a slash or not. -/
theorem resolve_way (c : Context) (root : c.root.IsNormal) (link : String)
    (hostless : Link.isExternal link = false) :
    (c.resolve link c.root).components =
      .root :: ((⟨link⟩ : Path).way.follow c.root.namesOf).map .name := by
  have normal := c.root.normal_names root
  simp only [resolve]
  split
  · next rooted letters =>
    have relative : (⟨String.ofList rooted⟩ : Path).isAbsolute = false := by
      simp only [Path.isAbsolute, String.toList_ofList, beq_eq_false_iff_ne]
      intro slash
      obtain ⟨rest, rfl⟩ := List.head?_eq_some_iff.mp slash
      rw [Link.isExternal, letters] at hostless
      simp [Link.namesHost] at hostless
    have same : (⟨link⟩ : Path).way = (⟨String.ofList rooted⟩ : Path).way := by
      have parts : Path.parts ('/' :: rooted) = Path.parts rooted := Path.parts_append [] rooted
      rw [Path.way, Path.way, letters, parts, String.toList_ofList]
    rw [same]
    exact Path.clean_join_way c.root _ _ normal relative
  · next plain =>
    refine Path.clean_join_way c.root ⟨link⟩ _ normal ?_
    simp only [Path.isAbsolute, beq_eq_false_iff_ne]
    intro slash
    obtain ⟨rest, letters⟩ := List.head?_eq_some_iff.mp slash
    exact plain rest letters

/-- The link of a stylesheet or script is refused exactly if it is external or has a scheme. Any
other link is followed from the root of the source tree: it climbs by as many names as its text
says, at most to the root of the store, and then goes down. It leads out of the source tree unless
it goes down again by the names that it climbed, and it is not refused for that. -/
theorem resolveInlined_way (c : Context) (root : c.root.IsNormal) (tag attr link : String) :
    ((Link.isExternal link = true ∨ Link.hasScheme link = true) ∧
      c.resolveInlined tag attr link = .error (.unsupportedReference tag attr link)) ∨
    ((Link.isExternal link = false ∧ Link.hasScheme link = false) ∧
      ∃ file, c.resolveInlined tag attr link = .ok file ∧
        file.components = .root :: ((⟨link⟩ : Path).way.follow c.root.namesOf).map .name ∧
        (file.isBelow c.root = true ↔
          c.root.namesOf.drop (c.root.namesOf.length - (⟨link⟩ : Path).way.ups) <+:
            (⟨link⟩ : Path).way.downs.reverse)) := by
  by_cases refused : Link.isExternal link = true ∨ Link.hasScheme link = true
  · exact Or.inl ⟨refused, by simp [resolveInlined, refused]⟩
  · simp only [not_or, Bool.not_eq_true] at refused
    have way := c.resolve_way root link refused.1
    refine Or.inr ⟨refused, _, by simp [resolveInlined, refused], way, ?_⟩
    rw [Path.isBelow_iff, way, c.root.normal_names root, ← Path.Way.follow_inside,
      List.prefix_cons_inj]
    exact List.prefix_map_iff_of_injective fun _ _ same => Component.name.inj same

/-- A link that climbs out of the source tree and comes back is followed to a file of the tree. -/
theorem resolveInlined_way_back :
    ∃ file, ({ root := ⟨"/site"⟩, assetDir := ⟨"/out"⟩ } : Context).resolveInlined "script" "src"
      "/js/../../site/app.js" = .ok file ∧ file.isBelow ⟨"/site"⟩ = true := by
  have root : (⟨"/site"⟩ : Path).IsNormal := ⟨["site"], by decide +kernel⟩
  rcases resolveInlined_way { root := ⟨"/site"⟩, assetDir := ⟨"/out"⟩ } root "script" "src"
    "/js/../../site/app.js" with ⟨refused, _⟩ | ⟨_, file, found, _, inside⟩
  · exact absurd refused (by decide +kernel)
  · exact ⟨file, found, inside.mpr (by decide +kernel)⟩

/-- A link that climbs out of the source tree is followed to a file outside. -/
theorem resolveInlined_outside :
    ∃ file, ({ root := ⟨"/site"⟩, assetDir := ⟨"/out"⟩ } : Context).resolveInlined "script" "src"
      "../x.js" = .ok file ∧ file.text = "/x.js" ∧ file.isBelow ⟨"/site"⟩ = false :=
  ⟨_, rfl, by decide +kernel, by decide +kernel⟩

end Context

namespace Config

variable {c : Config}

/-- The names of the directory of assets, and the name of a copy in it. -/
def addressNames (c : Config) (name : String) : List String := c.assetsDir.namesOf ++ [name]

theorem addressNames_plain (c : Config) {name : String} (isName : IsName name) :
    ∀ s ∈ c.addressNames name, IsName s := by
  intro s member
  rcases List.mem_append.mp member with dir | own
  · obtain ⟨part, inside, shown⟩ := List.mem_filterMap.mp dir
    cases part with
    | name text =>
      obtain rfl : text = s := by simpa using shown
      exact c.assetsDir.component_name text inside
    | _ => cases shown
  · exact List.mem_singleton.mp own ▸ isName

/-- The link to an asset is written with these names. -/
theorem publicUrl_joined (c : Config) {name : String} (isName : IsName name) :
    (Bundle.context c).publicUrl name = "/".intercalate (c.addressNames name) := by
  have prefixed : (Bundle.context c).urlPrefix = "/".intercalate c.assetsDir.namesOf := rfl
  rw [Context.publicUrl, prefixed, addressNames]
  by_cases none : c.assetsDir.namesOf = []
  · rw [none]
    simp
  · have some : "/".intercalate c.assetsDir.namesOf ≠ "" :=
      Path.joined_filled (fun s member => c.addressNames_plain isName s
        (List.mem_append_left _ member)) none
    rw [if_neg some, String.intercalate_append_of_ne_nil none (List.cons_ne_nil _ _),
      String.intercalate_singleton]

/-- Followed from the destination, the link to an asset leads to its copy, which is written in the
same way unless the directory of assets is a dot. -/
theorem publicUrl_leads (accepted : c.assetsEscape = false) {name : String}
    (isName : IsName name) :
    (c.destination.join ⟨(Bundle.context c).publicUrl name⟩).clean =
      if c.assetOutputDir.text = "." then ⟨name⟩ else c.assetOutputDir.child name := by
  obtain ⟨descending, names⟩ := Path.joined_descending (c.addressNames_plain isName)
    (by simp [addressNames])
  rw [c.publicUrl_joined isName, assetOutputDir]
  exact c.destination.clean_join_child c.assetsDir _ (assetsDir_descending accepted) descending
    isName names

/-- A character stands in the link to an asset if it stands in the directory of assets or in the
name of the copy, unless it is a separator or a dot. -/
theorem mem_publicUrl (accepted : c.assetsEscape = false) {name : String} (isName : IsName name)
    (mark : Char) (separator : mark ≠ '/') (dot : mark ≠ '.') :
    mark ∈ ((Bundle.context c).publicUrl name).toList ↔
      mark ∈ c.assetsDir.text.toList ∨ mark ∈ name.toList := by
  have letters : ((Bundle.context c).publicUrl name).toList =
      ['/'].intercalate ((c.addressNames name).map String.toList) := by
    rw [c.publicUrl_joined isName, String.toList_intercalate]
    rfl
  rw [letters, Text.mem_joined '/' mark separator,
    c.assetsDir.mem_descending (assetsDir_descending accepted) mark separator dot, addressNames]
  simp only [List.map_append, List.map_cons, List.map_nil, List.mem_append, List.mem_map,
    List.mem_singleton]
  constructor
  · rintro ⟨_, ⟨s, dir, rfl⟩ | rfl, held⟩
    · exact Or.inl ⟨s, dir, held⟩
    · exact Or.inr held
  · rintro (⟨s, dir, held⟩ | held)
    · exact ⟨_, Or.inl ⟨s, dir, rfl⟩, held⟩
    · exact ⟨_, Or.inr rfl, held⟩

/-- The link to an asset starts with the first of its names. -/
theorem lead_publicUrl (c : Config) {name : String} (isName : IsName name) :
    Link.lead ((Bundle.context c).publicUrl name) = Link.lead (c.assetsDir.namesOf.headD name) := by
  have plain := c.addressNames_plain isName
  obtain ⟨first, rest, names, head⟩ : ∃ first rest, c.addressNames name = first :: rest ∧
      c.assetsDir.namesOf.headD name = first := by
    rw [addressNames]
    cases c.assetsDir.namesOf with
    | nil => exact ⟨name, [], rfl, rfl⟩
    | cons first rest => exact ⟨first, rest ++ [name], rfl, rfl⟩
  rw [c.publicUrl_joined isName, head, names]
  have whole := (plain first (names ▸ List.mem_cons_self)).whole
  have clear : ∀ c ∈ first.toList, decide (c ≠ '/') = true := by
    intro c member
    simp only [decide_eq_true_eq]
    rintro rfl
    exact whole member
  have start : ("/".intercalate (first :: rest)).toList.takeWhile (· ≠ '/') = first.toList := by
    cases rest with
    | nil => rw [String.intercalate_singleton, List.takeWhile_eq_self_iff.mpr clear]
    | cons next others =>
      rw [String.intercalate_cons_cons, String.toList_append, String.toList_append,
        List.append_assoc, List.takeWhile_append_of_pos clear]
      simp
  rw [Link.lead, Link.lead, start, List.takeWhile_eq_self_iff.mpr clear]

/-- What can be said about the link to a record's copy, which is written with the directory of assets
and the name of the copy. -/
structure Addresses (c : Config) (r : Asset.Record) (url : String) : Prop where
  /-- Followed from the destination, it leads to the copy, which only a directory that is a dot spells
  in another way. -/
  leads : (c.destination.join ⟨url⟩).clean =
    if c.assetOutputDir.text = "." then ⟨r.name⟩ else r.destination
  /-- It is read as a whole unless the directory or the extension has a number sign. -/
  sign : '#' ∈ url.toList ↔
    '#' ∈ c.assetsDir.text.toList ∨ '#' ∈ (Asset.extension r.source).toList
  query : '?' ∈ url.toList ↔ '?' ∈ c.assetsDir.text.toList
  /-- Whether it is read as a link into the tree hangs on its first name. -/
  isLocal : Link.isLocal url = true ↔
    '?' ∉ c.assetsDir.text.toList ∧
      (Link.lead (c.assetsDir.namesOf.headD r.name)).toList.head? ≠ some '#' ∧
        Link.hasScheme (Link.lead (c.assetsDir.namesOf.headD r.name)) = false
  /-- It is if there is no mark of links in the directory or the extension. -/
  clear : (∀ mark ∈ ['#', '?', ':'],
      mark ∉ c.assetsDir.text.toList ∧ mark ∉ (Asset.extension r.source).toList) →
    Link.isLocal url = true

/-- A mark of links stands in the name of a copy only if it stands in its extension. -/
theorem mem_name {r : Asset.Record} (named : r.Named) {content : Bytes}
    (hash : r.hash = Digest.ofContent content) (mark : Char) (escaped : ¬ Digest.IsUrlSafe mark)
    (dot : mark ≠ '.') : mark ∈ r.name.toList ↔ mark ∈ (Asset.extension r.source).toList := by
  have short : mark ∉ r.short.toList := fun held => escaped (named.short_safe content hash mark held)
  rw [named.spelled]
  split
  · next none => simp [none, short]
  · simp [short, dot]

/-- The link to an asset is not blank, and names no host. -/
theorem publicUrl_hostless (accepted : c.assetsEscape = false) {name : String}
    (isName : IsName name) {letter : Char} (held : letter ∈ name.toList)
    (safe : Digest.IsUrlSafe letter) :
    Link.trimmed ((Bundle.context c).publicUrl name) ≠ "" ∧
      Link.namesHost (Link.trimmed ((Bundle.context c).publicUrl name)).toList = false := by
  obtain ⟨dot, separator⟩ := Digest.plain_of_urlSafe letter safe
  have seen : Text.isBlank letter = false := by
    refine Segment.not_blank_of_isKeyChar letter ?_
    rcases safe with letter | rfl | rfl
    · simp [Segment.isKeyChar, letter]
    · decide
    · decide
  have inside := (mem_publicUrl accepted isName letter separator dot).mpr (Or.inr held)
  rw [Link.trimmed]
  constructor
  · intro empty
    have kept := (Text.mem_trim _ letter seen).mpr inside
    rw [String.ofList_eq_empty_iff.mp empty] at kept
    cases kept
  · rw [String.toList_ofList]
    refine Link.namesHost_none _ fun twice => ?_
    have empty := Text.piece_between '/' _ (twice.trans (Text.trim_infix _))
    have plain := c.addressNames_plain isName
    rw [c.publicUrl_joined isName, Path.joined_pieces plain (by simp [addressNames])] at empty
    obtain ⟨s, among, none⟩ := List.mem_map.mp empty
    exact (plain s among).nonempty (by simpa using none)

/-- The links to the assets of a run. -/
theorem addresses {m : Type → Type} [Monad m] [FileStore m] {σ : Type} (exec : Execution m σ)
    (c : Config) (accepted : c.assetsEscape = false)
    (urls : List String) (s s' : σ) (answers : List (Except StoreError Asset.Record))
    (last : Asset.Table)
    (given : exec.gives (({} : Asset.Table).associateAll (urls.map (·, c.assetOutputDir))) s
      (answers, last) s') :
    ∀ r ∈ last.records, c.Addresses r ((Bundle.context c).publicUrl r.name) := by
  intro r member
  obtain ⟨_, reached, _, made⟩ := Asset.Table.associateAll_exact exec {} _ s s' answers last given
  have named := (reached.sound Asset.Table.sound_empty).named r member
  obtain ⟨call, called, origin, copied, content, _, _, _, hash⟩ := (made r member).resolve_left (by simp)
  obtain ⟨url, _, rfl⟩ := List.mem_map.mp (List.of_mem_zip called).1
  have isName := named.plainName
  have marks : ∀ mark ∈ ['#', '?', ':'],
      mark ∈ ((Bundle.context c).publicUrl r.name).toList ↔
        mark ∈ c.assetsDir.text.toList ∨ mark ∈ (Asset.extension r.source).toList := by
    intro mark isMark
    obtain ⟨separator, dot, escaped⟩ : mark ≠ '/' ∧ mark ≠ '.' ∧ ¬ Digest.IsUrlSafe mark := by
      simp only [List.mem_cons, List.not_mem_nil, or_false] at isMark
      rcases isMark with rfl | rfl | rfl <;> decide
    rw [mem_publicUrl accepted isName mark separator dot, mem_name named hash mark escaped dot]
  have asked : '?' ∉ (Asset.extension r.source).toList :=
    Asset.extension_clear r.source '?' (by decide) (origin ▸ Asset.Table.sourceOf_clear url)
  have query : '?' ∈ ((Bundle.context c).publicUrl r.name).toList ↔
      '?' ∈ c.assetsDir.text.toList := by
    rw [marks '?' (by simp), or_iff_left asked]
  obtain ⟨letter, held⟩ : ∃ letter, letter ∈ r.short.toList :=
    List.exists_mem_of_ne_nil _ (by simpa using named.nonempty)
  have within : letter ∈ r.name.toList := by
    rw [named.spelled]
    split <;> simp [held]
  obtain ⟨filled, hostless⟩ := publicUrl_hostless accepted isName within
    (named.short_safe content hash letter held)
  have isLocal : Link.isLocal ((Bundle.context c).publicUrl r.name) = true ↔
      '?' ∉ c.assetsDir.text.toList ∧
        (Link.lead (c.assetsDir.namesOf.headD r.name)).toList.head? ≠ some '#' ∧
          Link.hasScheme (Link.lead (c.assetsDir.namesOf.headD r.name)) = false := by
    rw [Link.isLocal_iff, query, c.lead_publicUrl isName]
    exact ⟨fun ⟨_, query, _, rest⟩ => ⟨query, rest⟩,
      fun ⟨query, rest⟩ => ⟨filled, query, hostless, rest⟩⟩
  refine ⟨?_, marks '#' (by simp), query, isLocal, fun clear => isLocal.mpr ⟨?_, ?_, ?_⟩⟩
  · rw [publicUrl_leads accepted isName, copied]
  · exact (clear '?' (by simp)).1
  · rw [← c.lead_publicUrl isName]
    intro sign
    have inside := Link.lead_letters _ (List.mem_of_head? sign)
    rcases (marks '#' (by simp)).mp inside with dir | ext
    · exact (clear '#' (by simp)).1 dir
    · exact (clear '#' (by simp)).2 ext
  · rw [← c.lead_publicUrl isName, Bool.eq_false_iff]
    intro scheme
    have inside := Link.lead_letters _ (Link.colon_of_scheme _ scheme)
    rcases (marks ':' (by simp)).mp inside with dir | ext
    · exact (clear ':' (by simp)).1 dir
    · exact (clear ':' (by simp)).2 ext

/-- The link to an asset in a directory with a plain name leads to the copy and is local. -/
theorem addresses_plain :
    let c : Config := { source := ⟨"/site"⟩, destination := ⟨"/out"⟩, assetsDir := ⟨"assets"⟩ }
    let store := ({} : Memory).insertFile ⟨"/site/x.png"⟩ "x".toUTF8
    let result := (({} : Asset.Table).associateAll [("/site/x.png", c.assetOutputDir)] :
      StateM Memory _).run store
    c.assetsEscape = false ∧ result.1.2.records.length = 1 ∧
      ∀ r ∈ result.1.2.records,
        Link.isLocal ((Bundle.context c).publicUrl r.name) = true ∧
          (c.destination.join ⟨(Bundle.context c).publicUrl r.name⟩).clean = r.destination := by
  intro c store result
  have accepted : c.assetsEscape = false := by decide +kernel
  have count : result.1.2.records.length = 1 := by decide +kernel
  have png : ∀ r ∈ result.1.2.records, Asset.extension r.source = "png" := by decide +kernel
  have held : ∀ result, (({} : Asset.Table).associateAll [("/site/x.png", c.assetOutputDir)] :
      StateM Memory _).run store = result →
      ∀ r ∈ result.1.2.records, c.Addresses r ((Bundle.context c).publicUrl r.name) := by
    rintro ⟨⟨answers, last⟩, s'⟩ ran
    exact addresses (Execution.ofState Memory) c accepted ["/site/x.png"] store s' answers last ran
  have unmarked : ∀ mark ∈ ['#', '?', ':'], mark ∉ "assets".toList ∧ mark ∉ "png".toList := by
    simp
  refine ⟨accepted, count, fun r member => ⟨(held _ rfl r member).clear ?_, ?_⟩⟩
  · have dir : c.assetsDir.text = "assets" := rfl
    rw [dir, png r member]
    exact unmarked
  · exact (held _ rfl r member).leads.trans (if_neg (by decide +kernel))

/-- The link to an asset in a directory with a question mark is not local. -/
theorem addresses_query :
    let c : Config := { source := ⟨"/site"⟩, destination := ⟨"/out"⟩, assetsDir := ⟨"a?b"⟩ }
    let store := ({} : Memory).insertFile ⟨"/site/x.png"⟩ "x".toUTF8
    let result := (({} : Asset.Table).associateAll [("/site/x.png", c.assetOutputDir)] :
      StateM Memory _).run store
    c.destination.IsNormal ∧ c.assetsEscape = false ∧ result.1.2.records.length = 1 ∧
      ∀ r ∈ result.1.2.records,
        Link.isLocal ((Bundle.context c).publicUrl r.name) = false ∧
          '?' ∈ ((Bundle.context c).publicUrl r.name).toList := by
  intro c store result
  exact ⟨⟨["out"], by decide +kernel⟩, by decide +kernel, by decide +kernel, by decide +kernel⟩

end Config

end Pagefold
