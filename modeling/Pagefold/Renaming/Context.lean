import Pagefold.Asset.Table
import Pagefold.Class.Table
import Pagefold.Failure

/-!
# References of a document

Where the links of a document lead, and what is written in their place. The making of a document
asks for texts, tokens and records; in a run, the answers come from the store and from tables of
classes and assets that all documents share. What an action adds to the tables stays there even
if a later action fails.
-/
namespace Pagefold

/-- The tables of a run, with the assets that the document at hand refers to. -/
structure Tables where
  classes : Class.Table := {}
  assets : Asset.Table := {}
  referenced : List Asset.Record := []

/-- An action on the tables and the store that may fail. -/
abbrev Renaming (m : Type → Type) := ExceptT Failure (StateT Tables m)

/-- What links are resolved against. -/
structure Context where
  /-- The root of the source tree. -/
  root : Path
  /-- The directory into which assets are copied. -/
  assetDir : Path
  /-- What stands before the name of an asset in the documents. -/
  urlPrefix : String := ""
  scope : ScriptScope := .everywhere

namespace Context

/-- The path of a link in a file of the directory `base`; a link that starts with a slash is
seen from the root of the source tree. -/
def resolve (c : Context) (link : String) (base : Path) : Path :=
  match link.toList with
  | '/' :: rooted => (c.root.join ⟨String.ofList rooted⟩).clean
  | _ => (base.join ⟨link⟩).clean

/-- The path of a stylesheet or script that is put into the document. -/
def resolveInlined (c : Context) (tag attr link : String) : Except Failure Path :=
  if Link.isExternal link || Link.hasScheme link then
    .error (.unsupportedReference tag attr link)
  else .ok (c.resolve link c.root)

/-- The link to an asset in the documents. -/
def publicUrl (c : Context) (name : String) : String :=
  if c.urlPrefix = "" then name else c.urlPrefix ++ "/" ++ name

/-- The link to a renamed asset, with the fragment of the link that led to it. -/
def renamedUrl (c : Context) (name : String) (fragment : Option String) : String :=
  c.publicUrl name ++ (fragment.map ("#" ++ ·)).getD ""

end Context

/-- What the making of a document asks for: the text of a file, the token of a name, the record
of the asset at a path that is copied into a directory, and an end with a failure. -/
class Supply (n : Type → Type) where
  text : Path → n String
  token : String → Class.Usage → n String
  asset : Path → Path → n Asset.Record
  refuse : {α : Type} → Failure → n α

namespace Renaming

variable {m : Type → Type} [Monad m]

/-- A question to the store or a change of it. -/
def store {α : Type} (action : ExceptT StoreError m α) : Renaming m α :=
  ExceptT.mk do
    match ← StateT.lift action.run with
    | .ok a => pure (.ok a)
    | .error e => pure (.error (.store e))

variable [FileStore m]

/-- The text of a file. -/
def readText (file : Path) : Renaming m String := do
  let bytes ← store (FileStore.read file)
  ExceptT.mk (pure ((Text.Utf8.decode bytes).mapError (.notText file)))

/-- The record of the asset at a path, made on first sight, and noted as referred to. -/
def record (dir source : Path) : Renaming m Asset.Record := do
  let tables ← get
  let (found, assets) ← store (tables.assets.associate source.text dir)
  set { tables with assets := assets, referenced := tables.referenced ++ [found] }
  pure found

/-- The token of a name, made on first sight. -/
def token (name : String) (kind : Class.Usage) : Renaming m String := do
  let tables ← get
  let (text, classes) := tables.classes.associate name kind
  set { tables with classes := classes }
  pure text

instance : Supply (Renaming m) where
  text := readText
  token := token
  asset := record
  refuse := throw

/-- The assets that the document refers to so far, which are then forgotten. -/
def takeReferenced : Renaming m (List Asset.Record) := do
  let tables ← get
  set { tables with referenced := [] }
  pure tables.referenced

section Making

variable {n : Type → Type} [Monad n] [Supply n]

/-- A result that was computed without asking. -/
def pureResult {α : Type} : Except Failure α → n α
  | .ok a => pure a
  | .error failure => Supply.refuse failure

/-- What is written for a link to an asset from a file in the directory `base`. A link that
does not lead into the source tree has no other form. -/
def rename (c : Context) (link : String) (base : Path) : n (Option String) :=
  if Link.isLocal link then do
    let (path, fragment) := Link.splitFragment (Link.trimmed link)
    let found ← Supply.asset c.assetDir (c.resolve path base)
    pure (some (c.renamedUrl found.name fragment))
  else pure none

/-- The new forms of some links from files in the directory `base`, each link once. -/
def renameAll (c : Context) (base : Path) (known : List (String × String)) :
    List String → n (List (String × String))
  | [] => pure known
  | link :: rest =>
    if (known.lookup link).isSome then renameAll c base known rest
    else do
      match ← rename c link base with
      | some url => renameAll c base (known ++ [(link, url)]) rest
      | none => renameAll c base known rest

end Making

end Renaming

end Pagefold
