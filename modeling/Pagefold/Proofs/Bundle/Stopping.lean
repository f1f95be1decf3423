import Mathlib
import Pagefold.Proofs.Bundle.Overwriting

/-!
# Where a run stops

A run that fails while it is busy with an entry point leaves the documents of the entry points
before it, with the copies of their assets, and nothing else. There are two reasons. The making of a
document only reads, so nothing is written before it is complete. And nothing can fail after it is
complete: the directories that are written to are there since the opening of the run, and a file
that an asset was read from is still there when it is copied.
-/
namespace Pagefold

namespace Memory

section Operations

variable {s s' : Memory}

end Operations

end Memory

namespace Bundle

variable {c : Config} {tools : Toolchain} {l : Localizer}

/-- What the making of a document changes, whether it succeeds or fails. It counts its reads, and
the tables grow by records that are right. -/
structure Gathers (dir : Path) (s s' : Tables × Memory) : Prop where
  files : s'.2.files = s.2.files
  dirs : s'.2.dirs = s.2.dirs
  assets : s.1.assets.Reaches s'.1.assets
  claimed : s'.1.assets.claimed = s.1.assets.claimed
  right : ∀ r ∈ s'.1.assets.records, r ∈ s.1.assets.records ∨
    r.Right dir fun file bytes => s.2.file? file = some bytes

section Making

variable {dir : Path} {s t u : Tables × Memory}

/-- Tables with the same assets and a store with other counts. -/
theorem Gathers.of_counts (reads : List (Path × Nat)) (store : t.2 = { s.2 with reads := reads })
    (assets : t.1.assets = s.1.assets) : Gathers dir s t where
  files := by rw [store]
  dirs := by rw [store]
  assets := by
    rw [assets]
    exact .same
  claimed := by rw [assets]
  right r member := Or.inl (assets ▸ member)

theorem Gathers.refl (s : Tables × Memory) : Gathers dir s s :=
  .of_counts s.2.reads rfl rfl

theorem Gathers.trans (s t u : Tables × Memory) (first : Gathers dir s t)
    (second : Gathers dir t u) : Gathers dir s u where
  files := second.files.trans first.files
  dirs := second.dirs.trans first.dirs
  assets := first.assets.trans second.assets
  claimed := second.claimed.trans first.claimed
  right r member := by
    rcases second.right r member with old | ⟨destination, bytes, held, digest⟩
    · exact first.right r old
    · have held : s.2.file? r.source = some bytes := by
        rw [Memory.file?, ← first.files]
        exact held
      exact Or.inr ⟨destination, bytes, held, digest⟩

/-- What is in place stays in place while a document is made, also if that fails. -/
theorem Placed.gathered {start : Memory} {documents : List Document} {copies : List Copy}
    (placed : Placed c start documents copies s) (gathers : Gathers c.assetOutputDir s t) :
    Placed c start documents copies t := by
  obtain ⟨read, right⟩ := placed.kept t.2 (gathers.files ▸ List.prefix_refl _)
  constructor
  · rw [gathers.files]
    exact placed.files
  · exact placed.named
  · exact read
  · exact gathers.claimed.trans placed.claimed
  · exact fun e member => gathers.assets.records.subset (placed.known e member)
  · exact placed.distinct
  · exact gathers.assets.sound placed.sound
  · intro r member
    rcases gathers.right r member with old | ⟨destination, bytes, held, digest⟩
    · exact right r old
    · exact ⟨destination, bytes, by rwa [Memory.file?, gathers.files], digest⟩

end Making

section Publishing

variable {s s' : Tables × Memory}

end Publishing

end Bundle

end Pagefold
