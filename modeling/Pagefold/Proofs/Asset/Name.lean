import Mathlib
import Pagefold.Asset.Table
import Pagefold.Digest.Content
import Pagefold.Proofs.Search

/-!
# The names of files

A file is named by letters of its digest, which stand for themselves in a URL. The candidates for a
name are tried in order of their length, and one of them is always free.
-/
namespace Pagefold.Digest

/-!
## The letters of a digest

A digest is part of a file name and of a URL. It is never empty, and its letters stand for themselves
in a URL. Neither a dot nor a slash is among them, so a digest neither ends a name nor starts an
extension.
-/

/-- A letter that a file name may hold before its extension. -/
def IsPlain (c : Char) : Prop := c ≠ '.' ∧ c ≠ '/'

instance : DecidablePred IsPlain := fun c => inferInstanceAs (Decidable (c ≠ '.' ∧ c ≠ '/'))

/-- A letter that stands for itself in a URL. -/
def IsUrlSafe (c : Char) : Prop := c.isAlphanum = true ∨ c = '_' ∨ c = '-'

instance : DecidablePred IsUrlSafe := fun c =>
  inferInstanceAs (Decidable (c.isAlphanum = true ∨ c = '_' ∨ c = '-'))

/-- A letter that stands for itself in a URL is plain in a file name. -/
theorem plain_of_urlSafe (c : Char) (safe : IsUrlSafe c) : IsPlain c := by
  constructor
  · rintro rfl
    revert safe
    decide
  · rintro rfl
    revert safe
    decide

/-- The symbols of a digest. -/
theorem symbols_safe :
    ("ABCDEFGHIJKLMNOPQRSTUVWXYZabcdefghijklmnopqrstuvwxyz0123456789_-".toList.all
      fun c => decide (IsUrlSafe c)) = true := by
  decide +kernel

/-- A symbol is safe in a URL, whatever value it stands for. -/
theorem symbol_safe (n : Nat) : IsUrlSafe (symbol n) := by
  rw [symbol, List.getD_eq_getElem?_getD]
  cases place : ("ABCDEFGHIJKLMNOPQRSTUVWXYZabcdefghijklmnopqrstuvwxyz0123456789_-".toList)[n]? with
  | none =>
    rw [Option.getD_none]
    decide
  | some c =>
    exact of_decide_eq_true (List.all_eq_true.mp symbols_safe c (List.mem_of_getElem? place))

theorem digest_safe (content : ByteArray) (c : Char) (member : c ∈ (ofContent content).toList) :
    IsUrlSafe c := by
  simp only [ofContent, render, String.toList_ofList, List.mem_map] at member
  obtain ⟨n, _, rfl⟩ := member
  exact symbol_safe n

theorem digest_plain (content : ByteArray) (c : Char) (member : c ∈ (ofContent content).toList) :
    IsPlain c :=
  plain_of_urlSafe c (digest_safe content c member)

/-- Bytes have a written form that is not empty. -/
theorem sextets_nonempty (bytes : List UInt8) (nonempty : bytes ≠ []) : sextets bytes ≠ [] := by
  unfold sextets
  split <;> simp_all

/-- The hash has bytes, so the digest has letters. -/
theorem digest_nonempty (content : ByteArray) : ofContent content ≠ "" := by
  intro empty
  have letters := congrArg String.toList empty
  simp only [ofContent, render, String.toList_ofList, String.toList_empty,
    List.map_eq_nil_iff] at letters
  refine sextets_nonempty _ ?_ letters
  intro none
  have length : (Sha256.hash content.toList).length = 32 := Sha256.length_hash _
  rw [none] at length
  cases length

end Pagefold.Digest

/-!
## The shortest free name

The candidates for a name are tried in order of their length: the prefixes of the digest from
one letter on, then the digest with a number. There are more numbered candidates than names in
use, so one of the candidates is always free.
-/
namespace Pagefold.Asset

/-- The prefixes of a digest from one letter on. -/
theorem prefixes_exact (digest : String) (nonempty : digest ≠ "") :
    prefixes digest =
      (List.range digest.length).map fun k => String.ofList (digest.toList.take (k + 1)) := by
  obtain ⟨k, length⟩ : ∃ k, digest.length = k + 1 :=
    Nat.exists_eq_succ_of_ne_zero (by simpa using nonempty)
  rw [prefixes, length]
  simp [List.range_succ, List.map_map, Function.comp_def]

theorem prefixes_length (digest : String) (nonempty : digest ≠ "") :
    (prefixes digest).length = digest.length := by
  simp [prefixes_exact digest nonempty]

theorem prefix_entry (digest : String) (nonempty : digest ≠ "") (k : Nat)
    (bound : k < (prefixes digest).length) :
    (prefixes digest)[k] = String.ofList (digest.toList.take (k + 1)) := by
  simp [prefixes_exact digest nonempty]

/-- A name that consists of the first letters of a digest, or of all of them. -/
def Starts (digest short : String) : Prop := short ≠ "" ∧ short.toList <+: digest.toList

theorem Starts.length_pos {digest short : String} (starts : Starts digest short) :
    0 < short.length :=
  Nat.pos_of_ne_zero (by simpa using starts.1)

theorem Starts.length_le {digest short : String} (starts : Starts digest short) :
    short.length ≤ digest.length := by
  rw [← String.length_toList, ← String.length_toList]
  exact starts.2.length_le

/-- A name that a digest starts with is told by its length. -/
theorem Starts.taken {digest short : String} (starts : Starts digest short) :
    String.ofList (digest.toList.take short.length) = short := by
  apply String.toList_injective
  rw [String.toList_ofList, ← String.length_toList]
  exact (List.prefix_iff_eq_take.mp starts.2).symm

/-- A name that a digest starts with is a candidate. -/
theorem mem_of_starts {digest short : String} (nonempty : digest ≠ "")
    (starts : Starts digest short) : short ∈ prefixes digest := by
  have positive := starts.length_pos
  have fits := starts.length_le
  rw [prefixes_exact digest nonempty, List.mem_map]
  refine ⟨short.length - 1, List.mem_range.mpr (by omega), ?_⟩
  rw [Nat.sub_add_cancel positive]
  exact starts.taken

/-- A candidate without a number is a name that the digest starts with. -/
theorem starts_of_mem {digest short : String} (nonempty : digest ≠ "")
    (candidate : short ∈ prefixes digest) : Starts digest short := by
  rw [prefixes_exact digest nonempty, List.mem_map] at candidate
  obtain ⟨k, _, rfl⟩ := candidate
  refine ⟨?_, ?_⟩
  · rw [Ne, String.ofList_eq_empty_iff, List.take_eq_nil_iff]
    simp [nonempty]
  · rw [String.toList_ofList]
    exact List.take_prefix _ _

/-- Two numbered names differ in their numbers. -/
theorem numbered_injective (digest : String) :
    Function.Injective fun k : Nat => digest ++ (k + 1).repr := by
  intro a b same
  have number : (a + 1).repr = (b + 1).repr := String.append_right_inj digest |>.mp same
  exact Nat.succ.inj (Nat.repr_injective number)

theorem numbered_distinct (digest : String) (used : List String) :
    (numbered digest used).Nodup :=
  List.nodup_range.map (numbered_injective digest)

/-- Some numbered candidate is free: they outnumber the names in use. -/
theorem numbered_free (digest : String) (used : List String) :
    ∃ name ∈ numbered digest used, name ∉ used := by
  by_contra taken
  push Not at taken
  have fewer : (numbered digest used).length ≤ used.length :=
    ((numbered_distinct digest used).subperm taken).length_le
  simp only [numbered, List.length_map, List.length_range] at fewer
  omega

/-- The search for a free candidate does not fail if there is one. -/
theorem found_of_free {candidates used : List String} {name : String} (candidate : name ∈ candidates)
    (free : name ∉ used) : ∃ chosen, candidates.find? (!used.contains ·) = some chosen :=
  Option.isSome_iff_exists.mp (List.find?_isSome.mpr ⟨name, candidate, by simpa using free⟩)

/-- What the chosen name is: not in use, a prefix of the digest or the digest with a number, and
no shorter prefix is free. -/
structure Shortest (digest : String) (used : List String) (short : String) : Prop where
  free : short ∉ used
  form : (short ≠ "" ∧ short.toList <+: digest.toList) ∨ ∃ n : Nat, short = digest ++ n.repr
  shorter : ∀ other : String, other ≠ "" → other.toList <+: digest.toList →
    other.length < short.length → other ∈ used

/-- The chosen name is the first free candidate.

Proof: the search does not fail because some numbered candidate is free. A shorter prefix stands
before the chosen name among the candidates, at the place that its length tells, so it has been
passed over. -/
theorem shortest_free (digest : String) (used : List String) (nonempty : digest ≠ "") :
    Shortest digest used (shortestFree digest used) := by
  obtain ⟨name, candidate, free⟩ := numbered_free digest used
  obtain ⟨short, found⟩ := found_of_free (List.mem_append_right (prefixes digest) candidate) free
  have chosen : shortestFree digest used = short := by rw [shortestFree, found]; rfl
  obtain ⟨open_, place, bound, entry, earlier⟩ := List.find?_eq_some_iff_getElem.mp found
  have length := prefixes_length digest nonempty
  rw [chosen]
  refine ⟨by simpa using open_, ?_, ?_⟩
  · rcases List.mem_append.mp (List.mem_of_find?_eq_some found) with plain | counted
    · exact Or.inl (starts_of_mem nonempty plain)
    · obtain ⟨k, _, rfl⟩ := List.mem_map.mp counted
      exact Or.inr ⟨k + 1, rfl⟩
  · intro other proper inside under
    have starts : Starts digest other := ⟨proper, inside⟩
    have positive := starts.length_pos
    have fits := starts.length_le
    have before : other.length - 1 < place := by
      by_cases early : place < (prefixes digest).length
      · rw [List.getElem_append_left early, prefix_entry digest nonempty place early] at entry
        have size : short.length ≤ place + 1 := by
          rw [← entry, String.length_ofList]
          exact List.length_take_le _ _
        omega
      · omega
    have inRange : other.length - 1 < (prefixes digest).length := by omega
    have passed := earlier (other.length - 1) before
    rw [List.getElem_append_left inRange, prefix_entry digest nonempty _ inRange,
      Nat.sub_add_cancel positive, starts.taken] at passed
    simpa using passed

/-!
## Digests with a number

A digest gets a number when all its prefixes are in use, and then it gets the least number from one on
that makes a new name. The digest itself is one of its prefixes, so it is in use, as are all names with
smaller numbers. The number is therefore at most the count of the names in use. As long as these are
fewer than the last value of a 32-bit counter, counting up from one comes to the number before the
counter overflows.
-/

/-- The chosen name is found among the prefixes, or else among the numbered candidates. -/
theorem shortestFree_or (digest : String) (used : List String) :
    shortestFree digest used =
      (((prefixes digest).find? (!used.contains ·)).or
        ((numbered digest used).find? (!used.contains ·))).getD digest := by
  rw [shortestFree, List.find?_append]

/-- If some prefix is free, a prefix is chosen. -/
theorem chosen_starts {digest short : String} {used : List String} (nonempty : digest ≠ "")
    (starts : Starts digest short) (free : short ∉ used) :
    Starts digest (shortestFree digest used) := by
  obtain ⟨chosen, found⟩ := found_of_free (mem_of_starts nonempty starts) free
  rw [shortestFree_or, found]
  exact starts_of_mem nonempty (List.mem_of_find?_eq_some found)

/-- If no prefix is free, the chosen name is the digest with the least number that makes a free
name. -/
theorem chosen_numbered {digest : String} {used : List String} (nonempty : digest ≠ "")
    (taken : ∀ short, Starts digest short → short ∈ used) :
    ∃ n, 1 ≤ n ∧ shortestFree digest used = digest ++ n.repr ∧ digest ++ n.repr ∉ used ∧
      ∀ m, 1 ≤ m → m < n → digest ++ m.repr ∈ used := by
  have none : (prefixes digest).find? (!used.contains ·) = none := by
    rw [List.find?_eq_none]
    intro short candidate
    simpa using taken short (starts_of_mem nonempty candidate)
  obtain ⟨name, candidate, free⟩ := numbered_free digest used
  obtain ⟨chosen, found⟩ := found_of_free candidate free
  obtain ⟨open_, place, bound, entry, earlier⟩ := List.find?_eq_some_iff_getElem.mp found
  obtain rfl : digest ++ (place + 1).repr = chosen := by simpa [numbered] using entry
  refine ⟨place + 1, Nat.succ_pos place, ?_, by simpa using open_, fun m positive below => ?_⟩
  · rw [shortestFree_or, none, found]
    rfl
  · have passed := earlier (m - 1) (by omega)
    simpa [numbered, Nat.sub_add_cancel positive] using passed

/-- The names with smaller numbers and the digest itself are as many names in use.

Proof: they are distinct, because a number has digits and different numbers have different ones. -/
theorem number_bound {digest : String} {used : List String} {n : Nat} (positive : 1 ≤ n)
    (digestUsed : digest ∈ used) (earlier : ∀ m, 1 ≤ m → m < n → digest ++ m.repr ∈ used) :
    n ≤ used.toFinset.card := by
  have distinct : (digest :: (List.range (n - 1)).map fun k => digest ++ (k + 1).repr).Nodup := by
    rw [List.nodup_cons]
    refine ⟨?_, List.nodup_range.map (numbered_injective digest)⟩
    rw [List.mem_map]
    rintro ⟨k, _, same⟩
    have letters := congrArg String.length same
    rw [String.length_append] at letters
    have none : (k + 1).repr.length = 0 := by omega
    exact Nat.repr_ne_empty (String.length_eq_zero_iff.mp none)
  have inside : (digest :: (List.range (n - 1)).map fun k => digest ++ (k + 1).repr).toFinset ⊆
      used.toFinset := by
    intro name member
    rw [List.mem_toFinset, List.mem_cons, List.mem_map] at member
    rw [List.mem_toFinset]
    rcases member with rfl | ⟨k, below, rfl⟩
    · exact digestUsed
    · rw [List.mem_range] at below
      exact earlier (k + 1) (Nat.succ_pos k) (by omega)
  have count := Finset.card_le_card inside
  rw [List.toFinset_card_of_nodup distinct, List.length_cons, List.length_map,
    List.length_range] at count
  omega

/-- A name that is not in use is chosen for every digest, as long as the names in use are fewer than the
last value of a 32-bit counter. It is the shortest free prefix of the digest if there is one. Otherwise
it is the digest with the number to which such a counter comes, from one on and without an overflow,
when it looks for a name that is not in use, and all names with smaller numbers are in use. -/
theorem shortestFree_exact (digest : String) (used : List String) (nonempty : digest ≠ "")
    (few : used.toFinset.card < 2 ^ 32 - 1) :
    shortestFree digest used ∉ used ∧
    ((∃ short, Starts digest short ∧ short ∉ used) →
      Starts digest (shortestFree digest used) ∧
        ∀ other, Starts digest other → other.length < (shortestFree digest used).length →
          other ∈ used) ∧
    ((∀ short, Starts digest short → short ∈ used) →
      ∃ n, countUp (2 ^ 32) (fun n => !used.contains (digest ++ n.repr)) 1 = some n ∧
        shortestFree digest used = digest ++ n.repr ∧ 1 ≤ n ∧ n + 1 < 2 ^ 32 ∧
        ∀ m, 1 ≤ m → m < n → digest ++ m.repr ∈ used) := by
  have shortest := shortest_free digest used nonempty
  refine ⟨shortest.free, ?_, ?_⟩
  · rintro ⟨short, starts, free⟩
    exact ⟨chosen_starts nonempty starts free, fun other start under =>
      shortest.shorter other start.1 start.2 under⟩
  · intro taken
    obtain ⟨n, positive, chosen, free, earlier⟩ := chosen_numbered nonempty taken
    have bound := number_bound positive (taken digest ⟨nonempty, List.prefix_refl _⟩) earlier
    refine ⟨n, ?_, chosen, positive, by omega, earlier⟩
    rw [countUp_eq_some_iff]
    exact ⟨positive, by omega, by simpa using free, fun m from_ below => by
      simpa using earlier m from_ below⟩

/-- A digest of two letters whose prefixes and first number are in use gets the second number. -/
theorem shortestFree_exact_numbered :
    let used := ["ab1", "a", "ab", "a"]
    used.toFinset.card < 2 ^ 32 - 1 ∧ shortestFree "ab" used = "ab2" ∧ "ab2" ∉ used := by
  intro used
  have few : used.toFinset.card < 2 ^ 32 - 1 := by decide
  have chosen : shortestFree "ab" used = "ab2" := by decide +kernel
  exact ⟨few, chosen, chosen ▸ (shortestFree_exact "ab" used (by decide) few).1⟩

end Pagefold.Asset
