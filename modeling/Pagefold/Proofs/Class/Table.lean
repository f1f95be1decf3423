import Mathlib
import Pagefold.Class.Table
import Pagefold.Proofs.Class.Token

/-!
# The table of tokens over a run

A table is used by calls, one after the other. What a call adds is never changed by a later
one, so a name that was written once is written the same way with every later table. This needs
no bound on the number of names.

As long as the counter has not come to its last value, the names stand in the table in the order
of their first sight, each with the next usable index; the kinds of the calls and the calls
for known names do not count. Distinct names therefore have distinct tokens. No token holds
a dot, so the dot that a name is written with leads back to the name.
-/
namespace Pagefold.Class

/-- The written form of a class reference. -/
def redot (dotted : Bool) (bare : String) : String := if dotted then "." ++ bare else bare

/-- A reference is its dot and its bare name. -/
theorem redot_undot (name : String) : redot (undot name).1 (undot name).2 = name := by
  apply String.toList_injective
  unfold undot redot
  split
  · next bare dotted => simp [dotted]
  · simp

/-- Two references with the same dot and the same bare name are equal. -/
theorem undot_injective (a b : String) (same : undot a = undot b) : a = b := by
  rw [← redot_undot a, ← redot_undot b, same]

/-- A token never starts with a dot. -/
theorem token_undotted (token rest : String) (valid : IsToken token) : token ≠ "." ++ rest := by
  intro same
  have member : '.' ∈ token.toList := by simp [same]
  exact absurd (valid.symbols '.' member) (by decide +kernel)

/-- A written token is taken apart into the dot and the token. -/
theorem undot_redot (dotted : Bool) (token : String) (valid : IsToken token) :
    undot (redot dotted token) = (dotted, token) := by
  cases dotted with
  | false =>
    unfold undot redot
    split
    · next rest dotted =>
      refine absurd ?_ (token_undotted token (String.ofList rest) valid)
      apply String.toList_injective
      simpa using dotted
    · rfl
  | true => simp [undot, redot]

namespace Table

/-- How a name is written with the tokens of the table: its token, after the dot if the name
has one. A name without a token is not written. -/
def written? (t : Table) (name : String) : Option String :=
  t.tokens[(undot name).2]?.map (redot (undot name).1)

/-- Every name with a token in the earlier table has that token in the later one. -/
def Within (earlier later : Table) : Prop :=
  ∀ bare token : String, earlier.tokens[bare]? = some token → later.tokens[bare]? = some token

theorem Within.refl (t : Table) : t.Within t := fun _ _ found => found

theorem Within.trans {a b c : Table} (first : a.Within b) (second : b.Within c) : a.Within c :=
  fun bare token found => second bare token (first bare token found)

/-- What an earlier table writes, a later one writes too. -/
theorem Within.written {earlier later : Table} (kept : earlier.Within later) {name text : String}
    (found : earlier.written? name = some text) : later.written? name = some text := by
  simp only [written?, Option.map_eq_some_iff] at found ⊢
  obtain ⟨token, entry, spelled⟩ := found
  exact ⟨token, kept _ _ entry, spelled⟩

/-- The token of a bare name is in the table afterwards, and what was there stays. -/
theorem assign_exact (t : Table) (bare : String) :
    (t.assign bare).2.tokens[bare]? = some (t.assign bare).1 ∧ t.Within (t.assign bare).2 := by
  unfold assign
  cases known : t.tokens[bare]? with
  | some token => exact ⟨known, Within.refl t⟩
  | none =>
    refine ⟨by simp, ?_⟩
    intro other token found
    have different : bare ≠ other := by
      rintro rfl
      rw [known] at found
      cases found
    simpa [Std.HashMap.getElem?_insert, different] using found

/-- A call answers with the token that the name has from then on, and changes no entry. -/
theorem associate_exact (t : Table) (name : String) (kind : Usage) :
    (t.associate name kind).2.written? name = some (t.associate name kind).1 ∧
      t.Within (t.associate name kind).2 := by
  obtain ⟨found, kept⟩ := t.assign_exact (undot name).2
  refine ⟨?_, kept⟩
  change (t.assign (undot name).2).2.tokens[(undot name).2]?.map _ = _
  rw [found]
  rfl

/-- The first name that a new table is asked for has the first token. -/
theorem associate_first (name : String) (kind : Usage) :
    (({} : Table).associate name kind).2.written? name = some (redot (undot name).1 "_") := by
  have first : (generate 0).1 = "_" := by decide +kernel
  rw [(associate_exact {} name kind).1]
  simp [associate, assign, redot, first]

/-- The answers of calls in their order, and the table after them. -/
def associateAll (t : Table) : List (String × Usage) → List String × Table
  | [] => ([], t)
  | (name, kind) :: rest =>
    let (answer, next) := t.associate name kind
    let (answers, last) := next.associateAll rest
    (answer :: answers, last)

@[simp] theorem associateAll_nil (t : Table) : t.associateAll [] = ([], t) := rfl

@[simp] theorem associateAll_cons (t : Table) (call : String × Usage)
    (rest : List (String × Usage)) :
    t.associateAll (call :: rest) =
      ((t.associate call.1 call.2).1 :: ((t.associate call.1 call.2).2.associateAll rest).1,
        ((t.associate call.1 call.2).2.associateAll rest).2) := rfl

/-- Calls made in two parts. -/
theorem associateAll_append (t : Table) (first second : List (String × Usage)) :
    t.associateAll (first ++ second) =
      ((t.associateAll first).1 ++ ((t.associateAll first).2.associateAll second).1,
        ((t.associateAll first).2.associateAll second).2) := by
  induction first generalizing t with
  | nil => rfl
  | cons call rest inductionHypothesis => simp [inductionHypothesis]

/-- There is one answer to each call. -/
theorem answers_length (t : Table) (calls : List (String × Usage)) :
    (t.associateAll calls).1.length = calls.length := by
  induction calls generalizing t with
  | nil => rfl
  | cons call rest inductionHypothesis => simp [inductionHypothesis]

/-- Calls change no entry. -/
theorem within_associateAll (t : Table) (calls : List (String × Usage)) :
    t.Within (t.associateAll calls).2 := by
  induction calls generalizing t with
  | nil => exact Within.refl t
  | cons call rest inductionHypothesis =>
    exact (t.associate_exact call.1 call.2).2.trans (inductionHypothesis _)

/-- Each call was answered with what the last table writes for its name. -/
theorem answers_written (t : Table) (calls : List (String × Usage)) (call : String × Usage)
    (answer : String) (answered : (call, answer) ∈ calls.zip (t.associateAll calls).1) :
    (t.associateAll calls).2.written? call.1 = some answer := by
  induction calls generalizing t with
  | nil => simp at answered
  | cons first rest inductionHypothesis =>
    simp only [associateAll_cons, List.zip_cons_cons, List.mem_cons, Prod.mk.injEq] at answered ⊢
    rcases answered with ⟨rfl, rfl⟩ | later
    · exact (within_associateAll _ rest).written (t.associate_exact call.1 call.2).1
    · exact inductionHypothesis _ later

/-- The bare names of some calls in the order of their first sight. -/
def firstSeen (calls : List (String × Usage)) : List String :=
  (calls.map fun call => (undot call.1).2).eraseDups

/-- One more call shows a new name or none. -/
theorem firstSeen_snoc (calls : List (String × Usage)) (call : String × Usage) :
    firstSeen (calls ++ [call]) =
      if (undot call.1).2 ∈ firstSeen calls then firstSeen calls
      else firstSeen calls ++ [(undot call.1).2] := by
  simp only [firstSeen, List.map_append, List.map_cons, List.map_nil, List.eraseDups_append,
    List.mem_eraseDups]
  split
  · next known => simp [List.removeAll, known]
  · next fresh => simp [List.removeAll, fresh, List.eraseDups_cons]

/-- Earlier calls have shown some of the names. -/
theorem firstSeen_initial (earlier calls : List (String × Usage)) (inside : earlier <+: calls) :
    firstSeen earlier <+: firstSeen calls := by
  obtain ⟨later, rfl⟩ := inside
  simp only [firstSeen, List.map_append, List.eraseDups_append]
  exact List.prefix_append _ _

/-- The names in the list, and no others, have tokens. -/
structure Listed (t : Table) (names : List String) : Prop where
  distinct : names.Nodup
  found : ∀ bare ∈ names, ∃ token : String, t.tokens[bare]? = some token
  known : ∀ bare token : String, t.tokens[bare]? = some token → bare ∈ names
  size : t.tokens.size = names.length

/-- The names stand in the table in this order, each with the next usable index, and the counter
has passed exactly these indices. -/
structure Numbered (t : Table) (names : List String) : Prop extends Listed t names where
  counted : Nat.count Usable t.counter.toNat = names.length
  placed : ∀ k bare, names[k]? = some bare →
    Usable (Nat.nth Usable k) ∧ Nat.nth Usable k < t.counter.toNat ∧
      t.tokens[bare]? = some (encode (.ofNat (Nat.nth Usable k)))
  range : t.counter.toNat ≤ 2 ^ 64 - 1

theorem listed_empty : ({} : Table).Listed [] where
  distinct := List.nodup_nil
  found := by simp
  known := by simp
  size := rfl

theorem numbered_empty : ({} : Table).Numbered [] where
  toListed := listed_empty
  counted := by simp
  placed := by simp
  range := by simp

theorem Listed.absent {t : Table} {names : List String} (listed : t.Listed names) {bare : String}
    (fresh : bare ∉ names) : t.tokens[bare]? = none := by
  cases entry : t.tokens[bare]? with
  | none => rfl
  | some token => exact absurd (listed.known bare token entry) fresh

/-- A new name comes to the list, whatever its token is. -/
theorem listed_assign (t : Table) (names : List String) (bare : String)
    (listed : t.Listed names) :
    (t.assign bare).2.Listed (if bare ∈ names then names else names ++ [bare]) := by
  by_cases member : bare ∈ names
  · obtain ⟨token, entry⟩ := listed.found bare member
    simpa [assign, entry, member] using listed
  · have absent := listed.absent member
    simp only [assign, absent, if_neg member]
    refine ⟨?_, ?_, ?_, ?_⟩
    · exact listed.distinct.append (List.nodup_singleton bare)
        (List.disjoint_singleton.mpr member)
    · intro other inside
      by_cases same : bare = other
      · exact ⟨(generate t.counter).1, by simp [same]⟩
      · have old : other ∈ names := by
          simpa [Ne.symm same] using inside
        obtain ⟨token, entry⟩ := listed.found other old
        exact ⟨token, by simpa [Std.HashMap.getElem?_insert, same] using entry⟩
    · intro other token entry
      rw [Std.HashMap.getElem?_insert] at entry
      by_cases same : bare = other
      · simp [same]
      · simp only [beq_iff_eq, same, if_false] at entry
        exact List.mem_append_left _ (listed.known other token entry)
    · rw [Std.HashMap.size_insert]
      have outside : bare ∉ t.tokens := by simpa using absent
      simp [outside, listed.size]

/-- A token of the table is the written form of a usable index. -/
theorem Numbered.token {t : Table} {names : List String} (numbered : t.Numbered names)
    {bare token : String} (entry : t.tokens[bare]? = some token) : IsToken token := by
  obtain ⟨k, place⟩ := List.mem_iff_getElem?.mp (numbered.known bare token entry)
  obtain ⟨usable, _, written⟩ := numbered.placed k bare place
  rw [written, Option.some.injEq] at entry
  exact entry ▸ token_of_usable _ usable

/-- Two names with one token are one name.

Proof: the indices behind the tokens are equal because both are below the counter's range, and
the usable indices below an index tell its place in the list. -/
theorem Numbered.injective {t : Table} {names : List String} (numbered : t.Numbered names)
    {a b token : String} (left : t.tokens[a]? = some token) (right : t.tokens[b]? = some token) :
    a = b := by
  obtain ⟨i, first⟩ := List.mem_iff_getElem?.mp (numbered.known a token left)
  obtain ⟨j, second⟩ := List.mem_iff_getElem?.mp (numbered.known b token right)
  obtain ⟨_, below, written⟩ := numbered.placed i a first
  obtain ⟨_, under, spelled⟩ := numbered.placed j b second
  have range := numbered.range
  have same : encode (.ofNat (Nat.nth Usable i)) = encode (.ofNat (Nat.nth Usable j)) := by
    rw [← Option.some_inj, ← written, ← spelled, left, right]
  have index : Nat.nth Usable i = Nat.nth Usable j := by
    have equal := congrArg UInt64.toNat (encode_injective _ _ same)
    rwa [UInt64.toNat_ofNat_of_lt' (show _ < 2 ^ 64 by omega),
      UInt64.toNat_ofNat_of_lt' (show _ < 2 ^ 64 by omega)] at equal
  have place : i = j := Nat.nth_injective usable_infinite index
  rw [← Option.some_inj, ← first, ← second, place]

/-- A reference keeps its dot, and what comes after it is the token of the bare name. -/
theorem Numbered.written_undot {t : Table} {names : List String} (numbered : t.Numbered names)
    {a text : String} (written : t.written? a = some text) :
    (undot text).1 = (undot a).1 ∧ t.tokens[(undot a).2]? = some (undot text).2 := by
  simp only [written?, Option.map_eq_some_iff] at written
  obtain ⟨token, entry, rfl⟩ := written
  rw [undot_redot _ token (numbered.token entry)]
  exact ⟨rfl, entry⟩

/-- Two references have the same token exactly if they have the same bare name. -/
theorem Numbered.bare_iff {t : Table} {names : List String} (numbered : t.Numbered names)
    {a b x y : String} (left : t.written? a = some x) (right : t.written? b = some y) :
    (undot x).2 = (undot y).2 ↔ (undot a).2 = (undot b).2 := by
  have first := (numbered.written_undot left).2
  have second := (numbered.written_undot right).2
  constructor
  · intro same
    exact numbered.injective first (same ▸ second)
  · intro same
    rw [same, second] at first
    exact (Option.some.inj first).symm

/-- Two references that are written alike are the same reference, dots included. -/
theorem Numbered.written_injective {t : Table} {names : List String}
    (numbered : t.Numbered names) {a b text : String} (left : t.written? a = some text)
    (right : t.written? b = some text) : a = b := by
  have dots : (undot a).1 = (undot b).1 :=
    (numbered.written_undot left).1.symm.trans (numbered.written_undot right).1
  exact undot_injective a b (Prod.ext dots ((numbered.bare_iff left right).mp rfl))

/-- A call keeps the numbering: a known name changes nothing, and a new one takes the next usable
index.

Proof: the indices that the counter passes over are not usable, so the new index has exactly the
old ones below it. -/
theorem numbered_assign (t : Table) (names : List String) (bare : String)
    (numbered : t.Numbered names)
    (unspent : bare ∉ names → t.counter.toNat < 2 ^ 64 - 1) :
    (t.assign bare).2.Numbered (if bare ∈ names then names else names ++ [bare]) := by
  have listed := listed_assign t names bare numbered.toListed
  by_cases member : bare ∈ names
  · obtain ⟨token, entry⟩ := numbered.found bare member
    simpa [assign, entry, member] using numbered
  · obtain ⟨index, above, below, usable, least, written, next⟩ :=
      generate_exact t.counter (unspent member)
    have count : Nat.count Usable index = names.length := by
      rw [← numbered.counted]
      exact count_skipped _ _ above least
    have place : Nat.nth Usable names.length = index := by rw [← count, Nat.nth_count usable]
    simp only [assign, numbered.absent member, if_neg member] at listed ⊢
    refine ⟨listed, ?_, ?_, ?_⟩
    · simp [next, Nat.count_succ, usable, count]
    · intro k other seen
      rw [List.getElem?_append] at seen
      split at seen
      · obtain ⟨valid, passed, entry⟩ := numbered.placed k other seen
        have different : bare ≠ other := by
          rintro rfl
          exact member (List.mem_of_getElem? seen)
        refine ⟨valid, by simp only [next]; omega, ?_⟩
        simpa [Std.HashMap.getElem?_insert, different] using entry
      · next late =>
        obtain ⟨here, rfl⟩ : k = names.length ∧ bare = other := by
          rcases Nat.lt_or_eq_of_le (Nat.le_of_not_lt late) with beyond | rfl
          · rw [List.getElem?_eq_none (by simp only [List.length_singleton]; omega)] at seen
            cases seen
          · simpa using seen
        rw [here, place]
        exact ⟨usable, by simp only [next]; omega, by simp [written]⟩
    · simp only [next]
      omega

/-- Recording the use of a name touches neither the tokens nor the counter. -/
theorem numbered_associate (t : Table) (names : List String) (call : String × Usage)
    (numbered : t.Numbered names)
    (unspent : (undot call.1).2 ∉ names → t.counter.toNat < 2 ^ 64 - 1) :
    (t.associate call.1 call.2).2.Numbered
      (if (undot call.1).2 ∈ names then names else names ++ [(undot call.1).2]) :=
  let assigned := numbered_assign t names (undot call.1).2 numbered unspent
  ⟨⟨assigned.distinct, assigned.found, assigned.known, assigned.size⟩, assigned.counted,
    assigned.placed, assigned.range⟩

/-- The names of calls are numbered in the order of their first sight, provided that the counter
has not come to its last value when a new name is seen. -/
theorem numbered_calls (calls : List (String × Usage))
    (unspent : ∀ earlier call, earlier ++ [call] <+: calls →
      (undot call.1).2 ∉ firstSeen earlier →
      (({} : Table).associateAll earlier).2.counter.toNat < 2 ^ 64 - 1) :
    (({} : Table).associateAll calls).2.Numbered (firstSeen calls) := by
  induction calls using List.reverseRecOn with
  | nil => exact numbered_empty
  | append_singleton earlier call inductionHypothesis =>
    have numbered := inductionHypothesis fun first next inside fresh =>
      unspent first next (inside.trans (List.prefix_append _ _)) fresh
    rw [associateAll_append, firstSeen_snoc]
    exact numbered_associate _ _ call numbered (unspent earlier call (List.prefix_refl _))

/-- After calls on a new table, the names that were seen have tokens. -/
theorem listed_calls (calls : List (String × Usage)) :
    (({} : Table).associateAll calls).2.Listed (firstSeen calls) := by
  induction calls using List.reverseRecOn with
  | nil => exact listed_empty
  | append_singleton earlier call inductionHypothesis =>
    rw [associateAll_append, firstSeen_snoc]
    have assigned := listed_assign _ _ (undot call.1).2 inductionHypothesis
    exact ⟨assigned.distinct, assigned.found, assigned.known, assigned.size⟩

/-- How many names can be numbered before the counter comes to its last value. -/
def capacity : Nat := Nat.count Usable (2 ^ 64 - 1)

/-- More than four quintillion names can be numbered. -/
theorem capacity_large : 2 ^ 62 - 1 ≤ capacity := by
  have all : ∀ k < 2 ^ 62 - 1, Usable (12 * 64 ^ 10 + k) := by
    intro k bound
    exact last_usable _ (by omega) (by omega)
  have split : 2 ^ 64 - 1 = 12 * 64 ^ 10 + (2 ^ 62 - 1) := by decide
  rw [capacity, split, Nat.count_add, Nat.count_of_forall all]
  exact Nat.le_add_left _ _

/-- A table with fewer names than can be numbered has an unspent counter. -/
theorem Numbered.unspent {t : Table} {names : List String} (numbered : t.Numbered names)
    (few : names.length < capacity) : t.counter.toNat < 2 ^ 64 - 1 := by
  by_contra spent
  have monotone : capacity ≤ Nat.count Usable t.counter.toNat :=
    Nat.count_monotone Usable (Nat.le_of_not_lt spent)
  rw [numbered.counted] at monotone
  omega

/-- If no more distinct names are seen than can be numbered, all of them are. -/
theorem numbered_few (calls : List (String × Usage))
    (few : (firstSeen calls).length ≤ capacity) :
    (({} : Table).associateAll calls).2.Numbered (firstSeen calls) := by
  induction calls using List.reverseRecOn with
  | nil => exact numbered_empty
  | append_singleton earlier call inductionHypothesis =>
    have shorter : (firstSeen earlier).length ≤ (firstSeen (earlier ++ [call])).length :=
      (firstSeen_initial _ _ (List.prefix_append _ _)).length_le
    have numbered := inductionHypothesis (by omega)
    rw [associateAll_append]
    rw [firstSeen_snoc] at few ⊢
    refine numbered_associate _ _ call numbered ?_
    intro fresh
    rw [if_neg fresh, List.length_append, List.length_singleton] at few
    exact numbered.unspent (by omega)

/-- A table that holds no more names than can be numbered has them numbered. -/
theorem numbered_size (calls : List (String × Usage))
    (few : (({} : Table).associateAll calls).2.size ≤ capacity) :
    (({} : Table).associateAll calls).2.Numbered (firstSeen calls) :=
  numbered_few calls (Nat.le_trans (Nat.le_of_eq (listed_calls calls).size.symm) few)

/-- The counter stays unspent through calls that show fewer names than can be numbered. -/
theorem unspent_few (calls : List (String × Usage)) (few : (firstSeen calls).length < capacity)
    (earlier : List (String × Usage)) (inside : earlier <+: calls) :
    (({} : Table).associateAll earlier).2.counter.toNat < 2 ^ 64 - 1 := by
  have shorter : (firstSeen earlier).length ≤ (firstSeen calls).length :=
    (firstSeen_initial earlier calls inside).length_le
  exact (numbered_few earlier (by omega)).unspent (by omega)

/-- What the calls on a new table come to, as long as the counter has not reached its last
value before any of them. Each call is answered, each token is one, and no two bare names have the same token. What a
name has after some of the calls it has after all of them. A call is answered with what the last
table writes for its name, and equal answers come from equal names. The tokens go to the bare
names in the order of their first sight, each to the next usable index, and to no other name.

Proof: the names are numbered in the order of their first sight. -/
theorem calls_exact (calls : List (String × Usage))
    (unspent : ∀ earlier call, earlier ++ [call] <+: calls →
      (({} : Table).associateAll earlier).2.counter.toNat < 2 ^ 64 - 1) :
    let (answers, last) := ({} : Table).associateAll calls
    answers.length = calls.length ∧
    (∀ bare token : String, last.tokens[bare]? = some token → IsToken token) ∧
    (∀ a b token : String, last.tokens[a]? = some token → last.tokens[b]? = some token → a = b) ∧
    (∀ earlier, earlier <+: calls → (({} : Table).associateAll earlier).2.Within last) ∧
    (∀ call answer, (call, answer) ∈ calls.zip answers → last.written? call.1 = some answer) ∧
    (∀ first second answer, (first, answer) ∈ calls.zip answers →
      (second, answer) ∈ calls.zip answers → first.1 = second.1) ∧
    (∀ k bare, (firstSeen calls)[k]? = some bare →
      last.tokens[bare]? = some (encode (.ofNat (Nat.nth Usable k)))) ∧
    (∀ bare token : String, last.tokens[bare]? = some token → bare ∈ firstSeen calls) := by
  have numbered : (({} : Table).associateAll calls).2.Numbered (firstSeen calls) :=
    numbered_calls calls fun earlier call inside _ => unspent earlier call inside
  have written : ∀ call answer, (call, answer) ∈ calls.zip (({} : Table).associateAll calls).1 →
      (({} : Table).associateAll calls).2.written? call.1 = some answer :=
    answers_written {} calls
  refine ⟨answers_length {} calls, fun _ _ => numbered.token, fun _ _ _ => numbered.injective, ?_, written, ?_,
    fun k bare place => (numbered.placed k bare place).2.2, numbered.known⟩
  · rintro earlier ⟨later, rfl⟩
    rw [associateAll_append]
    exact within_associateAll _ later
  · intro first second answer left right
    exact numbered.written_injective (written first answer left) (written second answer right)

/-- Three names in four calls, with and without a dot: the name `a` has its token in both
forms, and no call comes near the end of the counter's range. -/
theorem calls_exact_four :
    let calls : List (String × Usage) := [(".a", .css), ("", .html), ("a", .js), ("..b", .css)]
    (∀ earlier call, earlier ++ [call] <+: calls →
      (({} : Table).associateAll earlier).2.counter.toNat < 2 ^ 64 - 1) ∧
    firstSeen calls = ["a", "", ".b"] ∧
    (({} : Table).associateAll calls).2.tokens["a"]? =
      some (encode (.ofNat (Nat.nth Usable 0))) := by
  intro calls
  have names : firstSeen calls = ["a", "", ".b"] := by decide +kernel
  have few : (firstSeen calls).length < capacity := by
    rw [names]
    exact Nat.lt_of_lt_of_le (by decide) capacity_large
  have unspent : ∀ earlier call, earlier ++ [call] <+: calls →
      (({} : Table).associateAll earlier).2.counter.toNat < 2 ^ 64 - 1 :=
    fun earlier call inside => unspent_few calls few earlier ((List.prefix_append _ _).trans inside)
  obtain ⟨_, _, _, _, _, _, placed, _⟩ := calls_exact calls unspent
  exact ⟨unspent, names, placed 0 "a" (by rw [names]; rfl)⟩

end Table

/-!
## What does not depend on the order of calls

The tokens of a table depend on the order in which its names were seen. Which names it knows, and
in which kinds of sources they were seen, does not: two lists of calls with the same members lead to
tables that report the same.
-/

/-- A name is recorded under the kind of its source, and under no other kind. -/
theorem Uses.mem_add (u : Uses) (bare name : String) (kind other : Usage) :
    name ∈ (u.add bare kind).of other ↔ (bare = name ∧ kind = other) ∨ name ∈ u.of other := by
  cases kind <;> cases other <;> simp [Uses.add, Uses.of, Std.HashSet.mem_insert]

namespace Table

/-- A call records the use of its bare name. -/
theorem associate_uses (t : Table) (name : String) (kind : Usage) :
    (t.associate name kind).2.uses = t.uses.add (undot name).2 kind := by
  have assigned : (t.assign (undot name).2).2.uses = t.uses := by
    unfold assign
    split <;> rfl
  change (t.assign (undot name).2).2.uses.add (undot name).2 kind = _
  rw [assigned]

/-- The names that were seen in a kind of source are those of the calls of that kind. -/
theorem mem_uses (t : Table) (calls : List (String × Usage)) (name : String) (kind : Usage) :
    name ∈ (t.associateAll calls).2.uses.of kind ↔
      name ∈ t.uses.of kind ∨ ∃ call ∈ calls, (undot call.1).2 = name ∧ call.2 = kind := by
  induction calls generalizing t with
  | nil => simp
  | cons call rest inductionHypothesis =>
    rw [associateAll_cons, inductionHypothesis, associate_uses, Uses.mem_add]
    simp only [List.exists_mem_cons_iff]
    tauto

/-- The list of a set is in order. -/
theorem ascending_sorted (names : Std.HashSet String) : (ascending names).Pairwise (· ≤ ·) := by
  refine (List.pairwise_mergeSort ?_ ?_ names.toList).imp fun order => of_decide_eq_true order
  · intro x y z first second
    simp only [decide_eq_true_eq] at first second ⊢
    exact le_trans first second
  · intro x y
    simpa using le_total x y

theorem ascending_nodup (names : Std.HashSet String) : (ascending names).Nodup := by
  refine (List.mergeSort_perm _ _).nodup_iff.mpr ?_
  exact names.distinct_toList.imp fun different => by simpa using different

theorem mem_ascending (names : Std.HashSet String) (name : String) :
    name ∈ ascending names ↔ name ∈ names := by
  rw [ascending, List.mem_mergeSort, Std.HashSet.mem_toList]

/-- Sets with the same names have the same list. -/
theorem ascending_congr (a b : Std.HashSet String) (same : ∀ name, name ∈ a ↔ name ∈ b) :
    ascending a = ascending b := by
  have members : (ascending a).Perm (ascending b) := by
    refine (List.perm_ext_iff_of_nodup (ascending_nodup a) (ascending_nodup b)).mpr fun name => ?_
    rw [mem_ascending, mem_ascending, same name]
  exact members.eq_of_pairwise' (ascending_sorted a) (ascending_sorted b)

/-- The kind of the names of keyframes has no part in what has styles and no use. -/
theorem orphans_congr {t u : Table} (same : ∀ name kind, kind ≠ .keyframe →
    (name ∈ t.uses.of kind ↔ name ∈ u.uses.of kind)) : t.orphans = u.orphans := by
  have styles : t.usage .css = u.usage .css :=
    ascending_congr _ _ fun name => same name .css (by decide)
  have html := fun name => same name .html (by decide)
  have js := fun name => same name .js (by decide)
  simp only [Uses.of, Std.HashSet.mem_iff_contains] at html js
  unfold orphans
  rw [styles]
  refine List.filter_congr fun name _ => ?_
  rw [Bool.eq_iff_iff.mpr (html name), Bool.eq_iff_iff.mpr (js name)]

/-- If no two names share a token of a table, each token determines what stands for its name in
another table. -/
theorem exchange (t u : Table) (injective : ∀ a b token : String, t.tokens[a]? = some token →
    t.tokens[b]? = some token → a = b) :
    ∃ there : String → String, ∀ bare token other : String, t.tokens[bare]? = some token →
      u.tokens[bare]? = some other → there token = other := by
  have determined : ∀ token : String, ∃ found : String, ∀ bare other : String,
      t.tokens[bare]? = some token → u.tokens[bare]? = some other → found = other := by
    intro token
    by_cases used : ∃ bare found : String,
        t.tokens[bare]? = some token ∧ u.tokens[bare]? = some found
    · obtain ⟨name, found, entry, counterpart⟩ := used
      refine ⟨found, fun bare other here there => ?_⟩
      obtain rfl := injective name bare token entry here
      exact Option.some.inj (counterpart.symm.trans there)
    · exact ⟨"", fun bare other here there => absurd ⟨bare, other, here, there⟩ used⟩
  choose there exchanged using determined
  exact ⟨there, fun bare token other here => exchanged token bare other here⟩

section Order

variable {calls others : List (String × Usage)} (same : ∀ call, call ∈ calls ↔ call ∈ others)

include same

theorem uses_order (name : String) (kind : Usage) :
    name ∈ (({} : Table).associateAll calls).2.uses.of kind ↔
      name ∈ (({} : Table).associateAll others).2.uses.of kind := by
  simp only [mem_uses, same]

/-- The same names were seen in each kind of source. -/
theorem usage_order (kind : Usage) :
    (({} : Table).associateAll calls).2.usage kind =
      (({} : Table).associateAll others).2.usage kind :=
  ascending_congr _ _ fun name => uses_order same name kind

/-- The same names have styles and no use. -/
theorem orphans_order :
    (({} : Table).associateAll calls).2.orphans = (({} : Table).associateAll others).2.orphans :=
  orphans_congr fun name kind _ => uses_order same name kind

/-- The same names have tokens. -/
theorem known_order (bare : String) :
    (∃ token, (({} : Table).associateAll calls).2.tokens[bare]? = some token) ↔
      ∃ token, (({} : Table).associateAll others).2.tokens[bare]? = some token := by
  have shown : ∀ list : List (String × Usage),
      (∃ token, (({} : Table).associateAll list).2.tokens[bare]? = some token) ↔
        ∃ call ∈ list, (undot call.1).2 = bare := by
    intro list
    have listed := listed_calls list
    constructor
    · rintro ⟨token, entry⟩
      simpa [firstSeen] using listed.known bare token entry
    · intro seen
      exact listed.found bare (by simpa [firstSeen] using seen)
  rw [shown, shown]
  simp only [same]

/-- There are equally many of them. -/
theorem size_order :
    (({} : Table).associateAll calls).2.size = (({} : Table).associateAll others).2.size := by
  have first := listed_calls calls
  have second := listed_calls others
  have names : (firstSeen calls).Perm (firstSeen others) := by
    refine (List.perm_ext_iff_of_nodup first.distinct second.distinct).mpr fun bare => ?_
    simp [firstSeen, same]
  rw [size, size, first.size, second.size, names.length_eq]

/-- The tokens of the one table can be exchanged for those of the other one and back, unless there
are more names than can be numbered. -/
theorem tokens_order (few : (({} : Table).associateAll calls).2.size ≤ capacity) :
    ∃ there back : String → String, ∀ bare token other : String,
      (({} : Table).associateAll calls).2.tokens[bare]? = some token →
      (({} : Table).associateAll others).2.tokens[bare]? = some other →
        there token = other ∧ back other = token := by
  have first := numbered_size calls few
  have second := numbered_size others (size_order same ▸ few)
  obtain ⟨there, forth⟩ := exchange _ (({} : Table).associateAll others).2
    fun _ _ _ left right => first.injective left right
  obtain ⟨back, returned⟩ := exchange _ (({} : Table).associateAll calls).2
    fun _ _ _ left right => second.injective left right
  exact ⟨there, back, fun bare token other here counterpart =>
    ⟨forth bare token other here counterpart, returned bare other token counterpart here⟩⟩

end Order

end Table

/-!
## What a table reports

After calls on a new table, a report of the table is a function of the set of the calls: which bare
names were asked for in which kinds of sources. How often a call was made and in which order does
not matter, and the calls for the names of keyframes have no part in the report of names that have
styles and no use. None of this needs a bound on the number of names.
-/

/-- Some call asks for the bare name in a source of the kind. -/
def SeenIn (calls : List (String × Usage)) (kind : Usage) (name : String) : Prop :=
  ∃ call ∈ calls, (undot call.1).2 = name ∧ call.2 = kind

namespace Table

/-- The reported lists of names have no repetitions. -/
theorem ascending_strict (names : Std.HashSet String) : (ascending names).Pairwise (· < ·) :=
  (ascending_sorted names).imp₂ (fun _ _ => lt_of_le_of_ne) (ascending_nodup names)

/-- The names that are recorded under a kind after calls on a new table. -/
theorem mem_uses_new (calls : List (String × Usage)) (kind : Usage) (name : String) :
    name ∈ (({} : Table).associateAll calls).2.uses.of kind ↔ SeenIn calls kind name := by
  have new : name ∉ ({} : Table).uses.of kind := by
    cases kind <;> exact Std.HashSet.not_mem_empty
  rw [mem_uses, or_iff_right new, SeenIn]

theorem mem_usage (calls : List (String × Usage)) (kind : Usage) (name : String) :
    name ∈ (({} : Table).associateAll calls).2.usage kind ↔ SeenIn calls kind name := by
  rw [usage, mem_ascending, mem_uses_new]

theorem mem_orphans (calls : List (String × Usage)) (name : String) :
    name ∈ (({} : Table).associateAll calls).2.orphans ↔
      SeenIn calls .css name ∧ ¬ SeenIn calls .html name ∧ ¬ SeenIn calls .js name := by
  have html := mem_uses_new calls .html name
  have js := mem_uses_new calls .js name
  simp only [Uses.of, Std.HashSet.mem_iff_contains] at html js
  rw [orphans, List.mem_filter, mem_usage, ← html, ← js]
  simp

/-- The number of names with tokens is that of the distinct bare names of the calls. -/
theorem size_distinct (calls : List (String × Usage)) :
    (({} : Table).associateAll calls).2.size =
      (calls.map fun call => (undot call.1).2).toFinset.card := by
  have listed := listed_calls calls
  have names : (firstSeen calls).toFinset = (calls.map fun call => (undot call.1).2).toFinset := by
    ext name
    simp [firstSeen]
  rw [size, listed.size, ← List.toFinset_card_of_nodup listed.distinct, names]

/-- What a table reports after calls on a new one. The names of each kind are those that some call asks
for in a source of this kind, bare, ascending and each once. The size is the number of distinct bare
names. The orphans are the names that are asked for in stylesheets but neither in markup nor in
scripts, ascending and each once. Calls with the same members, however often and in whichever order
they are made, lead to the same reports; and the orphans are the same if the calls differ in names of
keyframes. -/
theorem reports_exact (calls : List (String × Usage)) :
    let last := (({} : Table).associateAll calls).2
    (∀ kind, (last.usage kind).Pairwise (· < ·) ∧
      ∀ name, name ∈ last.usage kind ↔ SeenIn calls kind name) ∧
    last.size = (calls.map fun call => (undot call.1).2).toFinset.card ∧
    (last.orphans.Pairwise (· < ·) ∧ ∀ name, name ∈ last.orphans ↔
      SeenIn calls .css name ∧ ¬ SeenIn calls .html name ∧ ¬ SeenIn calls .js name) ∧
    (∀ others, (∀ call, call ∈ calls ↔ call ∈ others) →
      (∀ kind, last.usage kind = (({} : Table).associateAll others).2.usage kind) ∧
        last.size = (({} : Table).associateAll others).2.size ∧
        last.orphans = (({} : Table).associateAll others).2.orphans) ∧
    (∀ others, (∀ call, call.2 ≠ .keyframe → (call ∈ calls ↔ call ∈ others)) →
      last.orphans = (({} : Table).associateAll others).2.orphans) := by
  refine ⟨fun kind => ⟨ascending_strict _, mem_usage calls kind⟩, size_distinct calls,
    ⟨(ascending_strict _).filter _, mem_orphans calls⟩, fun others same =>
      ⟨usage_order same, size_order same, orphans_order same⟩, fun others same => ?_⟩
  refine orphans_congr fun name kind styled => ?_
  rw [mem_uses_new, mem_uses_new]
  refine exists_congr fun call => ?_
  constructor
  · rintro ⟨member, bare, rfl⟩
    exact ⟨(same call styled).mp member, bare, rfl⟩
  · rintro ⟨member, bare, rfl⟩
    exact ⟨(same call styled).mpr member, bare, rfl⟩

/-- A style whose name has no other use than as keyframes is an orphan, also when calls are repeated
and in another order. -/
theorem reports_exact_reordered :
    let calls : List (String × Usage) :=
      [(".a", .css), ("b", .css), ("a", .html), ("b", .keyframe)]
    let others : List (String × Usage) :=
      [("b", .keyframe), ("a", .html), ("b", .css), (".a", .css), ("a", .html)]
    (∀ call, call ∈ calls ↔ call ∈ others) ∧
      "b" ∈ (({} : Table).associateAll others).2.orphans ∧
      "a" ∉ (({} : Table).associateAll others).2.orphans := by
  intro calls others
  have same : ∀ call, call ∈ calls ↔ call ∈ others := by
    intro call
    simp only [calls, others, List.mem_cons, List.not_mem_nil, or_false]
    tauto
  obtain ⟨_, _, ⟨_, members⟩, reordered, _⟩ := reports_exact calls
  rw [← (reordered others same).2.2, members, members]
  have bare : undot ".a" = (true, "a") := by decide
  have plain : undot "a" = (false, "a") ∧ undot "b" = (false, "b") := by decide
  exact ⟨same, by simp [SeenIn, calls, bare, plain], by simp [SeenIn, calls, plain]⟩

end Table

end Pagefold.Class
