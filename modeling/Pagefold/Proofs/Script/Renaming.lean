import Mathlib
import Pagefold.Proofs.Class.Table
import Pagefold.Proofs.Script.Declaration

/-!
# Renamed scripts

A script is read in one way only: as a list of characters that are copied and of declarations. When
the declarations are written with the tokens of their classes, the script is still read as the same
list, and scripts that are joined with semicolons are read one by one. So the declarations of a
renamed bundle are those that were renamed, in order.
-/
namespace Pagefold.Script

open Text ClassConstant

/-- A declaration with another class, written with single blanks and single quotes. -/
def Declaration.renamed (d : Declaration) (token : List Char) (filled : token ≠ [])
    (chars : ∀ c ∈ token, isClassChar c = true) : Declaration :=
  { d with
    gap := [' '], before := [' '], after := [' '], opening := '\'', cls := token, closing := '\''
    gap_filled := List.cons_ne_nil _ _
    gap_blank := List.forall_mem_singleton.mpr (by decide)
    before_blank := List.forall_mem_singleton.mpr (by decide)
    after_blank := List.forall_mem_singleton.mpr (by decide)
    opening_quote := rfl
    cls_filled := filled
    cls_chars := chars
    closing_quote := rfl }

/-- A part of a script: a character that is copied, or a declaration as it is written. -/
inductive Part where
  | copied (c : Char)
  | declared (d : Declaration)

namespace Part

/-- The text of a part. -/
def text : Part → List Char
  | copied c => [c]
  | declared d => d.text

/-- What is read from a part. -/
def piece : Part → Piece
  | copied c => .literal c
  | declared d => .constant d.constant

/-- Parts that are read as they are: where a character is copied, no declaration starts or the text
before ends inside a word, and no declaration is in the middle of a word. -/
inductive Canonical : Bool → List Part → Prop
  | nil {inWord : Bool} : Canonical inWord []
  | copied {inWord : Bool} {c : Char} {rest : List Part}
      (absent : inWord = true ∨ at? (c :: rest.flatMap text) = none)
      (later : Canonical (isWordChar c) rest) : Canonical inWord (.copied c :: rest)
  | declared {d : Declaration} {rest : List Part} (later : Canonical false rest) :
      Canonical false (.declared d :: rest)

/-! ## Reading parts -/

/-- The characters of a declaration are passed over. -/
theorem scanFrom_passed (inWord : Bool) (passed rest : List Char) (last : Char) :
    Piece.scanFrom inWord (passed ++ [last]).length (passed ++ [last] ++ rest) =
      Piece.scanFrom (isWordChar last) 0 rest := by
  induction passed generalizing inWord with
  | nil => rfl
  | cons c passed inductionHypothesis => exact inductionHypothesis (isWordChar c)

/-- Canonical parts are read as they are. -/
theorem Canonical.scan_eq {inWord : Bool} {parts : List Part} (canonical : Canonical inWord parts) :
    Piece.scanFrom inWord 0 (parts.flatMap text) = parts.map piece := by
  induction canonical with
  | nil => rfl
  | @copied inWord c rest absent _ inductionHypothesis =>
    have unread : (if inWord then none else at? (c :: rest.flatMap text)) = none := by
      rcases absent with inside | none
      · rw [if_pos inside]
      · rw [none, ite_self]
    have whole : (Part.copied c :: rest).flatMap text = c :: rest.flatMap text := rfl
    rw [whole, Piece.scanFrom]
    simp only [unread, inductionHypothesis]
    rfl
  | @declared d rest _ inductionHypothesis =>
    obtain ⟨first, passed, ends⟩ := d.text_ends
    have whole : (Part.declared d :: rest).flatMap text =
        first :: (passed ++ [d.closing] ++ rest.flatMap text) := by
      rw [List.flatMap_cons, text, ends]
      simp
    have found : at? (first :: (passed ++ [d.closing] ++ rest.flatMap text)) =
        some (d.constant, rest.flatMap text) :=
      (at_iff _ _ _).mpr ⟨d, rfl, by rw [ends]; simp⟩
    have quote : isWordChar d.closing = false := by
      rcases (isQuote_iff _).mp d.closing_quote with same | same <;> rw [same] <;> decide
    rw [whole, Piece.scanFrom]
    simp only [Bool.false_eq_true, if_false, found]
    rw [List.length_append, Nat.add_sub_cancel, scanFrom_passed, quote, inductionHypothesis]
    rfl

/-- Every text is made of canonical parts. -/
theorem canonical_exists (inWord : Bool) (s : List Char) :
    ∃ parts, Canonical inWord parts ∧ parts.flatMap text = s := by
  induction length : s.length using Nat.strongRecOn generalizing inWord s with
  | _ n inductionHypothesis =>
    cases s with
    | nil => exact ⟨[], .nil, rfl⟩
    | cons c r =>
      have copy (absent : inWord = true ∨ at? (c :: r) = none) :
          ∃ parts, Canonical inWord parts ∧ parts.flatMap text = c :: r := by
        obtain ⟨parts, canonical, rfl⟩ :=
          inductionHypothesis r.length (by simp [← length]) (isWordChar c) r rfl
        exact ⟨.copied c :: parts, .copied absent canonical, rfl⟩
      cases inWord with
      | true => exact copy (Or.inl rfl)
      | false =>
        cases found : at? (c :: r) with
        | none => exact copy (Or.inr found)
        | some read =>
          obtain ⟨d, _, split⟩ := (at_iff _ _ _).mp found
          obtain ⟨first, passed, ends⟩ := d.text_ends
          have shorter : read.2.length < n := by
            rw [← length, split, ends]
            simp
            omega
          obtain ⟨parts, canonical, same⟩ :=
            inductionHypothesis _ shorter false read.2 rfl
          exact ⟨.declared d :: parts, .declared canonical, by
            rw [split, ← same]
            rfl⟩

/-- The parts of a text are read as they are. -/
theorem scan_parts (s : List Char) :
    ∃ parts, Canonical false parts ∧ parts.flatMap text = s ∧ Piece.scan s = parts.map piece := by
  obtain ⟨parts, canonical, rfl⟩ := canonical_exists false s
  exact ⟨parts, canonical, rfl, canonical.scan_eq⟩

/-! ## Parts that are written anew -/

/-- Copied characters stay, and declarations are written with other classes. -/
inductive Renamed : Part → Part → Prop
  | copied (c : Char) : Renamed (.copied c) (.copied c)
  | declared (d : Declaration) {token : List Char} (filled : token ≠ [])
      (chars : ∀ c ∈ token, isClassChar c = true) :
      Renamed (.declared d) (.declared (d.renamed token filled chars))

/-- What is read up to the first declaration. -/
theorem leading (parts : List Part) :
    ∃ (cs : List Char) (rest : List Part), parts = cs.map .copied ++ rest ∧
      (rest = [] ∨ ∃ d more, rest = .declared d :: more) := by
  induction parts with
  | nil => exact ⟨[], [], rfl, Or.inl rfl⟩
  | cons part parts inductionHypothesis =>
    cases part with
    | declared d => exact ⟨[], _, rfl, Or.inr ⟨d, parts, rfl⟩⟩
    | copied c =>
      obtain ⟨cs, rest, rfl, ends⟩ := inductionHypothesis
      exact ⟨c :: cs, rest, rfl, ends⟩

/-- Before a declaration the text ends outside of words. -/
theorem Canonical.boundary {inWord : Bool} {cs : List Char} {d : Declaration} {more : List Part}
    (canonical : Canonical inWord (cs.map .copied ++ .declared d :: more)) :
    cs.getLast?.elim inWord isWordChar = false := by
  induction cs generalizing inWord with
  | nil =>
    cases canonical
    rfl
  | cons c cs inductionHypothesis =>
    cases canonical with
    | copied _ later =>
      have last := inductionHypothesis later
      cases cs with
      | nil => exact last
      | cons e others =>
        rw [List.getLast?_cons_cons]
        rwa [List.getLast?_eq_getLast_of_ne_nil (List.cons_ne_nil e others)] at last ⊢

/-- The copied characters before a declaration stay before it. -/
theorem renamed_leading {cs : List Char} {rest new : List Part}
    (each : List.Forall₂ Renamed (cs.map .copied ++ rest) new) :
    ∃ others, new = cs.map .copied ++ others ∧ List.Forall₂ Renamed rest others := by
  induction cs generalizing new with
  | nil => exact ⟨new, rfl, each⟩
  | cons c cs inductionHypothesis =>
    cases each with
    | cons first later =>
      cases first
      obtain ⟨others, rfl, more⟩ := inductionHypothesis later
      exact ⟨others, rfl, more⟩

/-- The text of copied characters. -/
theorem flatMap_copied (cs : List Char) (rest : List Part) :
    (cs.map Part.copied ++ rest).flatMap text = cs ++ rest.flatMap text := by
  rw [List.flatMap_append, List.flatMap_map]
  congr 1
  exact List.flatMap_singleton' cs

/-- Parts whose declarations are written anew are still read as they are.

Proof: what starts at a copied character would end before the next declaration, where both texts are
the same. -/
theorem Canonical.renamed {inWord : Bool} {parts new : List Part}
    (canonical : Canonical inWord parts) (each : List.Forall₂ Renamed parts new) :
    Canonical inWord new := by
  induction canonical generalizing new with
  | nil =>
    cases each
    exact .nil
  | @copied inWord c rest absent later inductionHypothesis =>
    cases each with
    | @cons _ _ _ newRest first others =>
      cases first
      refine .copied ?_ (inductionHypothesis others)
      have position := absent
      rcases absent with inside | none
      · exact Or.inl inside
      right
      rw [Option.eq_none_iff_forall_not_mem] at none ⊢
      rintro ⟨read, left⟩ found
      obtain ⟨starting, _, split⟩ := (at_iff _ _ _).mp found
      obtain ⟨cs, rest, rfl, ends⟩ := leading rest
      obtain ⟨newRest, rfl, more⟩ := renamed_leading others
      rw [flatMap_copied] at none found split
      rcases ends with rfl | ⟨d, tail, rfl⟩
      · cases more
        exact none (read, left) found
      · cases more with
        | cons first' _ =>
          cases first'
          have outside : Canonical inWord ((c :: cs).map .copied ++ .declared d :: tail) :=
            .copied position later
          have apart : starting.text <+: c :: cs :=
            Declaration.text_apart (List.cons_ne_nil c cs) (fun e last => by
              have boundary := outside.boundary
              rwa [Option.mem_def.mp last] at boundary) split
          obtain ⟨between, whole⟩ := apart
          exact none _ ((at_iff _ _ _).mpr ⟨starting, rfl, by
            rw [← List.cons_append, ← whole, List.append_assoc]⟩)
  | declared _ inductionHypothesis =>
    cases each with
    | cons first others =>
      cases first
      exact .declared (inductionHypothesis others)

/-! ## Scripts that are joined -/

/-- What stands between two scripts that are joined. -/
def separator : List Part := [.copied ';', .copied '\n']

/-- No declaration reaches over the separator, and none starts in it. -/
theorem Canonical.separated {inWord : Bool} {first second : List Part}
    (canonical : Canonical inWord first) (others : Canonical false second) :
    Canonical inWord (first ++ separator ++ second) := by
  induction canonical with
  | nil =>
    have outside : isWordChar '\n' = false := by decide +kernel
    refine .copied (Or.inr (at_none (by decide) _)) (.copied (Or.inr (at_none (by decide) _)) ?_)
    rwa [outside]
  | @copied inWord c rest absent _ inductionHypothesis =>
    refine .copied (absent.imp id fun none => ?_) inductionHypothesis
    have parted := at_parted none ('\n' :: second.flatMap text)
    change at? (c :: (rest ++ separator ++ second).flatMap text) = Option.none
    rwa [List.flatMap_append, List.flatMap_append, List.append_assoc]
  | declared _ inductionHypothesis => exact .declared inductionHypothesis

/-- Scripts that are joined are read one by one. -/
theorem canonical_joined {scripts : List (List Part)}
    (each : ∀ parts ∈ scripts, Canonical false parts) :
    Canonical false (separator.intercalate scripts) := by
  induction scripts with
  | nil => exact .nil
  | cons parts others inductionHypothesis =>
    have first := each parts List.mem_cons_self
    have later := inductionHypothesis fun other member => each other (List.mem_cons_of_mem _ member)
    by_cases last : others = []
    · rwa [last, List.intercalate_singleton]
    · rw [List.intercalate_cons_of_ne_nil last]
      exact first.separated later

/-- The text of joined scripts. -/
theorem text_joined (scripts : List (List Part)) :
    (separator.intercalate scripts).flatMap text =
      (";\n".intercalate (scripts.map fun parts => String.ofList (parts.flatMap text))).toList := by
  rw [String.toList_intercalate]
  induction scripts with
  | nil => rfl
  | cons parts others inductionHypothesis =>
    by_cases last : others = []
    · simp [last]
    · rw [List.intercalate_cons_of_ne_nil last, List.map_cons, List.map_cons,
        List.intercalate_cons_of_ne_nil (by simpa using last), ← inductionHypothesis,
        List.flatMap_append, List.flatMap_append, String.toList_ofList]
      rfl

/-- The name that a part declares. -/
def name? : Part → Option String
  | copied _ => none
  | declared d => some (String.ofList d.name)

/-- The names that are declared, in order. -/
def names (parts : List Part) : List String := parts.filterMap name?

/-- The constants of a script are those of its declarations. -/
theorem constants_names {source : String} {parts : List Part} (canonical : Canonical false parts)
    (whole : parts.flatMap text = source.toList) :
    (constants source).map (·.name) = names parts := by
  rw [constants, ← whole, Piece.scan, canonical.scan_eq, List.filterMap_map, List.map_filterMap,
    names]
  congr 1
  funext part
  cases part <;> rfl

theorem names_renamed {parts new : List Part} (each : List.Forall₂ Renamed parts new) :
    names new = names parts := by
  induction each with
  | nil => rfl
  | cons first _ inductionHypothesis =>
    cases first with
    | copied c => exact inductionHypothesis
    | declared d _ _ =>
      simp only [names, List.filterMap_cons, name?] at inductionHypothesis ⊢
      rw [inductionHypothesis]
      rfl

theorem names_joined (scripts : List (List Part)) :
    names (separator.intercalate scripts) = scripts.flatMap names := by
  induction scripts with
  | nil => rfl
  | cons parts others inductionHypothesis =>
    by_cases last : others = []
    · simp [last]
    · have silent : separator.filterMap name? = [] := rfl
      rw [List.intercalate_cons_of_ne_nil last, List.flatMap_cons, ← inductionHypothesis, names,
        List.filterMap_append, List.filterMap_append, silent, List.append_nil]
      rfl

theorem names_scripts {scripts new : List (List Part)}
    (each : List.Forall₂ (List.Forall₂ Renamed) scripts new) :
    new.flatMap names = scripts.flatMap names := by
  induction each with
  | nil => rfl
  | cons first _ inductionHypothesis =>
    rw [List.flatMap_cons, List.flatMap_cons, names_renamed first, inductionHypothesis]

end Part

/-! ## The tokens that are written -/

/-- The tokens of a table can stand for classes in scripts. -/
def Spelled (t : Class.Table) : Prop :=
  ∀ bare token : String, t.tokens[bare]? = some token →
    token.toList ≠ [] ∧ ∀ c ∈ token.toList, isClassChar c = true

/-- The symbols of tokens are characters of classes. -/
theorem spelled_generate (counter : UInt64) :
    (Class.generate counter).1.toList ≠ [] ∧
      ∀ c ∈ (Class.generate counter).1.toList, isClassChar c = true := by
  have symbols : ∀ c ∈ Class.alphabet, isClassChar c = true := by
    rw [← List.all_eq_true]
    decide +kernel
  have some : ∀ n, Class.digits n ≠ [] := by
    intro n
    rw [Class.digits]
    split <;> simp
  rw [Class.generate, Class.encode, String.toList_ofList]
  refine ⟨by simpa using some _, fun c member => ?_⟩
  obtain ⟨d, digit, rfl⟩ := List.mem_map.mp member
  exact symbols _ (Class.symbol_member d (Class.digit_bound _ d digit))

theorem Spelled.associate {t : Class.Table} (spelled : Spelled t) (name : String)
    (kind : Class.Usage) : Spelled (t.associate name kind).2 := by
  intro bare token found
  change (t.assign (Class.undot name).2).2.tokens[bare]? = some token at found
  unfold Class.Table.assign at found
  split at found
  · exact spelled bare token found
  · rw [Std.HashMap.getElem?_insert] at found
    split at found
    · cases found
      exact spelled_generate t.counter
    · exact spelled bare token found

theorem spelled_calls (calls : List (String × Class.Usage)) :
    Spelled (({} : Class.Table).associateAll calls).2 := by
  have all : ∀ t, Spelled t → Spelled (t.associateAll calls).2 := by
    induction calls with
    | nil => exact fun _ spelled => spelled
    | cons call calls inductionHypothesis =>
      intro t spelled
      rw [Class.Table.associateAll_cons]
      exact inductionHypothesis _ (spelled.associate call.1 call.2)
  exact all _ fun _ _ found => by simp at found

/-- The dotted token of a dotted class. -/
theorem Spelled.answer {t : Class.Table} (spelled : Spelled t) (cls : List Char)
    (kind : Class.Usage) : ∃ token : List Char, token ≠ [] ∧ (∀ c ∈ token, isClassChar c = true) ∧
      (t.associate (String.ofList ('.' :: cls)) kind).1 = String.ofList ('.' :: token) := by
  have answer : (t.associate (String.ofList ('.' :: cls)) kind).1 =
      "." ++ (t.assign (String.ofList cls)).1 := by
    simp [Class.Table.associate, Class.undot]
  have known : (t.assign (String.ofList cls)).1.toList ≠ [] ∧
      ∀ c ∈ (t.assign (String.ofList cls)).1.toList, isClassChar c = true := by
    unfold Class.Table.assign
    split
    · next token found => exact spelled _ token found
    · exact spelled_generate t.counter
  refine ⟨_, known.1, known.2, ?_⟩
  rw [answer, String.ofList_cons, String.ofList_toList]
  rfl

/-! ## Runs over a table -/

/-- The question for the token of a class in a script. -/
def asked (name : String) : StateM Class.Table String := modifyGet (·.associate name .js)

/-- A text that is written with the tokens of a table, and the table after it. -/
def written (pieces : List Piece) (t : Class.Table) : List Char × Class.Table :=
  (Piece.renameAll asked pieces).run t

theorem written_literal (c : Char) (rest : List Piece) (t : Class.Table) :
    written (.literal c :: rest) t = (c :: (written rest t).1, (written rest t).2) := rfl

theorem written_constant (d : ClassConstant) (rest : List Piece) (t : Class.Table) :
    written (.constant d :: rest) t =
      ((d.written (t.associate d.cls .js).1).toList ++ (written rest (t.associate d.cls .js).2).1,
        (written rest (t.associate d.cls .js).2).2) := rfl

theorem renameConstants_run (source : String) (t : Class.Table) :
    (renameConstants source).run t = (String.ofList (written (Piece.scan source.toList) t).1,
      (written (Piece.scan source.toList) t).2) := rfl

/-- Pieces are written one after the other. -/
theorem written_append (first second : List Piece) (t : Class.Table) :
    written (first ++ second) t = ((written first t).1 ++ (written second (written first t).2).1,
      (written second (written first t).2).2) := by
  induction first generalizing t with
  | nil => rfl
  | cons piece first inductionHypothesis =>
    cases piece with
    | literal c => rw [List.cons_append, written_literal, inductionHypothesis, written_literal]; rfl
    | constant d =>
      rw [List.cons_append, written_constant, inductionHypothesis, written_constant,
        List.append_assoc]

/-- Parts that are written with tokens are parts again. -/
theorem written_parts (parts : List Part) {t : Class.Table} (spelled : Spelled t) :
    ∃ new later, List.Forall₂ Part.Renamed parts new ∧ Spelled later ∧
      written (parts.map Part.piece) t = (new.flatMap Part.text, later) := by
  induction parts generalizing t with
  | nil => exact ⟨[], t, .nil, spelled, rfl⟩
  | cons part parts inductionHypothesis =>
    cases part with
    | copied c =>
      obtain ⟨new, later, each, fits, same⟩ := inductionHypothesis spelled
      refine ⟨.copied c :: new, later, .cons (.copied c) each, fits, ?_⟩
      rw [List.map_cons, Part.piece, written_literal, same]
      rfl
    | declared d =>
      obtain ⟨token, filled, chars, answer⟩ := spelled.answer d.cls .js
      obtain ⟨new, later, each, fits, same⟩ :=
        inductionHypothesis (spelled.associate (String.ofList ('.' :: d.cls)) .js)
      refine ⟨_ :: new, later, .cons (.declared d filled chars) each, fits, ?_⟩
      rw [List.map_cons, Part.piece, written_constant, Declaration.constant, answer, same,
        ClassConstant.written]
      simp [Declaration.renamed, Part.text, Declaration.text]

/-- Scripts that are written one after the other are written as if they were joined. -/
theorem written_scripts (chunks : List String) {t : Class.Table} (spelled : Spelled t) :
    ∃ (scripts new : List (List Part)) (later : Class.Table),
      (∀ parts ∈ scripts, Part.Canonical false parts) ∧
      chunks = scripts.map (fun parts => String.ofList (parts.flatMap Part.text)) ∧
      List.Forall₂ (List.Forall₂ Part.Renamed) scripts new ∧
      (chunks.mapM renameConstants).run t =
        (new.map fun parts => String.ofList (parts.flatMap Part.text), later) ∧
      written ((Part.separator.intercalate scripts).map Part.piece) t =
        ((Part.separator.intercalate new).flatMap Part.text, later) := by
  induction chunks generalizing t with
  | nil => exact ⟨[], [], t, nofun, rfl, .nil, rfl, rfl⟩
  | cons chunk chunks inductionHypothesis =>
    obtain ⟨parts, canonical, whole, scanned⟩ := Part.scan_parts chunk.toList
    obtain ⟨first, middle, renamed, fits, here⟩ := written_parts parts spelled
    obtain ⟨scripts, new, later, each, restored, others, run, joined⟩ := inductionHypothesis fits
    refine ⟨parts :: scripts, first :: new, later, List.forall_mem_cons.mpr ⟨canonical, each⟩, ?_,
      .cons renamed others, ?_, ?_⟩
    · rw [List.map_cons, whole, String.ofList_toList, restored]
    · have start : (renameConstants chunk).run t =
          (String.ofList (first.flatMap Part.text), middle) := by
        rw [renameConstants_run, scanned, here]
      rw [List.mapM_cons, StateT.run_bind, start]
      exact congrArg (fun w : List String × Class.Table =>
        (String.ofList (first.flatMap Part.text) :: w.1, w.2)) run
    · by_cases last : scripts = []
      · subst last
        cases others
        have unchanged : middle = later := congrArg Prod.snd joined
        rw [List.intercalate_singleton, List.intercalate_singleton, here, unchanged]
      · have more : new ≠ [] := by
          rintro rfl
          exact last (List.forall₂_nil_right_iff.mp others)
        have between : written (Part.separator.map Part.piece ++
            (Part.separator.intercalate scripts).map Part.piece) middle =
              (';' :: '\n' :: (Part.separator.intercalate new).flatMap Part.text, later) := by
          rw [written_append, Part.separator, List.map_cons, List.map_singleton]
          exact congrArg (fun w => (';' :: '\n' :: w.1, w.2)) joined
        rw [List.intercalate_cons_of_ne_nil last, List.intercalate_cons_of_ne_nil more,
          List.map_append, List.map_append, List.append_assoc, written_append, here, between,
          List.flatMap_append, List.flatMap_append, List.append_assoc]
        rfl

/-- Scripts whose constants are renamed one after the other and that are then joined declare what
they declared before, in order. Renamed as one, they give the same text and the same table. So the
unused constants of the bundle are the declared ones that stand in it once.

Proof: a text is read in one way only, as copied characters and declarations. What is written for a
declaration is a declaration with the same keyword and the same name. Between two scripts stands a
semicolon, which is in no declaration. -/
theorem renamed_joined (calls : List (String × Class.Usage)) (chunks : List String) :
    let table := (({} : Class.Table).associateAll calls).2
    let renamed := ((chunks.mapM renameConstants).run table).1
    let bundle := ";\n".intercalate renamed
    (constants bundle).map (·.name) = chunks.flatMap (fun chunk => (constants chunk).map (·.name)) ∧
      (renameConstants (";\n".intercalate chunks)).run table =
        (bundle, ((chunks.mapM renameConstants).run table).2) ∧
      ∀ name, name ∈ unusedConstants bundle ↔
        (∃ chunk ∈ chunks, ∃ d ∈ constants chunk, d.name = name) ∧ count name bundle.toList ≤ 1 := by
  intro table renamed bundle
  obtain ⟨scripts, new, later, canonical, restored, each, run, joined⟩ :=
    written_scripts chunks (spelled_calls calls)
  have ran : (chunks.mapM renameConstants).run table =
      (new.map fun parts => String.ofList (parts.flatMap Part.text), later) := run
  have anew : ∀ parts ∈ new, Part.Canonical false parts := by
    intro parts member
    obtain ⟨i, bound, rfl⟩ := List.mem_iff_getElem.mp member
    have shorter : i < scripts.length := each.length_eq ▸ bound
    exact (canonical _ (List.getElem_mem shorter)).renamed (each.get shorter bound)
  have text : (Part.separator.intercalate new).flatMap Part.text = bundle.toList := by
    rw [Part.text_joined]
    simp only [bundle, renamed, ran]
  have names : (constants bundle).map (·.name) =
      chunks.flatMap (fun chunk => (constants chunk).map (·.name)) := by
    have declared : ∀ parts ∈ scripts,
        (constants (String.ofList (parts.flatMap Part.text))).map (·.name) = Part.names parts :=
      fun parts member => Part.constants_names (canonical parts member) (by rw [String.toList_ofList])
    rw [Part.constants_names (Part.canonical_joined anew) text, Part.names_joined,
      Part.names_scripts each, restored, List.flatMap_map, List.flatMap_congr declared]
  refine ⟨names, ?_, fun name => ?_⟩
  · rw [ran, renameConstants_run, restored, ← Part.text_joined, Piece.scan,
      (Part.canonical_joined canonical).scan_eq, joined, text, String.ofList_toList]
  · rw [unusedConstants, List.mem_eraseDups, (List.mergeSort_perm _ _).mem_iff, List.mem_filter,
      names, List.mem_flatMap]
    simp [List.mem_map]

end Pagefold.Script
