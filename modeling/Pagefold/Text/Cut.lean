/-!
# Blanks and marks

Which characters are blanks, and the pieces of a text between marks.
-/
namespace Pagefold.Text

/-!
## Blank characters

Two sets of blanks are used. Markup separates its parts by the five ASCII blanks.
Links and whole texts are trimmed by the Unicode property White_Space, which holds
25 characters and contains the ASCII blanks and one more control character.
-/

/-- A separator of markup: tab, line feed, form feed, carriage return or space. -/
def isAsciiBlank (c : Char) : Bool :=
  c == ' ' || c == '\n' || c == '\t' || c == '\r' || c == '\x0c'

/-- A character with the Unicode property White_Space. -/
def isBlank (c : Char) : Bool :=
  isAsciiBlank c || c == '\x0b' || c == '\u0085' || c == '\u00a0' || c == '\u1680' ||
    (0x2000 ≤ c.toNat && c.toNat ≤ 0x200A) || c == '\u2028' || c == '\u2029' ||
    c == '\u202f' || c == '\u205f' || c == '\u3000'

theorem isBlank_of_isAsciiBlank {c : Char} (h : isAsciiBlank c = true) : isBlank c = true := by
  simp [isBlank, h]

/-- The text without the blanks at its two ends. -/
def trim (s : List Char) : List Char :=
  ((s.dropWhile isBlank).reverse.dropWhile isBlank).reverse

/-- Every maximal run of ASCII blanks becomes one space. `inRun` tells that the
character before was a blank. -/
def collapseFrom (inRun : Bool) : List Char → List Char
  | [] => []
  | c :: r =>
    if isAsciiBlank c then
      if inRun then collapseFrom true r else ' ' :: collapseFrom true r
    else c :: collapseFrom false r

/-- Every maximal run of ASCII blanks becomes one space. -/
def collapse (s : List Char) : List Char := collapseFrom false s

/-!
## Cutting a text at a mark

Texts are lists of characters here, so that each function is a recursion on the
text. `cut` splits at the first mark, `pieces` at every mark.
-/

/-- What follows the opening `p` of a text, if the text starts with `p`. -/
def after? : List Char → List Char → Option (List Char)
  | [], s => some s
  | _ :: _, [] => none
  | a :: p, c :: s => if a = c then after? p s else none

theorem after?_append (p s : List Char) : after? p (p ++ s) = some s := by
  induction p with
  | nil => rfl
  | cons a p ih => simp [after?, ih]

theorem eq_append_of_after? {p s r : List Char} (h : after? p s = some r) : s = p ++ r := by
  induction p generalizing s with
  | nil => simpa [after?] using h
  | cons a p ih =>
    cases s with
    | nil => simp [after?] at h
    | cons c s =>
      by_cases hc : a = c
      · simp only [after?, hc, if_true] at h
        simp [hc, ih h]
      · simp [after?, hc] at h

/-- The two sides of the first character that `mark` accepts. -/
def cut (mark : Char → Bool) : List Char → Option (List Char × List Char)
  | [] => none
  | c :: r =>
    if mark c then some ([], r)
    else (cut mark r).map fun (before, rest) => (c :: before, rest)

/-- The pieces between the characters that `mark` accepts; `n` marks give `n + 1` pieces. -/
def pieces (mark : Char → Bool) : List Char → List (List Char)
  | [] => [[]]
  | c :: r =>
    if mark c then [] :: pieces mark r
    else
      match pieces mark r with
      | [] => [[c]]
      | p :: ps => (c :: p) :: ps

/-- The maximal runs of characters that `mark` rejects. -/
def words (mark : Char → Bool) (s : List Char) : List (List Char) :=
  (pieces mark s).filter (· ≠ [])

/-- Whether `p` occurs somewhere in the text. -/
def occursIn (p : List Char) : List Char → Bool
  | [] => (after? p []).isSome
  | c :: r => (after? p (c :: r)).isSome || occursIn p r

/-- Every occurrence of the non-empty text `p`, taken from the left without overlap,
becomes `q`. The count `skip` is the number of characters still inside an occurrence. -/
def replaceFrom (p q : List Char) : Nat → List Char → List Char
  | _, [] => []
  | 0, c :: r =>
    if (after? p (c :: r)).isSome then q ++ replaceFrom p q (p.length - 1) r
    else c :: replaceFrom p q 0 r
  | skip + 1, _ :: r => replaceFrom p q skip r

/-- Every occurrence of the non-empty text `p` becomes `q`. -/
def replace (p q s : List Char) : List Char := replaceFrom p q 0 s

/-- The ASCII letters of a text in lower case; all else is kept. -/
def lower (s : String) : String := s.map Char.toLower

/-- Two texts are equal when the case of ASCII letters is ignored. -/
def sameLetters (a b : String) : Bool := lower a == lower b

end Pagefold.Text
