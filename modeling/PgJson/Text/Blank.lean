/-!
# Blank characters and trimming

`isBlank` is the White_Space property of Unicode, and `trim` removes blank characters from both
ends of a text. Documents and array literals admit only four of these characters between their
tokens; those are the spaces of `isSpace`.

## Main definitions

* `PgJson.Text.isBlank` — the White_Space property
* `PgJson.Text.trim` — a text without the blanks at its ends
* `PgJson.Text.isSpace`, `skipSpaces` — the blanks that may stand between tokens
-/

namespace PgJson.Text

/-- The White_Space property of Unicode: 25 characters in ten ranges. -/
def isBlank (c : Char) : Bool :=
  let n := c.toNat
  (0x09 ≤ n && n ≤ 0x0D) || n == 0x20 || n == 0x85 || n == 0xA0 || n == 0x1680 ||
    (0x2000 ≤ n && n ≤ 0x200A) || n == 0x2028 || n == 0x2029 || n == 0x202F || n == 0x205F ||
    n == 0x3000

/-- `s` without its leading blanks. -/
def trimStart (s : List Char) : List Char := s.dropWhile isBlank

/-- `s` without its trailing blanks. -/
def trimEnd (s : List Char) : List Char := (s.reverse.dropWhile isBlank).reverse

/-- `s` without the blanks at either end. -/
def trim (s : List Char) : List Char := trimEnd (trimStart s)

@[simp] theorem trim_nil : trim [] = [] := rfl

/-- The characters that may stand between tokens: space, tab, line feed, carriage return. -/
def isSpace (c : Char) : Bool := c == ' ' || c == '\t' || c == '\n' || c == '\r'

/-- `s` without its leading spaces. -/
def skipSpaces (s : List Char) : List Char := s.dropWhile isSpace

/-- Every space is blank. -/
theorem isBlank_of_isSpace {c : Char} (h : isSpace c = true) : isBlank c = true := by
  simp only [isSpace, Bool.or_eq_true, beq_iff_eq] at h
  rcases h with ((rfl | rfl) | rfl) | rfl <;> rfl

/-- What is left starts with no space. -/
theorem isSpace_of_skipSpaces_eq_cons {s r : List Char} {c : Char}
    (h : skipSpaces s = c :: r) : isSpace c = false := by
  induction s with
  | nil => simp [skipSpaces] at h
  | cons d s ih =>
    simp only [skipSpaces, List.dropWhile_cons] at h
    split at h
    · exact ih h
    · next hd => cases h; simpa using hd

end PgJson.Text
