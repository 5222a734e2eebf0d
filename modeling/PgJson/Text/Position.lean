/-!
# Places in a text

Readers here work on the list of characters that is still to be read, while the places they
report count bytes of the UTF-8 form. `byteSize` is the bridge: the place at which a reader
stands is the size of the whole text less the size of what remains.

## Main definitions

* `PgJson.Text.byteSize` — the length of a text in bytes
* `PgJson.Text.Position` — a line number and a column
* `PgJson.Text.locate` — the position of a byte offset
-/

namespace PgJson.Text

/-- The number of bytes `s` takes in UTF-8. -/
def byteSize : List Char → Nat
  | [] => 0
  | c :: s => c.utf8Size + byteSize s

@[simp] theorem byteSize_nil : byteSize [] = 0 := rfl

@[simp] theorem byteSize_cons (c : Char) (s : List Char) :
    byteSize (c :: s) = c.utf8Size + byteSize s := rfl

@[simp] theorem byteSize_append (s t : List Char) :
    byteSize (s ++ t) = byteSize s + byteSize t := by
  induction s with
  | nil => simp
  | cons c s ih => simp [ih, Nat.add_assoc]

/-- A place in a text: lines count from one, columns count the bytes since the line began. -/
structure Position where
  line : Nat
  column : Nat
deriving DecidableEq, Repr

/-- `locate s k p` is the place `k` bytes further on, when `s` starts at `p`. The offset may
fall inside a character, and an offset past the end means the end. -/
def locate : List Char → Nat → Position → Position
  | [], _, p => p
  | c :: s, k, p =>
    if k < c.utf8Size then { p with column := p.column + k }
    else if c = '\n' then locate s (k - c.utf8Size) ⟨p.line + 1, 0⟩
    else locate s (k - c.utf8Size) { p with column := p.column + c.utf8Size }

end PgJson.Text
