/-!
# Inside and outside of quotes

Array literals and JSON documents quote alike: a quote opens a quoted part, the next quote closes
it, and in between a backslash takes the character after it along, whatever that is. So a scanner
with three modes tells for every place of a text whether it is between quotes, and needs to know
nothing else about the format.

## Main definitions

* `PgJson.Text.Mode` — where the scanner stands
* `PgJson.Text.Mode.next`, `after` — the mode behind a character, and behind a text
-/

namespace PgJson.Text

/-- Where a scanner for quotes stands. -/
inductive Mode where
  | outside
  | inside
  /-- Between quotes, behind a backslash. -/
  | escaped
deriving DecidableEq, Repr

namespace Mode

/-- The mode behind a character. -/
def next : Mode → Char → Mode
  | .outside, c => if c = '"' then .inside else .outside
  | .inside, c => if c = '"' then .outside else if c = '\\' then .escaped else .inside
  | .escaped, _ => .inside

/-- The mode behind a text. -/
def after (m : Mode) (s : List Char) : Mode := s.foldl next m

@[simp] theorem after_nil (m : Mode) : m.after [] = m := rfl

@[simp] theorem after_cons (m : Mode) (c : Char) (s : List Char) :
    m.after (c :: s) = (m.next c).after s := rfl

@[simp] theorem after_append (m : Mode) (s t : List Char) :
    m.after (s ++ t) = (m.after s).after t := List.foldl_append

@[simp] theorem outside_next_quote : outside.next '"' = .inside := rfl

@[simp] theorem inside_next_quote : inside.next '"' = .outside := rfl

@[simp] theorem inside_next_backslash : inside.next '\\' = .escaped := rfl

@[simp] theorem escaped_next (c : Char) : escaped.next c = .inside := rfl

theorem outside_next {c : Char} (hc : c ≠ '"') : outside.next c = .outside := if_neg hc

theorem inside_next {c : Char} (hq : c ≠ '"') (hb : c ≠ '\\') : inside.next c = .inside := by
  rw [next, if_neg hq, if_neg hb]

/-- Nothing is quoted without a quote. -/
theorem outside_after {s : List Char} (h : ∀ c ∈ s, c ≠ '"') : outside.after s = .outside := by
  induction s with
  | nil => rfl
  | cons c s ih =>
    rw [List.forall_mem_cons] at h
    rw [after_cons, outside_next h.1, ih h.2]

end Mode

end PgJson.Text
