import PgJson.ArrayLiteral.Reader
import PgJson.Proofs.Text.Blank

/-!
# The grammar of array literals

What an array literal is, said without a reader. A literal has spaces around it and may begin with
the bounds of its dimensions; an array is a list of elements between braces, separated by commas,
with spaces around every token; an element is an array of the next level, a quoted text, or a bare
run of characters.

A bare run is as long as possible, so whether characters form one depends on what follows them.
Every judgement about elements therefore names the text that remains behind: `ArrayAt limit d s
items rest` says that `s` is an array of level `d` with the elements `items`, followed by `rest`.

## Main definitions

* `PgJson.ArrayLiteral.Bounds`, `Decoration` — the bounds of dimensions, and what may precede an
  array
* `PgJson.ArrayLiteral.Escaped` — the inside of a quoted element and the text it stands for
* `PgJson.ArrayLiteral.BareValue` — a bare run and the element it stands for
* `PgJson.ArrayLiteral.ElementAt`, `MoreAt`, `ArrayAt` — elements, further elements, arrays
* `PgJson.ArrayLiteral.Literal` — whole literals
-/

namespace PgJson.ArrayLiteral

open Text (IsSpaces StartsFull IsTrimOf)

/-! ### Bounds -/

/-- The bounds of one or more dimensions, each between brackets. -/
inductive Bounds : List Char → Prop
  | last {b : List Char} (hb : ∀ c ∈ b, isBound c = true) : Bounds ('[' :: (b ++ [']']))
  | cons {b ds : List Char} (hb : ∀ c ∈ b, isBound c = true) (hds : Bounds ds) :
    Bounds ('[' :: (b ++ ']' :: ds))

/-- What may precede an array: nothing, or bounds and an equals sign. -/
inductive Decoration : List Char → Prop
  | none : Decoration []
  | bounds {ds : List Char} (hds : Bounds ds) : Decoration (ds ++ ['='])

/-! ### Elements -/

/-- `Escaped s t` says that `s`, between quotes, stands for `t`: a backslash stands for the
character after it, and no other quote is inside. -/
inductive Escaped : List Char → List Char → Prop
  | nil : Escaped [] []
  | plain {c : Char} {s t : List Char} (hq : c ≠ '"') (hb : c ≠ '\\') (h : Escaped s t) :
    Escaped (c :: s) (c :: t)
  | escape {c : Char} {s t : List Char} (h : Escaped s t) : Escaped ('\\' :: c :: s) (c :: t)

/-- A bare run stands for what is left of it without the blanks around it, or for the null element
when that spells NULL. -/
inductive BareValue (run : List Char) : Element → Prop
  | null {t : List Char} (ht : IsTrimOf t run) (hn : spellsNull t = true) : BareValue run .null
  | text {t : List Char} (ht : IsTrimOf t run) (hn : spellsNull t = false) :
    BareValue run (.text (String.ofList t))

/-- `s` is empty or starts with a character that cannot stand in a bare run. -/
def EndsBare (s : List Char) : Prop := ∀ c ∈ s.head?, isBare c = false

/-! ### Arrays -/

variable (limit : Option Nat)

mutual

/-- An element of an array of level `d`, and what follows it. -/
inductive ElementAt : Nat → List Char → Element → List Char → Prop
  | nested {d : Nat} {s rest : List Char} {items : List Element}
    (h : ArrayAt (d + 1) s items rest) : ElementAt d s (.nested items) rest
  | quoted {d : Nat} {body t rest : List Char} (h : Escaped body t) :
    ElementAt d ('"' :: (body ++ '"' :: rest)) (.text (String.ofList t)) rest
  | bare {d : Nat} {run rest : List Char} {e : Element} (hne : run ≠ []) (hfull : StartsFull run)
    (hrun : ∀ c ∈ run, isBare c = true) (hmax : EndsBare rest) (he : BareValue run e) :
    ElementAt d (run ++ rest) e rest

/-- The elements that follow an element, each after a comma, and what follows them. -/
inductive MoreAt : Nat → List Char → List Element → List Char → Prop
  | nil {d : Nat} {rest : List Char} : MoreAt d rest [] rest
  | cons {d : Nat} {b b' s s' rest : List Char} {e : Element} {es : List Element}
    (hb : IsSpaces b) (hb' : IsSpaces b') (he : ElementAt d s e s') (hes : MoreAt d s' es rest) :
    MoreAt d (b ++ ',' :: (b' ++ s)) (e :: es) rest

/-- An array of level `d` with its braces, and what follows it. -/
inductive ArrayAt : Nat → List Char → List Element → List Char → Prop
  | empty {d : Nat} {b rest : List Char} (hd : ∀ n ∈ limit, d ≤ n) (hb : IsSpaces b) :
    ArrayAt d ('\x7b' :: (b ++ '\x7d' :: rest)) [] rest
  | cons {d : Nat} {b b' s s' rest : List Char} {e : Element} {es : List Element}
    (hd : ∀ n ∈ limit, d ≤ n) (hb : IsSpaces b) (he : ElementAt d s e s')
    (hes : MoreAt d s' es (b' ++ '\x7d' :: rest)) (hb' : IsSpaces b') :
    ArrayAt d ('\x7b' :: (b ++ s)) (e :: es) rest

end

/-- A whole literal: an array of the first level, with nothing between it and its decoration, and
spaces around both. -/
inductive Literal : List Char → List Element → Prop
  | intro {b deco s b' : List Char} {items : List Element} (hb : IsSpaces b)
    (hdeco : Decoration deco) (h : ArrayAt limit 1 s items b') (hb' : IsSpaces b') :
    Literal (b ++ deco ++ s) items

/-! ### How the parts begin -/

variable {limit}

theorem Bounds.exists_eq_cons {ds : List Char} (h : Bounds ds) : ∃ r, ds = '[' :: r := by
  cases h with
  | last _ => exact ⟨_, rfl⟩
  | cons _ _ => exact ⟨_, rfl⟩

theorem ArrayAt.exists_eq_cons {d : Nat} {s rest : List Char} {items : List Element}
    (h : ArrayAt limit d s items rest) : ∃ r, s = '\x7b' :: r := by
  cases h with
  | empty _ _ => exact ⟨_, rfl⟩
  | cons _ _ _ _ _ => exact ⟨_, rfl⟩

/-- No element starts with a space. -/
theorem ElementAt.startsFull {d : Nat} {s rest : List Char} {e : Element}
    (h : ElementAt limit d s e rest) : StartsFull s := by
  cases h with
  | nested h =>
    obtain ⟨r, rfl⟩ := h.exists_eq_cons
    simp [Text.isSpace]
  | quoted _ => simp [Text.isSpace]
  | bare hne hfull _ _ _ =>
    obtain ⟨c, run, rfl⟩ := List.exists_cons_of_ne_nil hne
    simpa using hfull

/-- A decorated array does not start with a space. -/
theorem Decoration.startsFull_append {deco s rest : List Char} {d : Nat} {items : List Element}
    (hdeco : Decoration deco) (h : ArrayAt limit d s items rest) : StartsFull (deco ++ s) := by
  cases hdeco with
  | none =>
    obtain ⟨r, rfl⟩ := h.exists_eq_cons
    simp [Text.isSpace]
  | bounds hds =>
    obtain ⟨r, rfl⟩ := hds.exists_eq_cons
    simp [Text.isSpace]

/-! ### What remains is shorter -/

mutual

theorem ElementAt.length_lt {d : Nat} {s rest : List Char} {e : Element} :
    ElementAt limit d s e rest → rest.length < s.length
  | .nested h => h.length_lt
  | .quoted _ => by simp only [List.length_cons, List.length_append]; omega
  | .bare hne _ _ _ _ => by
    have := List.length_pos_iff.mpr hne
    rw [List.length_append]
    omega

theorem MoreAt.length_le {d : Nat} {s rest : List Char} {es : List Element} :
    MoreAt limit d s es rest → rest.length ≤ s.length
  | .nil => Nat.le_refl _
  | .cons _ _ he hes => by
    have := he.length_lt
    have := hes.length_le
    simp only [List.length_cons, List.length_append]
    omega

theorem ArrayAt.length_lt {d : Nat} {s rest : List Char} {items : List Element} :
    ArrayAt limit d s items rest → rest.length < s.length
  | .empty _ _ => by simp only [List.length_cons, List.length_append]; omega
  | .cons _ _ he hes _ => by
    have := he.length_lt
    have := hes.length_le
    simp only [List.length_cons, List.length_append] at *
    omega

end

end PgJson.ArrayLiteral
