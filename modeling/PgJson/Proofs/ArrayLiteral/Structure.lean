import PgJson.Proofs.ArrayLiteral.Acceptance
import PgJson.Proofs.ArrayLiteral.Extent

/-!
# What the grammar forces on a text

Three facts about every literal. Nothing but spaces may follow it. Its arrays have no more levels
than there may be. And every comma outside of quotes stands between two elements, which is said by
a scanner that knows about quotes and braces but not about the nesting of arrays.

## Main definitions

* `PgJson.ArrayLiteral.levels` — how deep a list of elements is nested, itself included
* `PgJson.ArrayLiteral.Place`, `commasFit` — the scanner for commas

## Main results

* `PgJson.ArrayLiteral.Literal.append_iff` — what may follow a literal
* `PgJson.ArrayLiteral.Literal.levels_le` — the levels of a literal
* `PgJson.ArrayLiteral.Literal.commas` — the commas of a literal
* `PgJson.ArrayLiteral.ofText_eq_ok_iff_literal` — the texts that are read, and what they are like
-/

namespace PgJson.ArrayLiteral

open Text (IsSpaces StartsFull skipSpaces)

variable {limit : Option Nat}

/-! ### What follows a literal -/

/-- Nothing but spaces may follow a literal. -/
theorem Literal.append_iff {text tail : List Char} {items : List Element}
    (h : Literal limit text items) :
    (∃ items', Literal limit (text ++ tail) items') ↔ IsSpaces tail := by
  obtain ⟨hb, hdeco, harray, hb'⟩ := h
  rw [List.append_assoc]
  constructor
  · rintro ⟨items', hlit⟩
    have hread := readLiteral_eq_ok_iff.mpr hlit
    have htail := harray.append tail
    simp only [readLiteral, dropBounds_skipSpaces hb hdeco htail,
      readArray_of_arrayAt htail (Nat.le_refl _), Text.skipSpaces_append hb'] at hread
    split at hread
    · next hskip => exact Text.isSpaces_of_skipSpaces_eq_nil hskip
    · cases hread
  · intro htail
    exact ⟨_, .intro hb hdeco (harray.append tail) (Text.isSpaces_append.mpr ⟨hb', htail⟩)⟩

/-! ### Levels -/

mutual

/-- How many levels of arrays an element has. -/
def Element.depth : Element → Nat
  | .null => 0
  | .text _ => 0
  | .nested items => depthAll items + 1

/-- The greatest depth of the elements. -/
def depthAll : List Element → Nat
  | [] => 0
  | e :: es => max e.depth (depthAll es)

end

/-- How many levels an array with the given elements has, itself included. -/
def levels (items : List Element) : Nat := depthAll items + 1

mutual

theorem ElementAt.depth_le {n d : Nat} {s rest : List Char} {e : Element} :
    ElementAt (some n) d s e rest → d ≤ n → d + e.depth ≤ n
  | .nested h, _ => by
    have := h.depthAll_le
    rw [Element.depth]
    omega
  | .quoted _, hd => by rwa [Element.depth]
  | .bare _ _ _ _ he, hd => by cases he <;> rwa [Element.depth]

theorem MoreAt.depthAll_le {n d : Nat} {s rest : List Char} {es : List Element} :
    MoreAt (some n) d s es rest → d ≤ n → d + depthAll es ≤ n
  | .nil, hd => by rwa [depthAll]
  | .cons _ _ he hes, hd => by
    have := he.depth_le hd
    have := hes.depthAll_le hd
    rw [depthAll]
    omega

/-- Arrays stay within the limit. -/
theorem ArrayAt.depthAll_le {n d : Nat} {s rest : List Char} {items : List Element} :
    ArrayAt (some n) d s items rest → d + depthAll items ≤ n
  | .empty hd _ => by rw [depthAll]; exact hd n rfl
  | .cons hd _ he hes _ => by
    have := he.depth_le (hd n rfl)
    have := hes.depthAll_le (hd n rfl)
    rw [depthAll]
    omega

end

theorem Literal.levels_le {n : Nat} {text : List Char} {items : List Element}
    (h : Literal (some n) text items) : levels items ≤ n := by
  obtain ⟨_, _, harray, _⟩ := h
  have := harray.depthAll_le
  rw [levels]
  omega

/-! ### Commas -/

/-- What a scanner has seen last: an opening brace, a comma, or the end of an element. -/
inductive Place where
  | opened
  | separated
  | filled
deriving DecidableEq

/-- Whether every comma outside of quotes stands between two elements: behind the end of one, and
in front of neither a comma nor a closing brace. -/
def commasFit : (quoted : Bool) → Place → List Char → Bool
  | _, _, [] => true
  | true, _, ['\\'] => true
  | true, p, '\\' :: _ :: s => commasFit true p s
  | true, p, c :: s => if c = '"' then commasFit false .filled s else commasFit true p s
  | false, p, c :: s =>
    if Text.isSpace c then commasFit false p s
    else if c = '"' then commasFit true p s
    else if c = '\x7b' then commasFit false .opened s
    else if c = ',' then p = .filled && commasFit false .separated s
    else if c = '\x7d' then p ≠ .separated && commasFit false .filled s
    else commasFit false .filled s

@[simp] theorem commasFit_quote (p : Place) (s : List Char) :
    commasFit false p ('"' :: s) = commasFit true p s := rfl

@[simp] theorem commasFit_open (p : Place) (s : List Char) :
    commasFit false p ('\x7b' :: s) = commasFit false .opened s := rfl

@[simp] theorem commasFit_comma (p : Place) (s : List Char) :
    commasFit false p (',' :: s) = (p = .filled && commasFit false .separated s) := rfl

@[simp] theorem commasFit_close (p : Place) (s : List Char) :
    commasFit false p ('\x7d' :: s) = (p ≠ .separated && commasFit false .filled s) := rfl

theorem commasFit_cons_bare {c : Char} (hc : isBare c = true) (hs : Text.isSpace c = false)
    (p : Place) (s : List Char) : commasFit false p (c :: s) = commasFit false .filled s := by
  simp only [isBare, Bool.and_eq_true, bne_iff_ne, ne_eq] at hc
  simp [commasFit, hc, hs]

theorem commasFit_spaces {b : List Char} (hb : IsSpaces b) (p : Place) (s : List Char) :
    commasFit false p (b ++ s) = commasFit false p s := by
  induction b with
  | nil => rfl
  | cons c b ih =>
    rw [Text.isSpaces_cons] at hb
    rw [List.cons_append, commasFit, if_pos hb.1, ih hb.2]

theorem commasFit_quoted {body t : List Char} (h : Escaped body t) (p : Place) (s : List Char) :
    commasFit true p (body ++ '"' :: s) = commasFit false .filled s := by
  induction h with
  | nil => simp [commasFit]
  | plain hq hb _ ih =>
    rw [List.cons_append, commasFit, if_neg hq, ih]
    · simp [hb]
    · simp [hb]
  | escape _ ih => rw [List.cons_append, List.cons_append, commasFit, ih]

/-- The characters of a bare run mean nothing to the scanner, but that an element is there. -/
theorem commasFit_bare {run : List Char} (hrun : ∀ c ∈ run, isBare c = true) (s : List Char) :
    commasFit false .filled (run ++ s) = commasFit false .filled s := by
  induction run with
  | nil => rfl
  | cons c run ih =>
    rw [List.forall_mem_cons] at hrun
    cases hs : Text.isSpace c with
    | true => rw [List.cons_append, commasFit, if_pos hs, ih hrun.2]
    | false => rw [List.cons_append, commasFit_cons_bare hrun.1 hs, ih hrun.2]

mutual

theorem ElementAt.commas {d : Nat} {s rest : List Char} {e : Element} (p : Place) :
    ElementAt limit d s e rest → commasFit false p s = commasFit false .filled rest
  | .nested h => h.commas p
  | .quoted h => by rw [commasFit_quote, commasFit_quoted h]
  | .bare hne hfull hrun _ _ => by
    obtain ⟨c, run, rfl⟩ := List.exists_cons_of_ne_nil hne
    rw [Text.startsFull_cons] at hfull
    rw [List.forall_mem_cons] at hrun
    rw [List.cons_append, commasFit_cons_bare hrun.1 hfull, commasFit_bare hrun.2]

theorem MoreAt.commas {d : Nat} {s rest : List Char} {es : List Element} :
    MoreAt limit d s es rest → commasFit false .filled s = commasFit false .filled rest
  | .nil => rfl
  | .cons hb hb' he hes => by
    rw [commasFit_spaces hb, commasFit_comma, commasFit_spaces hb', he.commas, hes.commas]
    rfl

/-- The scanner comes out of an array as it does of any element. -/
theorem ArrayAt.commas {d : Nat} {s rest : List Char} {items : List Element} (p : Place) :
    ArrayAt limit d s items rest → commasFit false p s = commasFit false .filled rest
  | .empty _ hb => by
    rw [commasFit_open, commasFit_spaces hb, commasFit_close]
    rfl
  | .cons _ hb he hes hb' => by
    rw [commasFit_open, commasFit_spaces hb, he.commas, hes.commas, commasFit_spaces hb',
      commasFit_close]
    rfl

end

theorem isBare_of_isBound {c : Char} (hc : isBound c = true) : isBare c = true := by
  have hne : ∀ x, isBound x = false → c ≠ x := by
    rintro x hx rfl
    rw [hc] at hx
    cases hx
  simp [isBare, hne ',' rfl, hne '\x7b' rfl, hne '\x7d' rfl, hne '"' rfl]

theorem Bounds.forall_isBare {ds : List Char} (h : Bounds ds) : ∀ c ∈ ds, isBare c = true := by
  induction h with
  | last hb =>
    intro c hc
    simp only [List.mem_cons, List.mem_append, List.not_mem_nil, or_false] at hc
    rcases hc with rfl | hc | rfl
    · rfl
    · exact isBare_of_isBound (hb c hc)
    · rfl
  | cons hb _ ih =>
    intro c hc
    simp only [List.mem_cons, List.mem_append] at hc
    rcases hc with rfl | hc | rfl | hc
    · rfl
    · exact isBare_of_isBound (hb c hc)
    · rfl
    · exact ih c hc

theorem Decoration.forall_isBare {deco : List Char} (h : Decoration deco) :
    ∀ c ∈ deco, isBare c = true := by
  cases h with
  | none => simp
  | bounds hds =>
    rw [List.forall_mem_append]
    exact ⟨hds.forall_isBare, List.forall_mem_singleton.mpr rfl⟩

theorem Literal.commas {text : List Char} {items : List Element}
    (h : Literal limit text items) : commasFit false .opened text = true := by
  obtain @⟨b, deco, s, b', _, hb, hdeco, harray, hb'⟩ := h
  have hend : commasFit false .filled b' = true := by
    simpa [commasFit] using commasFit_spaces hb' .filled []
  rw [List.append_assoc, commasFit_spaces hb, ← hend]
  cases hdeco with
  | none => exact harray.commas _
  | bounds hds =>
    obtain ⟨r, rfl⟩ := hds.exists_eq_cons
    have hbare := hds.forall_isBare
    rw [List.forall_mem_cons] at hbare
    rw [List.append_assoc, List.cons_append, commasFit_cons_bare rfl rfl,
      commasFit_bare hbare.2, List.singleton_append, commasFit_cons_bare rfl rfl]
    exact harray.commas _

/-! ### The texts that are read -/

/-- **The reader accepts exactly the literals of the grammar**, with the elements that the grammar
gives them. So a text is read in one way at most; its commas stand between elements; nothing but
spaces may follow it; and it has six levels at most. -/
theorem ofText_eq_ok_iff_literal (text : String) :
    (∀ items, ofText text = .ok items ↔ Literal (some dimensionLimit) text.toList items) ∧
      ∀ items, Literal (some dimensionLimit) text.toList items →
        (∀ items', Literal (some dimensionLimit) text.toList items' → items' = items) ∧
        commasFit false .opened text.toList = true ∧
        (∀ tail, (∃ items', Literal (some dimensionLimit) (text.toList ++ tail) items') ↔
          IsSpaces tail) ∧
        levels items ≤ 6 :=
  ⟨fun _ => readLiteral_eq_ok_iff, fun _ h =>
    ⟨fun _ h' => h'.unique h, h.commas, fun _ => h.append_iff, h.levels_le⟩⟩

/-- A decorated literal with all three kinds of elements: its commas fit, and it has two levels. -/
theorem commasFit_levels_nested :
    Literal (some dimensionLimit) " [0:2]=\x7b nULL , \x7b\"a\\\"\"\x7d,b c\x7d ".toList
        [.null, .nested [.text "a\""], .text "b c"] ∧
      commasFit false .opened " [0:2]=\x7b nULL , \x7b\"a\\\"\"\x7d,b c\x7d ".toList = true ∧
      levels [.null, .nested [.text "a\""], .text "b c"] ≤ 6 :=
  have h := ((ofText_eq_ok_iff_literal " [0:2]=\x7b nULL , \x7b\"a\\\"\"\x7d,b c\x7d ").1
    [.null, .nested [.text "a\""], .text "b c"]).mp rfl
  have hall := (ofText_eq_ok_iff_literal " [0:2]=\x7b nULL , \x7b\"a\\\"\"\x7d,b c\x7d ").2 _ h
  ⟨h, hall.2.1, hall.2.2.2⟩

end PgJson.ArrayLiteral
