import PgJson.Proofs.ArrayLiteral.Grammar
import PgJson.Proofs.Text.Quotation

/-!
# What an element takes of a text

An element takes the front of a text and leaves the rest. What the rest is does not matter to the
element, except that a bare run has to end there. So the rest can be exchanged for any other text
at which a bare run would end as well, and the element stays what it is. An array ends with a brace
and does not even need that.

In front of the rest every quote has been closed again.

## Main results

* `PgJson.ArrayLiteral.ElementAt.exists_extent`, `MoreAt.exists_extent`, `ArrayAt.exists_extent` —
  the front of a text, and the rests that it may have
* `PgJson.ArrayLiteral.ArrayAt.append` — more text at the end
-/

namespace PgJson.ArrayLiteral

open Text (Mode)

variable {limit : Option Nat}

/-! ### Quotes -/

theorem Escaped.inside_after {s t : List Char} (h : Escaped s t) :
    Mode.inside.after s = .inside := by
  induction h with
  | nil => rfl
  | plain hq hb _ ih => rw [Mode.after_cons, Mode.inside_next hq hb, ih]
  | escape _ ih => rwa [Mode.after_cons, Mode.inside_next_backslash, Mode.after_cons]

theorem ne_quote_of_isBare {c : Char} (hc : isBare c = true) : c ≠ '"' := by
  rintro rfl
  cases hc

theorem isBare_of_isSpace {c : Char} (hc : Text.isSpace c = true) : isBare c = true := by
  simp only [Text.isSpace, Bool.or_eq_true, beq_iff_eq] at hc
  rcases hc with ((rfl | rfl) | rfl) | rfl <;> rfl

theorem outside_after_spaces {b : List Char} (hb : Text.IsSpaces b) :
    Mode.outside.after b = .outside :=
  Mode.outside_after fun c hc => ne_quote_of_isBare (isBare_of_isSpace (hb c hc))

/-! ### Exchanging the rest -/

/-- Where a bare run ends is decided by one character. -/
theorem EndsBare.exchange {u rest rest' : List Char} (h : EndsBare (u ++ rest))
    (hrest : EndsBare rest → EndsBare rest') : EndsBare (u ++ rest') := by
  cases u with
  | nil => exact hrest h
  | cons c u => exact h

theorem EndsBare.exchange_cons {u rest : List Char} {c : Char} (h : EndsBare (u ++ c :: rest))
    (rest' : List Char) : EndsBare (u ++ c :: rest') :=
  h.exchange id

mutual

theorem ElementAt.exists_extent {d : Nat} {s rest : List Char} {e : Element} :
    ElementAt limit d s e rest → ∃ u, s = u ++ rest ∧ Mode.outside.after u = .outside ∧
      ∀ rest', (EndsBare rest → EndsBare rest') → ElementAt limit d (u ++ rest') e rest'
  | .nested h => by
    obtain ⟨u, hs, hu, hrest⟩ := h.exists_extent
    exact ⟨u, hs, hu, fun rest' _ => .nested (hrest rest')⟩
  | @ElementAt.quoted _ _ body t rest h => by
    refine ⟨'"' :: (body ++ ['"']), by simp, ?_, fun rest' _ => ?_⟩
    · simp [h.inside_after]
    · simpa using ElementAt.quoted h
  | @ElementAt.bare _ _ run rest e hne hfull hrun hmax he =>
    ⟨run, rfl, Mode.outside_after fun c hc => ne_quote_of_isBare (hrun c hc),
      fun _ hrest => .bare hne hfull hrun (hrest hmax) he⟩

theorem MoreAt.exists_extent {d : Nat} {s rest : List Char} {es : List Element} :
    MoreAt limit d s es rest → ∃ u, s = u ++ rest ∧ Mode.outside.after u = .outside ∧
      ∀ rest', (EndsBare rest → EndsBare rest') → MoreAt limit d (u ++ rest') es rest'
  | .nil => ⟨[], rfl, rfl, fun _ _ => .nil⟩
  | @MoreAt.cons _ _ b b' s s' rest e es hb hb' he hes => by
    obtain ⟨u, rfl, hu, hfirst⟩ := he.exists_extent
    obtain ⟨v, rfl, hv, hmore⟩ := hes.exists_extent
    refine ⟨b ++ ',' :: (b' ++ (u ++ v)), by simp, ?_, fun rest' hrest => ?_⟩
    · simp [outside_after_spaces hb, outside_after_spaces hb', Mode.outside_next, hu, hv]
    · have hall := MoreAt.cons hb hb' (hfirst (v ++ rest') fun h => h.exchange hrest)
        (hmore rest' hrest)
      simpa using hall

theorem ArrayAt.exists_extent {d : Nat} {s rest : List Char} {items : List Element} :
    ArrayAt limit d s items rest → ∃ u, s = u ++ rest ∧ Mode.outside.after u = .outside ∧
      ∀ rest', ArrayAt limit d (u ++ rest') items rest'
  | @ArrayAt.empty _ _ b rest hd hb => by
    refine ⟨'\x7b' :: (b ++ ['\x7d']), by simp, ?_, fun rest' => ?_⟩
    · simp [outside_after_spaces hb, Mode.outside_next]
    · simpa using ArrayAt.empty hd hb
  | @ArrayAt.cons _ _ b b' s s' rest e es hd hb he hes hb' => by
    obtain ⟨u, rfl, hu, hfirst⟩ := he.exists_extent
    obtain ⟨v, rfl, hv, hmore⟩ := hes.exists_extent
    refine ⟨'\x7b' :: (b ++ (u ++ (v ++ (b' ++ ['\x7d'])))), by simp, ?_, fun rest' => ?_⟩
    · simp [outside_after_spaces hb, outside_after_spaces hb', Mode.outside_next, hu, hv]
    · have hclose : EndsBare (b' ++ '\x7d' :: rest) → EndsBare (b' ++ '\x7d' :: rest') :=
        fun h => h.exchange_cons rest'
      have hall := ArrayAt.cons hd hb (hfirst _ fun h => h.exchange hclose) (hmore _ hclose) hb'
      simpa using hall

end

/-- More text at the end does not change an array. -/
theorem ArrayAt.append {d : Nat} {s rest : List Char} {items : List Element} (tail : List Char)
    (h : ArrayAt limit d s items rest) : ArrayAt limit d (s ++ tail) items (rest ++ tail) := by
  obtain ⟨u, rfl, -, hrest⟩ := h.exists_extent
  rw [List.append_assoc]
  exact hrest (rest ++ tail)

end PgJson.ArrayLiteral
