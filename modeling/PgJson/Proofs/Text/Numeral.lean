import PgJson.Proofs.Text.Blank
import PgJson.Text.Numeral

/-!
# What a bounded numeral is read as

A numeral is one digit or more, perhaps with a plus sign in front, and it stands for the value of
its digits, however many there are. A reader with a bound gives that value or nothing: the digits
are taken in one by one, the value never becomes less on the way, and so the first digit that takes
it over the bound decides.

## Main definitions

* `PgJson.Text.IsDigits`, `IsNumeral` — digits, and numerals, with the number they stand for

## Main results

* `PgJson.Text.readNat_eq_ok_iff` — exactly the numerals up to the bound are read
* `PgJson.Text.absorb_eq` — digits whose value stays in bounds are absorbed
-/

namespace PgJson.Text

/-- `s` consists of digits, at least one of them, with the value `n`. -/
def IsDigits (s : List Char) (n : Nat) : Prop :=
  s ≠ [] ∧ (∀ c ∈ s, c.isDigit = true) ∧ Nat.ofDigitChars 10 s 0 = n

/-- `s` is a numeral for `n`: digits, with or without a plus sign in front. -/
def IsNumeral (s : List Char) (n : Nat) : Prop :=
  IsDigits s n ∨ ∃ ds, s = '+' :: ds ∧ IsDigits ds n

/-! ### Values of digits -/

theorem le_ofDigitChars (ds : List Char) (v : Nat) : v ≤ Nat.ofDigitChars 10 ds v := by
  rw [Nat.ofDigitChars_eq_ofDigitChars_zero]
  have := Nat.le_mul_of_pos_left v (Nat.pow_pos (n := ds.length) (show 0 < 10 by decide))
  omega

theorem ofDigitChars_cons_digitValue (c : Char) (ds : List Char) (v : Nat) :
    Nat.ofDigitChars 10 (c :: ds) v = Nat.ofDigitChars 10 ds (v * 10 + digitValue c) := by
  rw [Nat.ofDigitChars_cons, Nat.mul_comm 10 v, digitValue]

/-- Digits are absorbed as long as their value stays in bounds. -/
theorem absorb_eq {bound : Nat} (ds : List Char) : ∀ v, Nat.ofDigitChars 10 ds v ≤ bound →
    absorb bound v ds = (Nat.ofDigitChars 10 ds v, []) := by
  induction ds with
  | nil =>
    intro v _
    rfl
  | cons c ds ih =>
    intro v hv
    rw [ofDigitChars_cons_digitValue] at hv ⊢
    have hle := (le_ofDigitChars ds (v * 10 + digitValue c)).trans hv
    rw [absorb, if_neg (Nat.not_lt.mpr hle)]
    exact ih _ hv

/-! ### Reading a numeral -/

/-- The induction carries the value of the digits before, which is within the bound. -/
theorem readDigits_eq_ok_iff {bound n : Nat} (s : List Char) : ∀ v ≤ bound,
    (readDigits bound v s = .ok n ↔
      (∀ c ∈ s, c.isDigit = true) ∧ Nat.ofDigitChars 10 s v = n ∧ n ≤ bound) := by
  induction s with
  | nil =>
    intro v hv
    rw [readDigits, Except.ok.injEq, Nat.ofDigitChars_nil]
    constructor
    · rintro rfl
      exact ⟨by simp, rfl, hv⟩
    · exact fun h => h.2.1
  | cons c s ih =>
    intro v hv
    rw [readDigits, List.forall_mem_cons, ofDigitChars_cons_digitValue]
    by_cases hc : c.isDigit = true
    · rw [if_neg (by simp [hc])]
      by_cases hbound : bound < v * 10 + digitValue c
      · have hle := le_ofDigitChars s (v * 10 + digitValue c)
        rw [if_pos hbound]
        constructor
        · intro h
          cases h
        · rintro ⟨-, rfl, hn⟩
          omega
      · rw [if_neg hbound, ih _ (Nat.le_of_not_lt hbound)]
        simp [hc]
    · rw [if_pos (by simpa using hc)]
      constructor
      · intro h
        cases h
      · exact fun h => absurd h.1.1 hc

theorem readDigits_eq_ok_iff_isDigits {bound n : Nat} {s : List Char} (hs : s ≠ []) :
    readDigits bound 0 s = .ok n ↔ IsDigits s n ∧ n ≤ bound := by
  rw [readDigits_eq_ok_iff s 0 (Nat.zero_le _), IsDigits]
  tauto

theorem isNumeral_plus {s : List Char} {n : Nat} : IsNumeral ('+' :: s) n ↔ IsDigits s n := by
  constructor
  · rintro (h | ⟨ds, hs, h⟩)
    · exact absurd (h.2.1 '+' List.mem_cons_self) (by decide)
    · cases hs
      exact h
  · exact fun h => .inr ⟨s, rfl, h⟩

theorem isNumeral_of_ne_plus {s : List Char} {n : Nat} (hs : s.head? ≠ some '+') :
    IsNumeral s n ↔ IsDigits s n := by
  constructor
  · rintro (h | ⟨ds, rfl, -⟩)
    · exact h
    · exact absurd rfl hs
  · exact .inl

/-- **Exactly the numerals up to the bound are read**, and each as the number it stands for. -/
theorem readNat_eq_ok_iff {bound n : Nat} {s : List Char} :
    readNat bound s = .ok n ↔ IsNumeral s n ∧ n ≤ bound := by
  unfold readNat
  split
  · simp [IsNumeral, IsDigits]
  · simp [isNumeral_plus, IsDigits]
  · next s hs => rw [isNumeral_plus, readDigits_eq_ok_iff_isDigits (by simpa using hs)]
  · next hempty hplus hsign =>
    have hhead : s.head? ≠ some '+' := by
      intro h
      obtain ⟨r, rfl⟩ := List.head?_eq_some_iff.mp h
      exact hsign r rfl
    rw [isNumeral_of_ne_plus hhead, readDigits_eq_ok_iff_isDigits hempty]

/-! ### Decimal texts of numbers -/

theorem isNumeral_toDigits (n : Nat) : IsNumeral (Nat.toDigits 10 n) n :=
  .inl ⟨Nat.toDigits_ne_nil,
    fun _ hc => Nat.isDigit_of_mem_toDigits (by decide) (by decide) hc,
    Nat.ofDigitChars_ten_toDigits⟩

/-- There is nothing to trim around digits. -/
theorem isTrimOf_toDigits (n : Nat) : IsTrimOf (Nat.toDigits 10 n) (Nat.toDigits 10 n) := by
  have hblank : ∀ c ∈ Nat.toDigits 10 n, isBlank c = false := fun c hc =>
    isBlank_of_isDigit (Nat.isDigit_of_mem_toDigits (by decide) (by decide) hc)
  exact isTrimOf_self (fun c hc => hblank c (List.mem_of_mem_head? hc))
    (fun c hc => hblank c (List.mem_of_mem_getLast? hc))

end PgJson.Text
