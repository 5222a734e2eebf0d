import PgJson.Json.Layout
import PgJson.Proofs.Json.Blanks
import PgJson.Proofs.Text.Numeral

/-!
# Reading back strings and numbers

A string that has been written is read back up to its closing quote, whatever follows: every
escape that is written is one that is read, and what is not escaped stands for itself. A whole
number is read back when what follows it cannot be taken for more of the number, and when it fits
64 bits, since a longer numeral is read as a float.

## Main definitions

* `PgJson.Json.EndsNumber` — what may follow a number

## Main results

* `PgJson.Json.readString_writeString` — reading a written string
* `PgJson.Json.readWith_writeWhole` — reading a written whole number
-/

namespace PgJson.Json

open Text (StartsFull)

/-! ### Strings -/

theorem hexValue_digitChar : ∀ n < 16, Text.hexValue (Nat.digitChar n) = some n := by
  decide

theorem readEscape_control {c : Char} (hc : c.toNat < 0x20) (rest : List Char) :
    readEscape ('u' :: '0' :: '0' :: Nat.digitChar (c.toNat / 16) ::
      Nat.digitChar (c.toNat % 16) :: rest) = .ok (c, rest) := by
  have hzero : Text.hexValue '0' = some 0 := rfl
  have hhigh := hexValue_digitChar (c.toNat / 16) (by omega)
  have hlow := hexValue_digitChar (c.toNat % 16) (by omega)
  have hsum : ((0 * 16 + 0) * 16 + c.toNat / 16) * 16 + c.toNat % 16 = c.toNat := by omega
  have hunit : readUnit ('0' :: '0' :: Nat.digitChar (c.toNat / 16) ::
      Nat.digitChar (c.toNat % 16) :: rest) = .ok (c.toNat, rest) := by
    have hhex : hexUnit '0' '0' (Nat.digitChar (c.toNat / 16)) (Nat.digitChar (c.toNat % 16)) =
        some c.toNat := by
      rw [hexUnit, hzero, hhigh, hlow]
      exact congrArg some hsum
    simp only [readUnit, hhex]
  have htrailing : isTrailing c.toNat = false := by
    simp only [isTrailing, Bool.and_eq_false_iff, decide_eq_false_iff_not]
    omega
  have hleading : isLeading c.toNat = false := by
    simp only [isLeading, Bool.and_eq_false_iff, decide_eq_false_iff_not]
    omega
  rw [readEscape, readNumbered, hunit]
  show (if isTrailing c.toNat then _ else _) = _
  rw [htrailing, hleading, Char.ofNat_toNat]
  rfl

/-- One step of reading takes one character, escaped or not. -/
theorem readCharacters_escape {c step : Char} {steps rest us r : List Char}
    (h : readCharacters steps rest = .ok (us, r)) :
    readCharacters (step :: steps) (escape c ++ rest) = .ok (c :: us, r) := by
  have hescape : ∀ s, readEscape s = .ok (c, rest) →
      readCharacters (step :: steps) ('\\' :: s) = .ok (c :: us, r) := by
    intro s hs
    rw [readCharacters, if_neg (by decide), if_pos rfl, hs]
    show (readCharacters steps rest >>= _) = _
    rw [h]
    rfl
  rw [escape.eq_def]
  split
  · exact hescape _ rfl
  · exact hescape _ rfl
  · exact hescape _ rfl
  · exact hescape _ rfl
  · exact hescape _ rfl
  · exact hescape _ rfl
  · exact hescape _ rfl
  · next hquote hbackslash _ _ _ _ _ =>
    split
    · next hcontrol => exact hescape _ (readEscape_control hcontrol rest)
    · next hplain =>
      rw [List.singleton_append, readCharacters, if_neg hquote, if_neg hbackslash,
        if_neg hplain, h]
      rfl

theorem readCharacters_flatMap_escape (cs rest : List Char) : ∀ steps : List Char,
    cs.length < steps.length →
    readCharacters steps (cs.flatMap escape ++ '"' :: rest) = .ok (cs, rest) := by
  induction cs with
  | nil =>
    intro steps hsteps
    obtain ⟨step, steps, rfl⟩ := List.exists_cons_of_length_pos hsteps
    rw [List.flatMap_nil, List.nil_append, readCharacters, if_pos rfl]
  | cons c cs ih =>
    intro steps hsteps
    obtain ⟨step, steps, rfl⟩ := List.exists_cons_of_length_pos (Nat.zero_lt_of_lt hsteps)
    rw [List.flatMap_cons, List.append_assoc]
    exact readCharacters_escape (ih steps (Nat.lt_of_succ_lt_succ hsteps))

theorem length_le_flatMap_escape (cs : List Char) : cs.length ≤ (cs.flatMap escape).length := by
  induction cs with
  | nil => exact Nat.le_refl _
  | cons c cs ih =>
    have hc : 1 ≤ (escape c).length := by
      rw [escape.eq_def]
      split <;> (try split) <;> simp
    rw [List.flatMap_cons, List.length_append, List.length_cons]
    omega

/-- Whatever follows, a written string is read back after its opening quote. -/
theorem readString_writeString (s : String) (rest : List Char) :
    readString (s.toList.flatMap escape ++ '"' :: rest) = .ok (s, rest) := by
  have hlength := length_le_flatMap_escape s.toList
  rw [readString, readCharacters_flatMap_escape]
  · show Except.ok (String.ofList s.toList, rest) = _
    rw [String.ofList_toList]
  · rw [List.length_append, List.length_cons]
    omega

/-! ### Whole numbers -/

/-- What may follow a number: nothing that could be more of it. -/
def EndsNumber (s : List Char) : Prop :=
  ∀ c ∈ s.head?, c.isDigit = false ∧ c ≠ '.' ∧ c ≠ 'e' ∧ c ≠ 'E'

theorem exists_digits (n : Nat) : ∃ c s, Nat.toDigits 10 n = c :: s ∧ c.isDigit = true := by
  obtain ⟨c, s, hd⟩ := List.exists_cons_of_ne_nil (Nat.toDigits_ne_nil (b := 10) (n := n))
  exact ⟨c, s, hd, Nat.isDigit_of_mem_toDigits (by decide) (by decide) (hd ▸ List.mem_cons_self)⟩

/-- Only the numeral of zero starts with a zero. -/
theorem eq_nil_of_toDigits_eq_cons_zero {n : Nat} {s : List Char}
    (h : Nat.toDigits 10 n = '0' :: s) : s = [] := by
  induction n using Nat.strongRecOn generalizing s with
  | ind n ih =>
    by_cases hn : n < 10
    · rw [Nat.toDigits_of_lt_base hn] at h
      exact (List.cons.inj h).2.symm
    · rw [Nat.toDigits_of_base_le (by decide) (Nat.le_of_not_lt hn)] at h
      obtain ⟨c, t, hd, _⟩ := exists_digits (n / 10)
      rw [hd, List.cons_append, List.cons.injEq] at h
      have ht := ih (n / 10) (by omega) (h.1 ▸ hd)
      have hvalue : Nat.ofDigitChars 10 (Nat.toDigits 10 (n / 10)) 0 = 0 := by
        rw [hd, ht, h.1]
        rfl
      rw [Nat.ofDigitChars_ten_toDigits] at hvalue
      omega

theorem takeWhile_toDigits_append (n : Nat) {rest : List Char} (hrest : EndsNumber rest) :
    (Nat.toDigits 10 n ++ rest).takeWhile Char.isDigit = Nat.toDigits 10 n ∧
      (Nat.toDigits 10 n ++ rest).dropWhile Char.isDigit = rest := by
  have hdigits : ∀ c ∈ Nat.toDigits 10 n, c.isDigit = true :=
    fun c hc => Nat.isDigit_of_mem_toDigits (by decide) (by decide) hc
  rw [List.takeWhile_append_of_pos hdigits, List.dropWhile_append_of_pos hdigits]
  cases rest with
  | nil => simp
  | cons c r => simp [(hrest c rfl).1]

theorem readNumber_toDigits (negative : Bool) {n : Nat} (hn : n ≤ Text.greatestUnsigned 64)
    {rest : List Char} (hrest : EndsNumber rest) :
    readNumber negative (Nat.toDigits 10 n ++ rest) = .ok (wholeNumber negative n, rest) := by
  obtain ⟨htake, hdrop⟩ := takeWhile_toDigits_append n hrest
  obtain ⟨c, s, hd, hc⟩ := exists_digits n
  have hzero : ¬(decide (c = '0') && decide (1 < (c :: s).length)) = true := by
    simp only [Bool.and_eq_true, decide_eq_true_eq, not_and]
    rintro rfl
    rw [eq_nil_of_toDigits_eq_cons_zero hd]
    decide
  have habsorb : Text.absorb greatestSignificand 0 (c :: s) = (n, []) := by
    rw [← hd, Text.absorb_eq _ 0 (by rwa [Nat.ofDigitChars_ten_toDigits]),
      Nat.ofDigitChars_ten_toDigits]
  rw [hd, List.cons_append] at htake hdrop ⊢
  simp only [readNumber, hc, htake, hdrop, habsorb, Bool.not_true, Bool.false_eq_true, if_false,
    if_neg hzero]
  -- What follows the digits is neither a fraction nor an exponent, and no digit was dropped.
  split
  · exact absurd rfl (hrest '.' rfl).2.1
  · exact absurd rfl (hrest 'e' rfl).2.2.1
  · exact absurd rfl (hrest 'E' rfl).2.2.2
  · rfl
  · next hne => exact (hne rfl).elim

theorem isSpace_of_isDigit {c : Char} (hc : c.isDigit = true) : Text.isSpace c = false := by
  rw [← Bool.not_eq_true]
  intro hspace
  have hblank := Text.isBlank_of_isSpace hspace
  rw [Text.isBlank_of_isDigit hc] at hblank
  cases hblank

theorem readWith_toDigits (list object : Reader Json) {n : Nat}
    (hn : n ≤ Text.greatestUnsigned 64) {rest : List Char} (hrest : EndsNumber rest) :
    readWith list object (Nat.toDigits 10 n ++ rest) =
      .ok (.number (.whole n), rest) := by
  have hread := readNumber_toDigits false hn hrest
  obtain ⟨c, s, hd, hc⟩ := exists_digits n
  have hne : ∀ x : Char, x.isDigit = false → c ≠ x := by
    rintro x hx rfl
    rw [hc] at hx
    cases hx
  have hfull : StartsFull (c :: (s ++ rest)) := Text.startsFull_cons.mpr (isSpace_of_isDigit hc)
  rw [hd, List.cons_append] at hread ⊢
  rw [readWith, Text.skipSpaces_eq_self hfull]
  simp only [hne 'n' rfl, hne 't' rfl, hne 'f' rfl, hne '-' rfl, hc, if_true, if_false,
    readNumberValue, hread]
  rfl

/-- A whole number of 64 bits is read back, signed or not. -/
theorem readWith_writeWhole (list object : Reader Json) {n : Int} (hn : isWhole n = true)
    {rest : List Char} (hrest : EndsNumber rest) :
    readWith list object (writeWhole n ++ rest) = .ok (.number (.whole n), rest) := by
  simp only [isWhole, Bool.and_eq_true, decide_eq_true_eq] at hn
  rw [writeWhole]
  split
  · next hneg =>
    have hmagnitude : n.natAbs ≤ Text.greatestUnsigned 64 := by
      have : Text.greatestSigned 64 + 1 ≤ Text.greatestUnsigned 64 := by decide
      omega
    have hwhole : wholeNumber true n.natAbs = .whole n := by
      have hfits : ¬(n.natAbs == 0 || decide (Text.greatestSigned 64 + 1 < n.natAbs)) = true := by
        rw [Bool.or_eq_true, beq_iff_eq, decide_eq_true_eq]
        omega
      have hn' : -(n.natAbs : Int) = n := by omega
      rw [wholeNumber, if_neg (by decide), if_neg hfits, hn']
    have hread := readNumber_toDigits true hmagnitude hrest
    rw [hwhole] at hread
    show readNumberValue true (Nat.toDigits 10 n.natAbs ++ rest) = _
    rw [readNumberValue, hread]
    rfl
  · next hpos =>
    have hmagnitude : n.natAbs ≤ Text.greatestUnsigned 64 := by omega
    have hn' : (n.natAbs : Int) = n := by omega
    rw [readWith_toDigits list object hmagnitude hrest, hn']

end PgJson.Json
