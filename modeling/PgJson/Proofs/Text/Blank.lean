import Mathlib.Data.List.DropRight
import PgJson.Text.Blank

/-!
# Runs of spaces, and what trimming leaves

Readers skip spaces with `skipSpaces`, and grammars speak of a run of spaces in front of something
else. The lemmas of the first section translate between the two.

`IsTrimOf` says what trimming means without saying how it is done: blanks are taken away at both
ends and none is left there. It determines the result, which is that of `trim`.

## Main definitions

* `PgJson.Text.IsSpaces` — nothing but spaces
* `PgJson.Text.StartsFull` — no space in front
* `PgJson.Text.IsTrimOf` — a text without the blanks around it

## Main results

* `PgJson.Text.isTrimOf_iff` — `trim` is the only text that `IsTrimOf` admits
-/

namespace PgJson.Text

/-! ### Spaces -/

/-- Nothing but spaces. -/
def IsSpaces (s : List Char) : Prop := ∀ c ∈ s, isSpace c = true

instance (s : List Char) : Decidable (IsSpaces s) := inferInstanceAs (Decidable (∀ c ∈ s, _))

/-- `s` is empty or starts with something else than a space. -/
def StartsFull (s : List Char) : Prop := ∀ c ∈ s.head?, isSpace c = false

@[simp] theorem isSpaces_nil : IsSpaces [] := by simp [IsSpaces]

@[simp] theorem isSpaces_cons {c : Char} {s : List Char} :
    IsSpaces (c :: s) ↔ isSpace c = true ∧ IsSpaces s := by
  simp [IsSpaces]

@[simp] theorem isSpaces_append {s t : List Char} :
    IsSpaces (s ++ t) ↔ IsSpaces s ∧ IsSpaces t := by
  simp only [IsSpaces, List.mem_append]
  exact ⟨fun h => ⟨fun c hc => h c (.inl hc), fun c hc => h c (.inr hc)⟩,
    fun h c hc => hc.elim (h.1 c) (h.2 c)⟩

@[simp] theorem startsFull_nil : StartsFull [] := by simp [StartsFull]

@[simp] theorem startsFull_cons {c : Char} {s : List Char} :
    StartsFull (c :: s) ↔ isSpace c = false := by
  simp [StartsFull]

@[simp] theorem skipSpaces_nil : skipSpaces [] = [] := rfl

theorem skipSpaces_eq_self {s : List Char} (h : StartsFull s) : skipSpaces s = s := by
  cases s with
  | nil => rfl
  | cons c s => simp [skipSpaces, startsFull_cons.mp h]

theorem skipSpaces_append {b : List Char} (hb : IsSpaces b) (s : List Char) :
    skipSpaces (b ++ s) = skipSpaces s :=
  List.dropWhile_append_of_pos hb

theorem skipSpaces_append_of_startsFull {b s : List Char} (hb : IsSpaces b) (hs : StartsFull s) :
    skipSpaces (b ++ s) = s := by
  rw [skipSpaces_append hb, skipSpaces_eq_self hs]

theorem skipSpaces_eq_nil {b : List Char} (hb : IsSpaces b) : skipSpaces b = [] := by
  simpa using skipSpaces_append hb []

theorem startsFull_skipSpaces (s : List Char) : StartsFull (skipSpaces s) := by
  intro c hc
  obtain ⟨r, hr⟩ := List.head?_eq_some_iff.mp hc
  exact isSpace_of_skipSpaces_eq_cons hr

/-- What is skipped are spaces. -/
theorem exists_spaces (s : List Char) : ∃ b, IsSpaces b ∧ s = b ++ skipSpaces s :=
  ⟨s.takeWhile isSpace, fun _ hc => List.mem_takeWhile_imp hc,
    (List.takeWhile_append_dropWhile ..).symm⟩

theorem isSpaces_of_skipSpaces_eq_nil {s : List Char} (h : skipSpaces s = []) : IsSpaces s := by
  obtain ⟨b, hb, hs⟩ := exists_spaces s
  rw [h, List.append_nil] at hs
  rwa [hs]

/-! ### Trimming -/

theorem isBlank_of_isDigit {c : Char} (h : c.isDigit = true) : isBlank c = false := by
  simp only [Char.isDigit, Bool.and_eq_true, decide_eq_true_eq, ge_iff_le] at h
  have h0 : 48 ≤ c.toNat := h.1
  have h9 : c.toNat ≤ 57 := h.2
  simp only [isBlank, Bool.or_eq_false_iff, Bool.and_eq_false_iff, decide_eq_false_iff_not,
    beq_eq_false_iff_ne, ne_eq]
  omega

/-- `t` is `s` without the blanks at either end. -/
def IsTrimOf (t s : List Char) : Prop :=
  ∃ a b, s = a ++ t ++ b ∧ (∀ c ∈ a, isBlank c = true) ∧ (∀ c ∈ b, isBlank c = true) ∧
    (∀ c ∈ t.head?, isBlank c = false) ∧ ∀ c ∈ t.getLast?, isBlank c = false

theorem isTrimOf_self {t : List Char} (hf : ∀ c ∈ t.head?, isBlank c = false)
    (hl : ∀ c ∈ t.getLast?, isBlank c = false) : IsTrimOf t t :=
  ⟨[], [], by simp, by simp, by simp, hf, hl⟩

theorem trimEnd_append {t b : List Char} (hb : ∀ c ∈ b, isBlank c = true)
    (hl : ∀ c ∈ t.getLast?, isBlank c = false) : trimEnd (t ++ b) = t := by
  have hb' : ∀ c ∈ b.reverse, isBlank c = true := fun c hc => hb c (List.mem_reverse.mp hc)
  rw [trimEnd, List.reverse_append, List.dropWhile_append_of_pos hb']
  rcases List.eq_nil_or_concat t with rfl | ⟨u, c, rfl⟩
  · rfl
  · have hc : isBlank c = false := hl c (by simp)
    simp [hc]

theorem head?_trimStart {s : List Char} {c : Char} (h : (trimStart s).head? = some c) :
    isBlank c = false := by
  have hnot := List.head?_dropWhile_not isBlank s
  rw [trimStart] at h
  rw [h] at hnot
  exact hnot

/-- Trimming takes blanks away at both ends and leaves none there, and only `trim` does so. -/
theorem isTrimOf_iff {t s : List Char} : IsTrimOf t s ↔ t = trim s := by
  constructor
  · rintro ⟨a, b, rfl, ha, hb, hf, hl⟩
    have hstart : trimStart (a ++ t ++ b) = trimStart (t ++ b) := by
      rw [List.append_assoc, trimStart, List.dropWhile_append_of_pos ha, trimStart]
    rw [trim, hstart]
    cases t with
    | nil =>
      have hnil : trimStart b = [] := List.dropWhile_eq_nil_iff.mpr hb
      rw [List.nil_append, hnil]
      rfl
    | cons c t =>
      have hc : isBlank c = false := hf c (by simp)
      have hkeep : trimStart (c :: t ++ b) = c :: t ++ b := by simp [trimStart, hc]
      rw [hkeep, trimEnd_append hb hl]
  · rintro rfl
    refine ⟨s.takeWhile isBlank, (trimStart s).rtakeWhile isBlank, ?_, ?_, ?_, ?_, ?_⟩
    · have hend : trim s ++ (trimStart s).rtakeWhile isBlank = trimStart s :=
        List.rdropWhile_append_rtakeWhile ..
      rw [List.append_assoc, hend]
      exact (List.takeWhile_append_dropWhile ..).symm
    · exact fun c hc => List.mem_takeWhile_imp hc
    · exact fun c hc => List.mem_rtakeWhile_imp hc
    · intro c hc
      obtain ⟨r, hr⟩ := List.head?_eq_some_iff.mp hc
      obtain ⟨b, hb⟩ : trim s <+: trimStart s := List.rdropWhile_prefix isBlank (trimStart s)
      exact head?_trimStart (c := c) (by rw [← hb, hr]; rfl)
    · intro c hc
      obtain ⟨hne, rfl⟩ := List.mem_getLast?_eq_getLast hc
      exact Bool.eq_false_iff.mpr (List.rdropWhile_last_not isBlank (trimStart s) hne)

end PgJson.Text
