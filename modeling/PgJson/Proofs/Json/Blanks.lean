import PgJson.Json.Document
import PgJson.Proofs.Except
import PgJson.Proofs.Text.Blank

/-!
# The blanks of a document

Unicode has more blanks than the four that may stand between the tokens of a document. The others
can only occur inside strings. So a document without a quote has none of them at its ends, and
trimming does to it no more than the reader does.

## Main definitions

* `PgJson.Json.Passes` — what is read has no blanks but spaces
* `PgJson.Json.PassesSpaces` — a reader that passes no other blanks, outside of strings

## Main results

* `PgJson.Json.passesSpaces_readValue` — the reader for values does so
* `PgJson.Json.isSpace_of_isBlank` — the blanks of a document without quotes are spaces
-/

namespace PgJson.Json

open Text (isBlank isSpace skipSpaces)

/-- Between `s` and what is left of it, `r`, there are no blanks but spaces. -/
def Passes (s r : List Char) : Prop :=
  ∃ p, s = p ++ r ∧ ∀ c ∈ p, isBlank c = true → isSpace c = true

/-- As long as there is no string to be read, the reader passes no blanks but spaces. -/
def PassesSpaces {α : Type} (read : Reader α) : Prop :=
  ∀ ⦃s : List Char⦄ ⦃x : α⦄ ⦃r : List Char⦄, '"' ∉ s → read s = .ok (x, r) → Passes s r

/-! ### What is passed -/

theorem Passes.refl (s : List Char) : Passes s s := ⟨[], rfl, by simp⟩

theorem Passes.trans {s r t : List Char} (h : Passes s r) (h' : Passes r t) : Passes s t := by
  obtain ⟨p, rfl, hp⟩ := h
  obtain ⟨q, rfl, hq⟩ := h'
  refine ⟨p ++ q, (List.append_assoc p q t).symm, fun c hc => ?_⟩
  rcases List.mem_append.mp hc with hc | hc
  · exact hp c hc
  · exact hq c hc

theorem Passes.cons {c : Char} {s r : List Char} (hc : isBlank c = false) (h : Passes s r) :
    Passes (c :: s) r := by
  obtain ⟨p, rfl, hp⟩ := h
  refine ⟨c :: p, rfl, List.forall_mem_cons.mpr ⟨fun hblank => ?_, hp⟩⟩
  rw [hc] at hblank
  cases hblank

/-- What is left has no quote if the whole has none. -/
theorem Passes.quote_notMem {s r : List Char} (h : Passes s r) (hs : '"' ∉ s) : '"' ∉ r := by
  obtain ⟨p, rfl, _⟩ := h
  exact fun hr => hs (List.mem_append_right p hr)

theorem passes_skipSpaces (s : List Char) : Passes s (skipSpaces s) :=
  ⟨s.takeWhile isSpace, (List.takeWhile_append_dropWhile ..).symm,
    fun _ hc _ => List.mem_takeWhile_imp hc⟩

theorem passes_dropWhile_isDigit (s : List Char) : Passes s (s.dropWhile Char.isDigit) := by
  refine ⟨s.takeWhile Char.isDigit, (List.takeWhile_append_dropWhile ..).symm, ?_⟩
  intro c hc hblank
  rw [Text.isBlank_of_isDigit (List.mem_takeWhile_imp hc)] at hblank
  cases hblank

/-! ### Words and numbers -/

theorem passes_readWord {w s r : List Char} (hw : w.all (fun c => !isBlank c) = true)
    (h : readWord w s = .ok r) : Passes s r := by
  induction w generalizing s with
  | nil =>
    cases h
    exact .refl _
  | cons c w ih =>
    rw [List.all_cons, Bool.and_eq_true, Bool.not_eq_true'] at hw
    cases s with
    | nil => cases h
    | cons d s =>
      rw [readWord] at h
      split at h
      · next hd =>
        rw [hd]
        exact .cons hw.1 (ih hw.2 h)
      · cases h

theorem passesSpaces_readConstant {word : String} {value : Json}
    (hw : word.toList.all (fun c => !isBlank c) = true) :
    PassesSpaces (readConstant word value) := by
  intro s x r _ h
  obtain ⟨t, hword, h⟩ := bind_eq_ok.mp h
  cases h
  exact passes_readWord hw hword

theorem eq_of_scaled {negative : Bool} {significand : Nat} {exponent : Int} {s r : List Char}
    {n : Number} (h : scaled negative significand exponent s = .ok (n, r)) : r = s := by
  rw [scaled] at h
  split at h
  · cases h
    rfl
  · cases h

theorem passes_readSign (s : List Char) : Passes s (Text.readSign s).2 := by
  rw [Text.readSign.eq_def]
  split
  · exact .cons rfl (.refl _)
  · exact .cons rfl (.refl _)
  · exact .refl _

theorem passes_readExponent {negative : Bool} {significand : Nat} {exponent : Int}
    {s r : List Char} {n : Number}
    (h : readExponent negative significand exponent s = .ok (n, r)) : Passes s r := by
  refine (passes_readSign s).trans ?_
  simp only [readExponent] at h
  split at h
  · cases h
  · next c t hs =>
    rw [hs]
    split at h
    · cases h
    · refine (passes_dropWhile_isDigit (c :: t)).trans ?_
      split at h
      · rw [eq_of_scaled h, hs]
        exact .refl _
      · split at h
        · cases h
        · cases h
          rw [hs]
          exact .refl _

theorem passes_readScale {negative : Bool} {significand : Nat} {exponent : Int}
    {s r : List Char} {n : Number}
    (h : readScale negative significand exponent s = .ok (n, r)) : Passes s r := by
  rw [readScale.eq_def] at h
  split at h
  · exact .cons rfl (passes_readExponent h)
  · exact .cons rfl (passes_readExponent h)
  · rw [eq_of_scaled h]
    exact .refl _

theorem passes_readFraction {negative : Bool} {significand : Nat} {exponent : Int}
    {s r : List Char} {n : Number}
    (h : readFraction negative significand exponent s = .ok (n, r)) : Passes s r := by
  cases s with
  | nil => cases h
  | cons c s =>
    rw [readFraction] at h
    split at h
    · cases h
    · exact (passes_dropWhile_isDigit (c :: s)).trans (passes_readScale h)

theorem passesSpaces_readNumber (negative : Bool) : PassesSpaces (readNumber negative) := by
  intro s n r _ h
  cases s with
  | nil => cases h
  | cons c s =>
    refine (passes_dropWhile_isDigit (c :: s)).trans ?_
    simp only [readNumber] at h
    split at h
    · cases h
    · split at h
      · cases h
      · split at h
        · next hrest =>
          rw [hrest]
          exact .cons rfl (passes_readFraction h)
        · next hrest =>
          rw [hrest]
          exact .cons rfl (passes_readExponent h)
        · next hrest =>
          rw [hrest]
          exact .cons rfl (passes_readExponent h)
        · cases h
          exact .refl _
        · rw [eq_of_scaled h]
          exact .refl _

theorem passesSpaces_readNumberValue (negative : Bool) :
    PassesSpaces (readNumberValue negative) := by
  intro s x r hs h
  obtain ⟨⟨n, t⟩, hn, h⟩ := bind_eq_ok.mp h
  cases h
  exact passesSpaces_readNumber negative hs hn

/-! ### Lists and objects -/

theorem passes_of_skipSpaces {s t r : List Char} (hs : skipSpaces s = t) (h : Passes t r) :
    Passes s r := by
  rw [← hs] at h
  exact (passes_skipSpaces s).trans h

theorem quote_notMem_skipSpaces {s t : List Char} (hs : '"' ∉ s) (ht : skipSpaces s = t) :
    '"' ∉ t :=
  ht ▸ (passes_skipSpaces s).quote_notMem hs

variable {item : Reader Json}

theorem passesSpaces_readMoreItems (hitem : PassesSpaces item) (steps : List Char) :
    PassesSpaces (readMoreItems item steps) := by
  induction steps with
  | nil =>
    intro s x r _ h
    cases h
  | cons _ steps ih =>
    intro s x r hs h
    simp only [readMoreItems] at h
    split at h
    · cases h
    · next t ht =>
      cases h
      exact passes_of_skipSpaces ht (.cons rfl (.refl _))
    · next t ht =>
      have hquote := List.not_mem_of_not_mem_cons (quote_notMem_skipSpaces hs ht)
      refine passes_of_skipSpaces ht (.cons rfl ?_)
      split at h
      · cases h
      · cases h
      · obtain ⟨⟨y, u⟩, hy, h⟩ := bind_eq_ok.mp h
        obtain ⟨⟨ys, v⟩, hys, h⟩ := bind_eq_ok.mp h
        cases h
        have hfirst := hitem ((passes_skipSpaces t).quote_notMem hquote) hy
        have hquote' := hfirst.quote_notMem ((passes_skipSpaces t).quote_notMem hquote)
        exact (passes_skipSpaces t).trans (hfirst.trans (ih hquote' hys))
    · cases h

theorem passesSpaces_readList (hitem : PassesSpaces item) : PassesSpaces (readList item) := by
  intro s x r hs h
  obtain ⟨⟨xs, t⟩, hitems, h⟩ := bind_eq_ok.mp h
  cases h
  simp only [readItems] at hitems
  split at hitems
  · cases hitems
  · next u hu =>
    cases hitems
    exact passes_of_skipSpaces hu (.cons rfl (.refl _))
  · obtain ⟨⟨y, u⟩, hy, hitems⟩ := bind_eq_ok.mp hitems
    obtain ⟨⟨ys, v⟩, hys, hitems⟩ := bind_eq_ok.mp hitems
    cases hitems
    have hquote := (passes_skipSpaces s).quote_notMem hs
    have hfirst := hitem hquote hy
    have hmore := passesSpaces_readMoreItems hitem u (hfirst.quote_notMem hquote) hys
    exact (passes_skipSpaces s).trans (hfirst.trans hmore)

/-- Without a quote there are no names, so the object is empty. -/
theorem passesSpaces_readObject (embedded : List Char → Except Error Json) :
    PassesSpaces (readObject embedded item) := by
  intro s x r hs h
  simp only [readObject] at h
  split at h
  · cases h
  · next t ht =>
    cases h
    exact passes_of_skipSpaces ht (.cons rfl (.refl _))
  · next t ht => exact absurd List.mem_cons_self (quote_notMem_skipSpaces hs ht)
  · cases h

theorem passesSpaces_readWith {list object : Reader Json} (hlist : PassesSpaces list)
    (hobject : PassesSpaces object) : PassesSpaces (readWith list object) := by
  intro s x r hs h
  rw [readWith] at h
  split at h
  · cases h
  · next c t ht =>
    have hquote := quote_notMem_skipSpaces hs ht
    have hrest := List.not_mem_of_not_mem_cons hquote
    refine passes_of_skipSpaces ht ?_
    split at h
    · next hc => exact .cons (hc ▸ rfl) (passesSpaces_readConstant rfl hrest h)
    split at h
    · next hc => exact .cons (hc ▸ rfl) (passesSpaces_readConstant rfl hrest h)
    split at h
    · next hc => exact .cons (hc ▸ rfl) (passesSpaces_readConstant rfl hrest h)
    split at h
    · next hc => exact .cons (hc ▸ rfl) (passesSpaces_readNumberValue true hrest h)
    split at h
    · exact passesSpaces_readNumberValue false hquote h
    split at h
    · next hc => exact absurd (hc ▸ List.mem_cons_self) hquote
    split at h
    · next hc => exact .cons (hc ▸ rfl) (hlist hrest h)
    split at h
    · next hc => exact .cons (hc ▸ rfl) (hobject hrest h)
    · cases h

theorem passesSpaces_readValue (embedded : List Char → Except Error Json) (depth : Nat) :
    PassesSpaces (readValue embedded depth) := by
  have hfail : PassesSpaces (α := Json) fun r => fail .tooDeep r := by
    intro s x r _ h
    cases h
  induction depth with
  | zero => exact passesSpaces_readWith hfail hfail
  | succ depth ih =>
    exact passesSpaces_readWith (passesSpaces_readList ih) (passesSpaces_readObject embedded)

/-! ### Documents -/

theorem isSpace_of_isBlank {text : String} {x : Json} (h : ofText text = .ok x)
    (hquote : '"' ∉ text.toList) {c : Char} (hc : c ∈ text.toList) (hblank : isBlank c = true) :
    isSpace c = true := by
  rw [ofText, ofChars, mapError_eq_ok] at h
  obtain ⟨⟨y, r⟩, hvalue, hend⟩ := bind_eq_ok.mp h
  obtain ⟨p, htext, hp⟩ := passesSpaces_readValue _ depthLimit hquote hvalue
  have hr : Text.IsSpaces r := by
    simp only at hend
    split at hend
    · next hr => exact Text.isSpaces_of_skipSpaces_eq_nil hr
    · cases hend
  rw [htext] at hc
  rcases List.mem_append.mp hc with hc | hc
  · exact hp c hc hblank
  · exact hr c hc

end PgJson.Json
