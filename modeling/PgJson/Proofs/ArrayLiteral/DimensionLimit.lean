import PgJson.Proofs.ArrayLiteral.Refusal
import PgJson.Proofs.ArrayLiteral.Structure

/-!
# What the limit on dimensions does

The limit is tested in the middle of reading, where a mismatch would only make the reader try a
shorter list. It makes no such difference: a reader with a limit does what the reader without one
does, step by step, until it gives up the whole text for too many dimensions. So the limit refuses
texts and changes nothing else.

It refuses the literals with too many levels and no other literals. The place is found without
reading the text: count the braces outside of quotes, and stop at the first one that opens a level
too many.

## Main definitions

* `PgJson.ArrayLiteral.CutOff` — the same reading, or the text is given up
* `PgJson.ArrayLiteral.firstTooDeep` — the scanner for the brace that opens a level too many

## Main results

* `PgJson.ArrayLiteral.readLiteral_some_eq_none_or` — the limit only gives up
* `PgJson.ArrayLiteral.literal_some_iff` — the literals within the limit
* `PgJson.ArrayLiteral.FlawAt.firstTooDeep_eq` — the place that is reported
* `PgJson.ArrayLiteral.ofText_eq_readLiteral_none` — all of this for the literals of the server
-/

namespace PgJson.ArrayLiteral

open Text (IsSpaces Mode skipSpaces byteSize)

/-! ### Reading with and without a limit -/

/-- The first reading is the second, or the text is given up for too many dimensions. -/
def CutOff {α : Type} (limited free : Reading α) : Prop :=
  limited = free ∨ ∃ rest, limited = .abort .tooDeep rest

section Readers

variable {nested nested' : List Char → Reading (List Element)}

theorem cutOff_readElement (h : ∀ s, CutOff (nested s) (nested' s)) (s : List Char) :
    CutOff (readElement nested s) (readElement nested' s) := by
  cases s with
  | nil => exact .inl rfl
  | cons c r =>
    -- Only an array of the next level depends on the limit.
    by_cases hc : c = '\x7b'
    · simp only [readElement, if_pos hc]
      rcases h (c :: r) with heq | ⟨rest, habort⟩
      · exact .inl (by rw [heq])
      · exact .inr ⟨rest, by rw [habort]⟩
    · simp only [readElement, if_neg hc]
      exact .inl rfl

variable {element element' : List Char → Reading Element}
  (h : ∀ s, CutOff (element s) (element' s))
include h

theorem cutOff_readMore (steps s : List Char) :
    CutOff (readMore element steps s) (readMore element' steps s) := by
  induction steps generalizing s with
  | nil => exact .inl rfl
  | cons _ steps ih =>
    rw [readMore, readMore]
    split
    · next r _ =>
      rcases h (skipSpaces r) with heq | ⟨rest, habort⟩
      · rw [heq]
        cases element' (skipSpaces r) with
        | done e s' =>
          rcases ih s' with hmore | ⟨rest, hmore⟩
          · exact .inl (by simp only [hmore])
          · exact .inr ⟨rest, by simp only [hmore]⟩
        | mismatch _ => exact .inl rfl
        | abort _ _ => exact .inl rfl
      · exact .inr ⟨rest, by rw [habort]⟩
    · exact .inl rfl

theorem cutOff_readElements (s : List Char) :
    CutOff (readElements element s) (readElements element' s) := by
  rw [readElements, readElements]
  rcases h s with heq | ⟨rest, habort⟩
  · rw [heq]
    cases element' s with
    | done e s' =>
      rcases cutOff_readMore h s' s' with hmore | ⟨rest, hmore⟩
      · exact .inl (by simp only [hmore])
      · exact .inr ⟨rest, by simp only [hmore]⟩
    | mismatch _ => exact .inl rfl
    | abort _ _ => exact .inl rfl
  · exact .inr ⟨rest, by rw [habort]⟩

end Readers

variable {n : Nat}

@[simp] theorem exceeds_none (d : Nat) : exceeds none d = false := rfl

theorem cutOff_readArray (steps d : Nat) (s : List Char) :
    CutOff (readArray (some n) steps d s) (readArray none steps d s) := by
  induction steps generalizing d s with
  | zero => exact .inl rfl
  | succ steps ih =>
    unfold readArray
    split
    · next r =>
      rw [exceeds_none, if_neg Bool.false_ne_true]
      split
      · exact .inr ⟨_, rfl⟩
      · rcases cutOff_readElements (cutOff_readElement (ih (d + 1))) (skipSpaces r) with
          heq | ⟨rest, habort⟩
        · exact .inl (by rw [heq])
        · exact .inr ⟨rest, by rw [habort]⟩
    · exact .inl rfl

/-- **The limit only gives up.** With a limit a text is read as without one, or it is refused for
too many dimensions. -/
theorem readLiteral_some_eq_none_or (text : List Char) :
    readLiteral (some n) text = readLiteral none text ∨
      ∃ p, readLiteral (some n) text = .error (.arrayLiteral p .tooDeep) := by
  simp only [readLiteral]
  generalize dropBounds (skipSpaces text) = body
  rcases cutOff_readArray (n := n) body.length 1 body with heq | ⟨rest, habort⟩
  · exact .inl (by rw [heq])
  · exact .inr ⟨_, by rw [habort]⟩

/-! ### The literals within the limit -/

mutual

theorem ElementAt.within {d : Nat} {s rest : List Char} {e : Element} :
    ElementAt none d s e rest → d + e.depth ≤ n → ElementAt (some n) d s e rest
  | .nested h, hd => by
    rw [Element.depth] at hd
    exact .nested (h.within (by omega))
  | .quoted h, _ => .quoted h
  | .bare hne hfull hrun hmax he, _ => .bare hne hfull hrun hmax he

theorem MoreAt.within {d : Nat} {s rest : List Char} {es : List Element} :
    MoreAt none d s es rest → d + depthAll es ≤ n → MoreAt (some n) d s es rest
  | .nil, _ => .nil
  | .cons hb hb' he hes, hd => by
    rw [depthAll] at hd
    exact .cons hb hb' (he.within (by omega)) (hes.within (by omega))

/-- An array that is not too deep stays within the limit everywhere. -/
theorem ArrayAt.within {d : Nat} {s rest : List Char} {items : List Element} :
    ArrayAt none d s items rest → d + depthAll items ≤ n → ArrayAt (some n) d s items rest
  | .empty _ hb, hd => by
    rw [depthAll] at hd
    exact .empty (by simpa using hd) hb
  | .cons _ hb he hes hb', hd => by
    rw [depthAll] at hd
    exact .cons (by simp; omega) hb (he.within (by omega)) (hes.within (by omega)) hb'

end

/-- **The literals within the limit** are the literals with no more levels. -/
theorem literal_some_iff {text : List Char} {items : List Element} :
    Literal (some n) text items ↔ Literal none text items ∧ levels items ≤ n := by
  constructor
  · intro h
    refine ⟨?_, h.levels_le⟩
    rw [← readLiteral_eq_ok_iff] at h ⊢
    rcases readLiteral_some_eq_none_or (n := n) text with heq | ⟨p, hdeep⟩
    · rw [← heq, h]
    · rw [h] at hdeep
      cases hdeep
  · rintro ⟨⟨hb, hdeco, harray, hb'⟩, hlevels⟩
    rw [levels] at hlevels
    exact .intro hb hdeco (harray.within (by omega)) hb'

/-! ### The brace that opens a level too many -/

/-- What is left from the first brace on that stands outside of quotes and opens a level beyond
`n`, when `d` braces are open in front of the text. -/
def firstTooDeep (n : Nat) : Mode → Nat → List Char → Option (List Char)
  | _, _, [] => none
  | .outside, d, c :: s =>
    if c = '\x7b' then if n ≤ d then some (c :: s) else firstTooDeep n .outside (d + 1) s
    else if c = '\x7d' then firstTooDeep n .outside (d - 1) s
    else firstTooDeep n (Mode.outside.next c) d s
  | mode, d, c :: s => firstTooDeep n (mode.next c) d s

theorem firstTooDeep_open_of_le {d : Nat} (hd : n ≤ d) (s : List Char) :
    firstTooDeep n .outside d ('\x7b' :: s) = some ('\x7b' :: s) := by
  rw [firstTooDeep, if_pos rfl, if_pos hd]

theorem firstTooDeep_open {d : Nat} (hd : d + 1 ≤ n) (s : List Char) :
    firstTooDeep n .outside d ('\x7b' :: s) = firstTooDeep n .outside (d + 1) s := by
  rw [firstTooDeep, if_pos rfl, if_neg (by omega)]

@[simp] theorem firstTooDeep_close (d : Nat) (s : List Char) :
    firstTooDeep n .outside d ('\x7d' :: s) = firstTooDeep n .outside (d - 1) s := rfl

@[simp] theorem firstTooDeep_comma (d : Nat) (s : List Char) :
    firstTooDeep n .outside d (',' :: s) = firstTooDeep n .outside d s := rfl

@[simp] theorem firstTooDeep_quote (d : Nat) (s : List Char) :
    firstTooDeep n .outside d ('"' :: s) = firstTooDeep n .inside d s := rfl

/-- The characters of bare runs mean nothing to the scanner. -/
theorem firstTooDeep_bare {run : List Char} (hrun : ∀ c ∈ run, isBare c = true) (d : Nat)
    (s : List Char) : firstTooDeep n .outside d (run ++ s) = firstTooDeep n .outside d s := by
  induction run with
  | nil => rfl
  | cons c run ih =>
    rw [List.forall_mem_cons] at hrun
    have hc := hrun.1
    simp only [isBare, Bool.and_eq_true, bne_iff_ne, ne_eq] at hc
    rw [List.cons_append, firstTooDeep, if_neg hc.1.1.2, if_neg hc.1.2, Mode.outside_next hc.2,
      ih hrun.2]

theorem firstTooDeep_spaces {b : List Char} (hb : IsSpaces b) (d : Nat) (s : List Char) :
    firstTooDeep n .outside d (b ++ s) = firstTooDeep n .outside d s :=
  firstTooDeep_bare (fun c hc => isBare_of_isSpace (hb c hc)) d s

theorem firstTooDeep_quoted {body t : List Char} (h : Escaped body t) (d : Nat) (s : List Char) :
    firstTooDeep n .inside d (body ++ '"' :: s) = firstTooDeep n .outside d s := by
  induction h with
  | nil => rfl
  | plain hq hb _ ih =>
    rw [List.cons_append, firstTooDeep, Mode.inside_next hq hb, ih]
    simp
  | escape _ ih =>
    rw [List.cons_append, List.cons_append, firstTooDeep, Mode.inside_next_backslash, firstTooDeep,
      Mode.escaped_next, ih] <;> simp

mutual

theorem ElementAt.firstTooDeep_eq {d : Nat} {s rest : List Char} {e : Element} :
    ElementAt (some n) d s e rest → firstTooDeep n .outside d s = firstTooDeep n .outside d rest
  | .nested h => h.firstTooDeep_eq rfl
  | .quoted h => by rw [firstTooDeep_quote, firstTooDeep_quoted h]
  | .bare _ _ hrun _ _ => firstTooDeep_bare hrun _ _

theorem MoreAt.firstTooDeep_eq {d : Nat} {s rest : List Char} {es : List Element} :
    MoreAt (some n) d s es rest → firstTooDeep n .outside d s = firstTooDeep n .outside d rest
  | .nil => rfl
  | .cons hb hb' he hes => by
    rw [firstTooDeep_spaces hb, firstTooDeep_comma, firstTooDeep_spaces hb', he.firstTooDeep_eq,
      hes.firstTooDeep_eq]

/-- The scanner goes through an array, and comes out with as many open braces as before. -/
theorem ArrayAt.firstTooDeep_eq {d k : Nat} {s rest : List Char} {items : List Element} :
    ArrayAt (some n) d s items rest → d = k + 1 →
      firstTooDeep n .outside k s = firstTooDeep n .outside k rest
  | .empty hd hb, hk => by
    subst hk
    rw [firstTooDeep_open (hd n rfl), firstTooDeep_spaces hb, firstTooDeep_close,
      Nat.add_sub_cancel]
  | .cons hd hb he hes hb', hk => by
    subst hk
    rw [firstTooDeep_open (hd n rfl), firstTooDeep_spaces hb, he.firstTooDeep_eq,
      hes.firstTooDeep_eq, firstTooDeep_spaces hb', firstTooDeep_close, Nat.add_sub_cancel]

end

/-- Nothing in front of a place where an element may begin opens a level too many, and the scanner
arrives there with the braces that are open. -/
theorem EntryAt.firstTooDeep_eq {body s : List Char} {d : Nat} (h : EntryAt (some n) body d s) :
    firstTooDeep n .outside 0 body = firstTooDeep n .outside d s := by
  induction h with
  | start => rfl
  | first _ hd hb _ ih => rw [ih, firstTooDeep_open (hd n rfl), firstTooDeep_spaces hb]
  | next _ he hb hb' _ ih =>
    rw [ih, he.firstTooDeep_eq, firstTooDeep_spaces hb, firstTooDeep_comma,
      firstTooDeep_spaces hb']

theorem LeadsTo.firstTooDeep_eq {lead body : List Char} (h : LeadsTo lead body) :
    firstTooDeep n .outside 0 (lead ++ body) = firstTooDeep n .outside 0 body := by
  obtain ⟨hb, hdeco, -, -⟩ := h
  rw [List.append_assoc, firstTooDeep_spaces hb, firstTooDeep_bare hdeco.forall_isBare]

/-- **The place of too many dimensions** is the first brace outside of quotes that opens a level
too many. -/
theorem FlawAt.firstTooDeep_eq {before after : List Char}
    (h : FlawAt (some n) .tooDeep before after) :
    firstTooDeep n .outside 0 (before ++ after) = some after := by
  cases h with
  | within hlead htext h =>
    rw [← htext, hlead.firstTooDeep_eq]
    cases h with
    | tooDeep hn h =>
      cases hn
      rw [h.firstTooDeep_eq, firstTooDeep_open_of_le (Nat.le_refl _)]

/-! ### The limit of the server -/

theorem Flaw.cause_eq_tooDeep_iff {flaw : Flaw} : flaw.cause = .tooDeep ↔ flaw = .tooDeep := by
  cases flaw <;> simp [Flaw.cause]

/-- A literal that has too many levels is refused for them, at the brace that opens them. -/
theorem readLiteral_some_of_lt_levels (hn : 1 ≤ n) {text : List Char} {items : List Element}
    (h : readLiteral none text = .ok items) (hlevels : n < levels items) :
    ∃ before after, text = before ++ after ∧ firstTooDeep n .outside 0 text = some after ∧
      readLiteral (some n) text = .error (.arrayLiteral (byteSize before) .tooDeep) := by
  obtain ⟨p, hdeep⟩ : ∃ p, readLiteral (some n) text = .error (.arrayLiteral p .tooDeep) := by
    rcases readLiteral_some_eq_none_or (n := n) text with heq | hdeep
    · rw [h, readLiteral_eq_ok_iff] at heq
      have := heq.levels_le
      omega
    · exact hdeep
  obtain ⟨flaw, before, after, rfl, herr, hflaw⟩ :=
    exists_flawAt_of_readLiteral (by simpa using hn) hdeep
  injection herr with hposition hcause
  obtain rfl := Flaw.cause_eq_tooDeep_iff.mp hcause.symm
  exact ⟨before, after, rfl, hflaw.firstTooDeep_eq, by rw [hdeep, hposition]⟩

/-- **The limit on dimensions only cuts off depth.** A text is read when it is read without a limit
and has no more than six levels. A text with more levels that is read without a limit is refused
for them, at the first brace outside of quotes that opens a seventh. And what is refused for another
reason is refused for it without a limit as well. -/
theorem ofText_eq_readLiteral_none (text : String) :
    (∀ items, ofText text = .ok items ↔
      readLiteral none text.toList = .ok items ∧ levels items ≤ 6) ∧
    (∀ items, readLiteral none text.toList = .ok items → 6 < levels items →
      ∃ before after, text.toList = before ++ after ∧
        firstTooDeep 6 .outside 0 text.toList = some after ∧
        ofText text = .error (.arrayLiteral (byteSize before) .tooDeep)) ∧
    ∀ err, ofText text = .error err → (∀ p, err ≠ .arrayLiteral p .tooDeep) →
      readLiteral none text.toList = .error err := by
  refine ⟨fun items => ?_, fun items => ?_, fun err h hother => ?_⟩
  · rw [ofText, readLiteral_eq_ok_iff, readLiteral_eq_ok_iff, literal_some_iff, dimensionLimit]
  · exact readLiteral_some_of_lt_levels (by decide)
  · rcases readLiteral_some_eq_none_or (n := dimensionLimit) text.toList with heq | ⟨p, hdeep⟩
    · rw [← heq]
      exact h
    · rw [ofText, hdeep] at h
      cases h
      exact absurd rfl (hother p)

/-- A literal with seven levels. Six braces are open at the quoted one, which opens nothing; the
next brace is the seventh. -/
def sevenLevels : String :=
  "\x7b\x7b\x7b\x7b\x7b\x7b\"\x7b\",\x7b1\x7d\x7d\x7d\x7d\x7d\x7d\x7d"

/-- Seven levels are refused at the seventh brace, and what is refused for a missing brace is
refused for it without a limit as well. -/
theorem ofText_eq_readLiteral_none_seventh :
    readLiteral none sevenLevels.toList = .ok
        [.nested [.nested [.nested [.nested [.nested [.text "\x7b", .nested [.text "1"]]]]]]] ∧
      ofText sevenLevels = .error (.arrayLiteral 10 .tooDeep) ∧
      (∃ before after, sevenLevels.toList = before ++ after ∧
        firstTooDeep 6 .outside 0 sevenLevels.toList = some after ∧
        ofText sevenLevels = .error (.arrayLiteral (byteSize before) .tooDeep)) ∧
      readLiteral none "\x7b1".toList = .error (.arrayLiteral 2 .characterExpected) := by
  have h : readLiteral none sevenLevels.toList = .ok
      [.nested [.nested [.nested [.nested [.nested [.text "\x7b", .nested [.text "1"]]]]]]] := rfl
  exact ⟨h, rfl, (ofText_eq_readLiteral_none sevenLevels).2.1 _ h (by decide),
    (ofText_eq_readLiteral_none "\x7b1").2.2 _ rfl nofun⟩

end PgJson.ArrayLiteral
