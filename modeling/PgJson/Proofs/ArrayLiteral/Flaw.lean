import PgJson.Proofs.ArrayLiteral.Entry

/-!
# Where a text stops being a literal

A text that is no literal has one of five flaws, and the reader reports the place of it. Two flaws
are met inside of arrays and are reported where they are: a brace that opens too many dimensions,
and a quote that is never closed. Whatever else is wrong inside of an array only means that there
is no such element, so the list around it ends before; it is reported where the list of the first
level ends and its brace should be closed. The other two flaws are a missing first brace, and
something behind the literal.

What stands in front of a flaw could have been the front of a literal. So the place that is reported
is never behind the first character that rules the text out.

Three of the flaws are reported by the same words. They are told apart by what is at the place: only
the quote that is not closed leaves a scanner for quotes inside, and only the missing first brace
leaves the array without one.

## Main definitions

* `PgJson.ArrayLiteral.Flaw`, `Flaw.cause` — the five flaws, and what is reported
* `PgJson.ArrayLiteral.Listed` — a list of elements of the first level
* `PgJson.ArrayLiteral.FlawIn`, `FlawAt` — a flaw, in front of a given rest of a text

## Main results

* `PgJson.ArrayLiteral.FlawAt.exists_literal` — what stands in front of a flaw can be completed
* `PgJson.ArrayLiteral.FlawAt.unique` — what is reported at a place tells the flaw
-/

namespace PgJson.ArrayLiteral

open Text (IsSpaces StartsFull Mode skipSpaces byteSize)

variable {limit : Option Nat}

/-! ### Flaws -/

/-- Why a text is no literal. -/
inductive Flaw where
  /-- A brace opens too many dimensions. -/
  | tooDeep
  /-- A quote is never closed. -/
  | unclosed
  /-- There is no first brace. -/
  | unopened
  /-- The first brace is not closed behind its elements. -/
  | unfinished
  /-- Something follows the literal. -/
  | surplus
deriving DecidableEq, Repr

/-- What is reported. -/
def Flaw.cause : Flaw → Cause
  | .tooDeep => .tooDeep
  | .unclosed => .characterExpected
  | .unopened => .characterExpected
  | .unfinished => .characterExpected
  | .surplus => .endExpected

/-- Where a scanner for quotes stands at a flaw. -/
def Flaw.mode : Flaw → Mode
  | .unclosed => .inside
  | _ => .outside

/-- A text begins with a list of elements of the first level, which leaves `rest`. -/
inductive Listed (limit : Option Nat) (s : List Char) : List Char → Prop
  | none : Listed limit s s
  | some {s' rest : List Char} {e : Element} {es : List Element} (he : ElementAt limit 1 s e s')
    (hes : MoreAt limit 1 s' es rest) : Listed limit s rest

/-- `body`, from the first brace on, has a flaw in front of what is left of it. -/
inductive FlawIn (limit : Option Nat) (body : List Char) : Flaw → List Char → Prop
  /-- An element that is an array, inside as many braces as there may be. -/
  | tooDeep {n : Nat} {r : List Char} (hn : n ∈ limit) (h : EntryAt limit body n ('\x7b' :: r)) :
    FlawIn limit body .tooDeep ('\x7b' :: r)
  /-- Behind the quote of an element, where no other quote follows that could close it. -/
  | unclosed {d : Nat} {r : List Char} (h : EntryAt limit body (d + 1) ('"' :: r))
    (hr : ∀ inner t rest, Escaped inner t → r ≠ inner ++ '"' :: rest) :
    FlawIn limit body .unclosed r
  | unopened (h : ∀ r, body ≠ '\x7b' :: r) : FlawIn limit body .unopened body
  /-- Behind the longest list of elements and the spaces after it. -/
  | unfinished {b s b' r : List Char} (hbody : body = '\x7b' :: (b ++ s)) (hb : IsSpaces b)
    (hs : StartsFull s) (hlist : Listed limit s (b' ++ r))
    (hlongest : ∀ rest, Listed limit s rest → (b' ++ r).length ≤ rest.length)
    (hb' : IsSpaces b') (hr : StartsFull r) (hclose : ∀ r', r ≠ '\x7d' :: r') :
    FlawIn limit body .unfinished r

/-- A text with a flaw between `before` and `after`. -/
inductive FlawAt (limit : Option Nat) : Flaw → List Char → List Char → Prop
  | within {flaw : Flaw} {lead body before after : List Char} (hlead : LeadsTo lead body)
    (htext : lead ++ body = before ++ after) (h : FlawIn limit body flaw after) :
    FlawAt limit flaw before after
  | surplus {before after : List Char} {items : List Element} (h : Literal limit before items)
    (hfull : StartsFull after) (hne : after ≠ []) : FlawAt limit .surplus before after

/-! ### In front of a flaw -/

/-- A list of elements can be closed behind the spaces after it. -/
theorem Listed.exists_extent {b s b' r : List Char} (h : Listed limit s (b' ++ r))
    (hd : ∀ n ∈ limit, 1 ≤ n) (hb : IsSpaces b) (hb' : IsSpaces b') :
    ∃ v, s = v ++ (b' ++ r) ∧ Mode.outside.after v = .outside ∧
      Finishes limit 0 ('\x7b' :: (b ++ (v ++ (b' ++ ['\x7d'])))) := by
  generalize hrest : b' ++ r = rest at h
  cases h with
  | none =>
    refine ⟨[], rfl, rfl, [], ?_⟩
    rw [List.nil_append, ← List.append_assoc]
    exact .empty hd (Text.isSpaces_append.mpr ⟨hb, hb'⟩)
  | @some _ _ e es he hes =>
    subst hrest
    obtain ⟨u, rfl, hu, hfirst⟩ := he.exists_extent
    obtain ⟨v, rfl, hv, hmore⟩ := hes.exists_extent
    have hclose : EndsBare (b' ++ r) → EndsBare (b' ++ ['\x7d']) :=
      fun h => h.exchange fun _ => by simp [EndsBare, isBare]
    refine ⟨u ++ v, by simp, by simp [hu, hv], e :: es, ?_⟩
    rw [List.append_assoc]
    exact .cons hd hb (hfirst _ fun h => h.exchange hclose) (hmore _ hclose) hb'

/-- What stands in front of a flaw can be completed to an array. -/
theorem FlawIn.exists_extent {body after : List Char} {flaw : Flaw}
    (h : FlawIn limit body flaw after) (hd : ∀ n ∈ limit, 1 ≤ n) :
    ∃ u, body = u ++ after ∧ Mode.outside.after u = flaw.mode ∧
      ∃ tail, Finishes limit 0 (u ++ tail) := by
  cases h with
  | @tooDeep n r hn h =>
    obtain ⟨d, rfl⟩ := Nat.exists_eq_add_one.mpr (hd n hn)
    obtain ⟨u, hbody, hu, hfinish⟩ := h.exists_extent
    exact ⟨u, hbody, hu, _, hfinish _ (finishes_quotes d)⟩
  | @unclosed d _ h _ =>
    obtain ⟨u, hbody, hu, hfinish⟩ := h.exists_extent
    refine ⟨u ++ ['"'], by simp [hbody], by simp [hu, Flaw.mode],
      '"' :: List.replicate (d + 1) '\x7d', ?_⟩
    rw [List.append_assoc]
    exact hfinish _ (finishes_quotes d)
  | unopened _ => exact ⟨[], rfl, rfl, ['\x7b', '\x7d'], [], .empty hd Text.isSpaces_nil⟩
  | @unfinished b s b' _ hbody hb _ hlist _ hb' _ _ =>
    obtain ⟨v, hs, hv, hfinish⟩ := hlist.exists_extent hd hb hb'
    refine ⟨'\x7b' :: (b ++ (v ++ b')), by simp [hbody, hs], ?_, ['\x7d'], by simpa using hfinish⟩
    simp [outside_after_spaces hb, outside_after_spaces hb', Mode.outside_next, hv, Flaw.mode]

/-- **The front of a literal.** What stands in front of a flaw can be completed to a literal. -/
theorem FlawAt.exists_literal {before after : List Char} {flaw : Flaw}
    (h : FlawAt limit flaw before after) (hd : ∀ n ∈ limit, 1 ≤ n) :
    ∃ tail items, Literal limit (before ++ tail) items := by
  cases h with
  | within hlead htext h =>
    obtain ⟨u, rfl, -, tail, items, harray⟩ := h.exists_extent hd
    rw [← List.append_assoc] at htext
    rw [← List.append_cancel_right htext]
    refine ⟨tail, items, ?_⟩
    rw [List.append_assoc]
    exact hlead.literal harray Text.isSpaces_nil
  | surplus h _ _ => exact ⟨[], _, by rwa [List.append_nil]⟩

/-! ### Telling flaws apart -/

theorem Flaw.eq_of_cause_eq {flaw flaw' : Flaw} (hcause : flaw.cause = flaw'.cause)
    (hmode : flaw.mode = flaw'.mode) (hopen : flaw = .unopened ↔ flaw' = .unopened) :
    flaw = flaw' := by
  cases flaw <;> cases flaw' <;> simp_all [Flaw.cause, Flaw.mode]

theorem FlawIn.eq_unopened_iff {body after : List Char} {flaw : Flaw}
    (h : FlawIn limit body flaw after) (hd : ∀ n ∈ limit, 1 ≤ n) :
    flaw = .unopened ↔ ∀ r, body ≠ '\x7b' :: r := by
  cases h with
  | @tooDeep n _ hn h =>
    obtain ⟨r, rfl⟩ := h.exists_eq_cons (Nat.one_le_iff_ne_zero.mp (hd n hn))
    simp
  | @unclosed d _ h _ =>
    obtain ⟨r, rfl⟩ := h.exists_eq_cons (Nat.succ_ne_zero d)
    simp
  | unopened h => exact iff_of_true rfl h
  | unfinished hbody _ _ _ _ _ _ _ => simp [hbody]

theorem FlawIn.unique {body after : List Char} {flaw flaw' : Flaw}
    (h : FlawIn limit body flaw after) (h' : FlawIn limit body flaw' after)
    (hd : ∀ n ∈ limit, 1 ≤ n) (hcause : flaw.cause = flaw'.cause) : flaw = flaw' := by
  obtain ⟨u, hu, hmode, -⟩ := h.exists_extent hd
  obtain ⟨u', hu', hmode', -⟩ := h'.exists_extent hd
  have hfront : u = u' := List.append_cancel_right (hu.symm.trans hu')
  refine Flaw.eq_of_cause_eq hcause (hmode.symm.trans (hfront ▸ hmode')) ?_
  rw [h.eq_unopened_iff hd, h'.eq_unopened_iff hd]

theorem FlawIn.ne_surplus {body after : List Char} {flaw : Flaw}
    (h : FlawIn limit body flaw after) : flaw ≠ .surplus := by
  rintro rfl
  cases h

theorem Flaw.cause_eq_endExpected_iff {flaw : Flaw} :
    flaw.cause = .endExpected ↔ flaw = .surplus := by
  cases flaw <;> simp [Flaw.cause]

/-- What is reported at a place tells the flaw. -/
theorem FlawAt.unique {before after : List Char} {flaw flaw' : Flaw}
    (h : FlawAt limit flaw before after) (h' : FlawAt limit flaw' before after)
    (hd : ∀ n ∈ limit, 1 ≤ n) (hcause : flaw.cause = flaw'.cause) : flaw = flaw' := by
  cases h with
  | within hlead htext h =>
    cases h' with
    | within hlead' htext' h' =>
      have hbody := hlead.dropBounds_skipSpaces
      rw [htext, ← htext', hlead'.dropBounds_skipSpaces] at hbody
      subst hbody
      exact h.unique h' hd hcause
    | surplus => exact absurd (Flaw.cause_eq_endExpected_iff.mp hcause) h.ne_surplus
  | surplus => exact (Flaw.cause_eq_endExpected_iff.mp hcause.symm).symm

end PgJson.ArrayLiteral
