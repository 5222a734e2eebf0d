import PgJson.Proofs.ArrayLiteral.Flaw

/-!
# What is refused, and where

The reader gives up a text for good in two places, which it passes on as they are through every
array around them. So the induction on its steps carries along where it stands: at an entry of the
text as a whole. Any other mismatch inside of an array is forgotten, and only an array of the first
level is refused for one, when no closing brace stands behind its elements. There the list that has
been read is the longest, since the reader goes wherever the grammar goes.

## Main definitions

* `PgJson.ArrayLiteral.FailsAt` — a flaw that is reported by a given cause

## Main results

* `PgJson.ArrayLiteral.failsAt_of_readArray` — giving up for good
* `PgJson.ArrayLiteral.failsAt_of_mismatch` — a mismatch at the first level
* `PgJson.ArrayLiteral.exists_flawAt_of_readLiteral` — every refusal is a flaw of the text
* `PgJson.ArrayLiteral.ofText_eq_error_located` — the places that are reported
-/

namespace PgJson.ArrayLiteral

open Text (IsSpaces StartsFull skipSpaces byteSize)

variable {limit : Option Nat} {body : List Char}

/-- There is a flaw that is reported as `cause`, in front of `rest`. -/
def FailsAt (limit : Option Nat) (body : List Char) (cause : Cause) (rest : List Char) : Prop :=
  ∃ flaw : Flaw, flaw.cause = cause ∧ FlawIn limit body flaw rest

/-! ### Giving up for good -/

section Abort

variable {d : Nat} {nested : List Char → Reading (List Element)} {cause : Cause}

theorem failsAt_of_readElement
    (habort : ∀ s cause rest, EntryAt limit body (d + 1) s → nested s = .abort cause rest →
      FailsAt limit body cause rest)
    {s rest : List Char} (hs : EntryAt limit body (d + 1) s)
    (h : readElement nested s = .abort cause rest) : FailsAt limit body cause rest := by
  cases s with
  | nil => cases h
  | cons c r =>
    rw [readElement] at h
    split at h
    · cases hr : nested (c :: r) with
      | done _ _ => rw [hr] at h; cases h
      | mismatch _ => rw [hr] at h; cases h
      | abort cause' rest' =>
        rw [hr] at h
        cases h
        exact habort _ _ _ hs hr
    · split at h
      · next hc =>
        subst hc
        cases hr : readQuoted r with
        | none =>
          rw [hr] at h
          cases h
          refine ⟨.unclosed, rfl, .unclosed hs ?_⟩
          rintro inner t rest hescaped rfl
          rw [readQuoted_append hescaped] at hr
          cases hr
        | some p => rw [hr] at h; cases h
      · split at h <;> cases h

variable
  (hdone : ∀ s items rest, nested s = .done items rest → ArrayAt limit (d + 2) s items rest)
  (habort : ∀ s cause rest, EntryAt limit body (d + 1) s → nested s = .abort cause rest →
    FailsAt limit body cause rest)
include hdone habort

/-- The reader stands behind the element `e`, which began at an entry. -/
theorem failsAt_of_readMore {fuel s₀ s rest : List Char} {e : Element}
    (hs₀ : EntryAt limit body (d + 1) s₀) (he : ElementAt limit (d + 1) s₀ e s)
    (h : readMore (readElement nested) fuel s = .abort cause rest) :
    FailsAt limit body cause rest := by
  induction fuel generalizing s₀ s e with
  | nil => cases h
  | cons _ fuel ih =>
    rw [readMore] at h
    split at h
    · next r hr =>
      obtain ⟨b, hb, hs⟩ := Text.exists_spaces s
      obtain ⟨b', hb', hr'⟩ := Text.exists_spaces r
      rw [hs, hr, hr'] at he
      have hfull := Text.startsFull_skipSpaces r
      have hentry := hs₀.next he hb hb' hfull
      cases hread : readElement nested (skipSpaces r) with
      | done e' s' =>
        cases hmore : readMore (readElement nested) fuel s' with
        | done _ _ => simp only [hread, hmore] at h; cases h
        | mismatch _ => simp only [hread, hmore] at h; cases h
        | abort _ _ =>
          simp only [hread, hmore] at h
          cases h
          exact ih hentry (elementAt_of_readElement hdone hfull hread) hmore
      | mismatch _ => rw [hread] at h; cases h
      | abort _ _ =>
        rw [hread] at h
        cases h
        exact failsAt_of_readElement habort hentry hread
    · cases h

theorem failsAt_of_readElements {s rest : List Char} (hs : EntryAt limit body (d + 1) s)
    (hfull : StartsFull s) (h : readElements (readElement nested) s = .abort cause rest) :
    FailsAt limit body cause rest := by
  rw [readElements] at h
  cases hread : readElement nested s with
  | done e s' =>
    cases hmore : readMore (readElement nested) s' s' with
    | done _ _ => simp only [hread, hmore] at h; cases h
    | mismatch _ => simp only [hread, hmore] at h; cases h
    | abort _ _ =>
      simp only [hread, hmore] at h
      cases h
      exact failsAt_of_readMore hdone habort hs (elementAt_of_readElement hdone hfull hread) hmore
  | mismatch _ => rw [hread] at h; cases h
  | abort _ _ =>
    rw [hread] at h
    cases h
    exact failsAt_of_readElement habort hs hread

end Abort

/-- An array that begins at an entry is given up for good only for a flaw of the whole text. The
induction is on the steps, one less for an array inside. -/
theorem failsAt_of_readArray {steps d : Nat} {s rest : List Char} {cause : Cause}
    (hs : EntryAt limit body d s) (h : readArray limit steps (d + 1) s = .abort cause rest) :
    FailsAt limit body cause rest := by
  induction steps generalizing d s cause rest with
  | zero => cases h
  | succ steps ih =>
    unfold readArray at h
    split at h
    · next r =>
      split at h
      · next hexceeds =>
        cases h
        obtain ⟨n, rfl, hn⟩ : ∃ n, limit = some n ∧ n < d + 1 := by
          simpa [exceeds, Option.any_eq_true] using hexceeds
        obtain rfl : n = d := Nat.le_antisymm (Nat.le_of_lt_succ hn) (hs.le_limit n rfl)
        exact ⟨.tooDeep, rfl, .tooDeep rfl hs⟩
      · next hwithin =>
        have hd := exceeds_eq_false_iff.mp (Bool.eq_false_iff.mpr hwithin)
        have hfull := Text.startsFull_skipSpaces r
        obtain ⟨b, hb, hr⟩ := Text.exists_spaces r
        rw [hr] at hs
        cases hes : readElements (readElement (readArray limit steps (d + 2))) (skipSpaces r) with
        | done es s' =>
          simp only [hes] at h
          split at h <;> cases h
        | mismatch _ => rw [hes] at h; cases h
        | abort _ _ =>
          rw [hes] at h
          cases h
          exact failsAt_of_readElements (fun _ _ _ => arrayAt_of_readArray)
            (fun _ _ _ => ih) (hs.first hd hb hfull) hfull hes
    · cases h

/-! ### A mismatch at the first level -/

theorem readMore_ne_mismatch {element : List Char → Reading Element} {fuel s rest : List Char} :
    readMore element fuel s ≠ .mismatch rest := by
  fun_induction readMore element fuel s <;> simp_all

theorem readElements_ne_mismatch {element : List Char → Reading Element} {s rest : List Char} :
    readElements element s ≠ .mismatch rest := by
  intro h
  rw [readElements] at h
  cases he : element s with
  | done e s' =>
    cases hes : readMore element s' s' with
    | done _ _ => simp only [he, hes] at h; cases h
    | mismatch _ => exact readMore_ne_mismatch hes
    | abort _ _ => simp only [he, hes] at h; cases h
  | mismatch _ => rw [he] at h; cases h
  | abort _ _ => rw [he] at h; cases h

/-- The reader goes as far as any elements go. -/
theorem length_le_of_readMore {steps d : Nat} {fuel s rest rest' : List Char}
    {es es' : List Element} : MoreAt limit d s es rest →
    readMore (readElement (readArray limit steps (d + 1))) fuel s = .done es' rest' →
    s.length ≤ steps → s.length ≤ fuel.length → rest'.length ≤ rest.length
  | .nil, h, _, _ => (moreAt_of_readMore (fun _ _ _ => arrayAt_of_readArray) h).length_le
  | @MoreAt.cons _ _ b b' s s' rest e es hb hb' he hes, h, hs, hfuel => by
    have hshort := he.length_lt
    simp only [List.length_append, List.length_cons] at hs hfuel
    obtain ⟨_, fuel, rfl⟩ := List.exists_cons_of_length_pos (by omega : 0 < fuel.length)
    rw [List.length_cons] at hfuel
    have hcomma : skipSpaces (b ++ ',' :: (b' ++ s)) = ',' :: (b' ++ s) :=
      Text.skipSpaces_append_of_startsFull hb (by simp [Text.isSpace])
    have hskip : skipSpaces (b' ++ s) = s :=
      Text.skipSpaces_append_of_startsFull hb' he.startsFull
    have hread : readElement (readArray limit steps (d + 1)) s = .done e s' :=
      readElement_of_elementAt he (by omega)
    simp only [readMore, hcomma, hskip, hread] at h
    cases hmore : readMore (readElement (readArray limit steps (d + 1))) fuel s' with
    | done _ _ =>
      rw [hmore] at h
      cases h
      exact length_le_of_readMore hes hmore (by omega) (by omega)
    | mismatch _ => rw [hmore] at h; cases h
    | abort _ _ => rw [hmore] at h; cases h

theorem Listed.length_le {s rest : List Char} (h : Listed limit s rest) :
    rest.length ≤ s.length := by
  cases h with
  | none => exact Nat.le_refl _
  | some he hes => exact hes.length_le.trans (Nat.le_of_lt he.length_lt)

/-- What has been read at the first level is a list, and the longest. -/
theorem listed_of_readElements {steps : Nat} {s rest : List Char} {es : List Element}
    (hfull : StartsFull s) (hs : s.length ≤ steps)
    (h : readElements (readElement (readArray limit steps 2)) s = .done es rest) :
    Listed limit s rest ∧ ∀ rest', Listed limit s rest' → rest.length ≤ rest'.length := by
  have hlist : Listed limit s rest := by
    rcases of_readElements (fun _ _ _ => arrayAt_of_readArray) hfull h with
      ⟨-, rfl⟩ | ⟨e, es', s', -, he, hes⟩
    · exact .none
    · exact .some he hes
  refine ⟨hlist, fun rest' h' => ?_⟩
  cases h' with
  | none => exact hlist.length_le
  | @some s' _ e es' he hes =>
    have hread : readElement (readArray limit steps 2) s = .done e s' :=
      readElement_of_elementAt he hs
    rw [readElements, hread] at h
    have hshort := he.length_lt
    cases hmore : readMore (readElement (readArray limit steps 2)) s' s' with
    | done _ _ =>
      simp only [hmore] at h
      cases h
      exact length_le_of_readMore hes hmore (by omega) (Nat.le_refl _)
    | mismatch _ => exact absurd hmore readMore_ne_mismatch
    | abort _ _ => simp only [hmore] at h; cases h

/-- A text does not begin with an array of the first level: it lacks a brace, the first or the one
that closes it. -/
theorem failsAt_of_mismatch {steps : Nat} {rest : List Char} (hsteps : body.length ≤ steps)
    (h : readArray limit steps 1 body = .mismatch rest) :
    FailsAt limit body .characterExpected rest := by
  cases steps with
  | zero =>
    obtain rfl := List.eq_nil_of_length_eq_zero (Nat.le_zero.mp hsteps)
    cases h
    exact ⟨.unopened, rfl, .unopened (by simp)⟩
  | succ steps =>
    unfold readArray at h
    split at h
    · next r =>
      split at h
      · cases h
      · obtain ⟨b, hb, hr⟩ := Text.exists_spaces r
        have hfull := Text.startsFull_skipSpaces r
        have hlength : (skipSpaces r).length ≤ steps := by
          rw [hr, List.length_cons, List.length_append] at hsteps
          omega
        cases hes : readElements (readElement (readArray limit steps 2)) (skipSpaces r) with
        | done es s' =>
          obtain ⟨hlist, hlongest⟩ := listed_of_readElements hfull hlength hes
          obtain ⟨b', hb', hs'⟩ := Text.exists_spaces s'
          rw [hs'] at hlist hlongest
          simp only [hes] at h
          split at h
          · cases h
          · next hclose =>
            cases h
            exact ⟨.unfinished, rfl, .unfinished (congrArg _ hr) hb hfull hlist hlongest hb'
              (Text.startsFull_skipSpaces s') hclose⟩
        | mismatch _ => exact absurd hes readElements_ne_mismatch
        | abort _ _ => rw [hes] at h; cases h
    · next hne =>
      cases h
      exact ⟨.unopened, rfl, .unopened hne⟩

/-! ### Whole texts -/

/-- A flaw from the first brace on is a flaw of the text. -/
theorem FailsAt.exists_flawAt {lead rest : List Char} {cause : Cause}
    (h : FailsAt limit body cause rest) (hlead : LeadsTo lead body) (hd : ∀ n ∈ limit, 1 ≤ n) :
    ∃ flaw before, lead ++ body = before ++ rest ∧ flaw.cause = cause ∧
      FlawAt limit flaw before rest := by
  obtain ⟨flaw, hcause, hflaw⟩ := h
  obtain ⟨u, rfl, -⟩ := hflaw.exists_extent hd
  rw [← List.append_assoc]
  exact ⟨flaw, _, rfl, hcause, .within hlead (List.append_assoc ..).symm hflaw⟩

/-- **Every refusal is a flaw of the text**, reported by its cause and its place. -/
theorem exists_flawAt_of_readLiteral (hd : ∀ n ∈ limit, 1 ≤ n) {text : List Char} {err : Error}
    (h : readLiteral limit text = .error err) :
    ∃ flaw before after, text = before ++ after ∧
      err = .arrayLiteral (byteSize before) flaw.cause ∧ FlawAt limit flaw before after := by
  obtain ⟨lead, hlead, htext⟩ := exists_leadsTo text
  -- What is left over tells the place, since the text is what was read and what is left over.
  suffices hflaw : ∃ flaw before after, text = before ++ after ∧
      err = .arrayLiteral (byteSize text - byteSize after) flaw.cause ∧
        FlawAt limit flaw before after by
    obtain ⟨flaw, before, after, rfl, rfl, hflaw⟩ := hflaw
    refine ⟨flaw, before, after, rfl, ?_, hflaw⟩
    rw [Text.byteSize_append, Nat.add_sub_cancel]
  simp only [readLiteral] at h
  generalize dropBounds (skipSpaces text) = body at h hlead htext
  split at h
  · next items rest hread =>
    split at h
    · cases h
    · next hne =>
      cases h
      obtain ⟨u, rfl, -, harray⟩ := (arrayAt_of_readArray hread).exists_extent
      obtain ⟨b', hb', hrest⟩ := Text.exists_spaces rest
      refine ⟨.surplus, lead ++ (u ++ b'), skipSpaces rest, ?_, rfl, ?_⟩
      · rw [htext, List.append_assoc, List.append_assoc, ← hrest]
      · exact .surplus (hlead.literal (harray b') hb') (Text.startsFull_skipSpaces rest) hne
  · next rest hread =>
    cases h
    obtain ⟨flaw, before, hbefore, hcause, hflaw⟩ :=
      (failsAt_of_mismatch (Nat.le_refl _) hread).exists_flawAt hlead hd
    exact ⟨flaw, before, rest, htext.trans hbefore, by rw [hcause], hflaw⟩
  · next cause rest hread =>
    cases h
    obtain ⟨flaw, before, hbefore, hcause, hflaw⟩ :=
      (failsAt_of_readArray .start hread).exists_flawAt hlead hd
    exact ⟨flaw, before, rest, htext.trans hbefore, by rw [hcause], hflaw⟩

/-- **Refusals are located.** A text that is refused is refused for exactly one flaw. The position
that is reported counts the bytes of what stands in front of the flaw, which is where a character
begins or where the text ends, and what stands in front of it can be completed to a literal. -/
theorem ofText_eq_error_located {text : String} {err : Error} (h : ofText text = .error err) :
    ∃ before after cause, text.toList = before ++ after ∧
      err = .arrayLiteral (byteSize before) cause ∧ byteSize before ≤ byteSize text.toList ∧
      (∃ tail items, ofText (String.ofList (before ++ tail)) = .ok items) ∧
      ∃! flaw : Flaw, flaw.cause = cause ∧ FlawAt (some dimensionLimit) flaw before after := by
  have hd : ∀ n ∈ some dimensionLimit, 1 ≤ n := by decide
  obtain ⟨flaw, before, after, htext, rfl, hflaw⟩ := exists_flawAt_of_readLiteral hd h
  refine ⟨before, after, flaw.cause, htext, rfl, ?_, ?_, flaw, ⟨rfl, hflaw⟩, ?_⟩
  · rw [htext, Text.byteSize_append]
    exact Nat.le_add_right _ _
  · obtain ⟨tail, items, hliteral⟩ := hflaw.exists_literal hd
    refine ⟨tail, items, ?_⟩
    rw [ofText, String.toList_ofList]
    exact readLiteral_eq_ok_iff.mpr hliteral
  · rintro flaw' ⟨hcause, hflaw'⟩
    exact hflaw'.unique hflaw hd hcause

/-- A quote that is not closed is reported where it is, behind the elements in front of it. -/
theorem ofText_eq_error_located_unclosed :
    ofText "\x7b1,\x7b\"a" = .error (.arrayLiteral 5 .characterExpected) ∧
      ∃ before after cause, "\x7b1,\x7b\"a".toList = before ++ after ∧
        Error.arrayLiteral 5 .characterExpected = .arrayLiteral (byteSize before) cause ∧
        byteSize before ≤ byteSize "\x7b1,\x7b\"a".toList ∧
        (∃ tail items, ofText (String.ofList (before ++ tail)) = .ok items) ∧
        ∃! flaw : Flaw, flaw.cause = cause ∧
          FlawAt (some dimensionLimit) flaw before after := by
  have h : ofText "\x7b1,\x7b\"a" = .error (.arrayLiteral 5 .characterExpected) := rfl
  exact ⟨h, ofText_eq_error_located h⟩

end PgJson.ArrayLiteral
