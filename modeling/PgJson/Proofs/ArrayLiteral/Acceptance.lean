import PgJson.Proofs.ArrayLiteral.Grammar

/-!
# The reader accepts exactly the grammar

Every part of the reader is matched with the part of the grammar that it reads, the leaves first:
bounds, quoted texts, bare runs. For elements, lists of elements and arrays each direction is an
induction of its own. What the reader accepts is a derivation: the induction is on its steps. What
the grammar derives is accepted: a derivation of an array shrinks with the text, so the induction
is on the number of characters that the reader may take, and what follows the last element must be
a closing brace, since only then does the reader stop there.

## Main results

* `PgJson.ArrayLiteral.readArray_eq_done_iff` — arrays
* `PgJson.ArrayLiteral.readLiteral_eq_ok_iff` — whole literals, with any limit on the dimensions
* `PgJson.ArrayLiteral.Literal.unique` — a text has one reading at most
-/

namespace PgJson.ArrayLiteral

open Text (IsSpaces StartsFull IsTrimOf skipSpaces)

/-! ### Bounds -/

theorem afterBounds_true_append {b : List Char} (hb : ∀ c ∈ b, isBound c = true) (s : List Char) :
    afterBounds true (b ++ ']' :: s) = afterBounds false s := by
  induction b with
  | nil => rfl
  | cons c b ih =>
    rw [List.forall_mem_cons] at hb
    rw [List.cons_append, afterBounds, if_pos hb.1, ih hb.2]

theorem afterBounds_false_append {ds : List Char} (h : Bounds ds) (s : List Char) :
    afterBounds false (ds ++ '=' :: s) = some s := by
  induction h with
  | last hb =>
    simp only [List.cons_append, List.append_assoc, List.nil_append, afterBounds, ↓reduceIte]
    rw [afterBounds_true_append hb]
    rfl
  | cons hb _ ih =>
    simp only [List.cons_append, List.append_assoc, afterBounds, ↓reduceIte]
    rw [afterBounds_true_append hb]
    exact ih

/-- Bounds are dropped with their equals sign, whatever follows it. -/
theorem dropBounds_bounds {ds : List Char} (h : Bounds ds) (r : List Char) :
    dropBounds (ds ++ '=' :: r) = r := by
  have hafter := afterBounds_false_append h r
  obtain ⟨u, rfl⟩ := h.exists_eq_cons
  rw [List.cons_append, afterBounds, if_pos rfl] at hafter
  simp only [List.cons_append, dropBounds]
  rw [hafter, Option.getD_some]

/-- A decoration is dropped as a whole. -/
theorem dropBounds_append {deco : List Char} (h : Decoration deco) (r : List Char) :
    dropBounds (deco ++ '\x7b' :: r) = '\x7b' :: r := by
  cases h with
  | none => rfl
  | bounds hds =>
    rw [List.append_assoc, List.singleton_append]
    exact dropBounds_bounds hds _

/-- What stands before the text that `afterBounds` delivers, when a bracket is open or not. -/
theorem bounds_of_afterBounds {inside : Bool} {s r : List Char}
    (h : afterBounds inside s = some r) :
    if inside then ∃ b s', (∀ c ∈ b, isBound c = true) ∧ s = b ++ ']' :: s' ∧
        (s' = '=' :: r ∨ ∃ ds, Bounds ds ∧ s' = ds ++ '=' :: r)
    else s = '=' :: r ∨ ∃ ds, Bounds ds ∧ s = ds ++ '=' :: r := by
  fun_induction afterBounds inside s with
  | case1 => cases h
  | case2 c s hc ih =>
    obtain ⟨b, s', hb, rfl, htail⟩ := ih h
    exact ⟨c :: b, s', List.forall_mem_cons.mpr ⟨hc, hb⟩, rfl, htail⟩
  | case3 s _ ih => exact ⟨[], s, by simp, rfl, ih h⟩
  | case4 => cases h
  | case5 s ih =>
    obtain ⟨b, s', hb, rfl, rfl | ⟨ds, hds, rfl⟩⟩ := ih h
    · exact .inr ⟨_, .last hb, by simp⟩
    · exact .inr ⟨_, .cons hb hds, by simp⟩
  | case6 s _ =>
    cases h
    exact .inl rfl
  | case7 => cases h

/-- What `dropBounds` drops is a decoration. -/
theorem exists_decoration (s : List Char) : ∃ deco, Decoration deco ∧ s = deco ++ dropBounds s := by
  unfold dropBounds
  split
  · next r =>
    cases hr : afterBounds true r with
    | none => exact ⟨[], .none, rfl⟩
    | some u =>
      obtain ⟨b, s', hb, rfl, rfl | ⟨ds, hds, rfl⟩⟩ := bounds_of_afterBounds hr
      · exact ⟨_, .bounds (.last hb), by simp⟩
      · exact ⟨_, .bounds (.cons hb hds), by simp⟩
  · exact ⟨[], .none, rfl⟩

/-! ### Quoted texts -/

theorem readQuoted_append {s t : List Char} (h : Escaped s t) (rest : List Char) :
    readQuoted (s ++ '"' :: rest) = some (t, rest) := by
  induction h with
  | nil => rfl
  | plain hq hb _ ih =>
    rw [List.cons_append, readQuoted, ih]
    · rfl
    · simpa using hq
    · simp [hb]
    · simp [hb]
  | escape _ ih =>
    rw [List.cons_append, List.cons_append, readQuoted, ih]
    rfl

theorem escaped_of_readQuoted {s t rest : List Char} (h : readQuoted s = some (t, rest)) :
    ∃ body, Escaped body t ∧ s = body ++ '"' :: rest := by
  fun_induction readQuoted s generalizing t with
  | case1 => cases h
  | case2 s =>
    cases h
    exact ⟨[], .nil, rfl⟩
  | case3 => cases h
  | case4 c s ih =>
    obtain ⟨⟨t', r⟩, htr, heq⟩ := Option.map_eq_some_iff.mp h
    cases heq
    obtain ⟨body, hbody, rfl⟩ := ih htr
    exact ⟨_, hbody.escape, rfl⟩
  | case5 c s hq hend hb ih =>
    obtain ⟨⟨t', r⟩, htr, heq⟩ := Option.map_eq_some_iff.mp h
    cases heq
    obtain ⟨body, hbody, rfl⟩ := ih htr
    refine ⟨_, hbody.plain (by simpa using hq) ?_, rfl⟩
    rintro rfl
    cases body with
    | nil => exact hb _ _ rfl rfl
    | cons c body => exact hb _ _ rfl rfl

/-! ### Bare runs -/

theorem bareValue_iff {run : List Char} {e : Element} : BareValue run e ↔ e = bareElement run := by
  unfold bareElement
  constructor
  · rintro (⟨ht, hn⟩ | ⟨ht, hn⟩)
    · simp [← Text.isTrimOf_iff.mp ht, hn]
    · simp [← Text.isTrimOf_iff.mp ht, hn]
  · rintro rfl
    have ht := Text.isTrimOf_iff.mpr (rfl : Text.trim run = Text.trim run)
    cases hn : spellsNull (Text.trim run) with
    | true => simpa [hn] using BareValue.null ht hn
    | false => simpa [hn] using BareValue.text ht hn

theorem takeWhile_isBare_append {run rest : List Char} (hrun : ∀ c ∈ run, isBare c = true)
    (hmax : EndsBare rest) :
    (run ++ rest).takeWhile isBare = run ∧ (run ++ rest).dropWhile isBare = rest := by
  rw [List.takeWhile_append_of_pos hrun, List.dropWhile_append_of_pos hrun]
  cases rest with
  | nil => simp
  | cons c rest =>
    have hc : isBare c = false := hmax c rfl
    simp [hc]

theorem endsBare_dropWhile (s : List Char) : EndsBare (s.dropWhile isBare) := by
  intro c hc
  have hnot := List.head?_dropWhile_not isBare s
  rw [Option.mem_def.mp hc] at hnot
  exact hnot

/-! ### What is accepted is derived -/

section Sound

variable {limit : Option Nat} {d : Nat} {nested : List Char → Reading (List Element)}

theorem elementAt_bareRun {c : Char} {r : List Char} (hs : StartsFull (c :: r))
    (hc : isBare c = true) :
    ElementAt limit d (c :: r) (bareElement ((c :: r).takeWhile isBare))
      ((c :: r).dropWhile isBare) := by
  have htake : (c :: r).takeWhile isBare = c :: r.takeWhile isBare := by
    rw [List.takeWhile_cons, if_pos hc]
  have helement : ElementAt limit d ((c :: r).takeWhile isBare ++ (c :: r).dropWhile isBare)
      (bareElement ((c :: r).takeWhile isBare)) ((c :: r).dropWhile isBare) := by
    refine .bare ?_ ?_ (fun _ hx => List.mem_takeWhile_imp hx) (endsBare_dropWhile (c :: r))
      (bareValue_iff.mpr rfl)
    · rw [htake]
      exact List.cons_ne_nil _ _
    · rw [htake]
      simpa using hs
  rwa [List.takeWhile_append_dropWhile] at helement

theorem elementAt_of_readElement
    (hn : ∀ s items rest, nested s = .done items rest → ArrayAt limit (d + 1) s items rest)
    {s rest : List Char} {e : Element} (hs : StartsFull s)
    (h : readElement nested s = .done e rest) : ElementAt limit d s e rest := by
  cases s with
  | nil => cases h
  | cons c r =>
    rw [readElement] at h
    split at h
    · cases hr : nested (c :: r) with
      | done items rest' =>
        rw [hr] at h
        cases h
        exact .nested (hn _ _ _ hr)
      | mismatch _ => rw [hr] at h; cases h
      | abort _ _ => rw [hr] at h; cases h
    · split at h
      · next hc =>
        subst hc
        cases hr : readQuoted r with
        | none => rw [hr] at h; cases h
        | some p =>
          rw [hr] at h
          cases h
          obtain ⟨body, hbody, rfl⟩ := escaped_of_readQuoted hr
          exact .quoted hbody
      · split at h
        · next hbare =>
          cases h
          exact elementAt_bareRun hs hbare
        · cases h

theorem moreAt_of_readMore
    (hn : ∀ s items rest, nested s = .done items rest → ArrayAt limit (d + 1) s items rest)
    {steps s rest : List Char} {es : List Element}
    (h : readMore (readElement nested) steps s = .done es rest) : MoreAt limit d s es rest := by
  induction steps generalizing s es with
  | nil =>
    cases h
    exact .nil
  | cons _ steps ih =>
    rw [readMore] at h
    split at h
    · next r hr =>
      obtain ⟨b, hb, hs⟩ := Text.exists_spaces s
      obtain ⟨b', hb', hr'⟩ := Text.exists_spaces r
      cases he : readElement nested (skipSpaces r) with
      | done e s' =>
        cases hes : readMore (readElement nested) steps s' with
        | done es' rest' =>
          simp only [he, hes] at h
          cases h
          rw [hs, hr, hr']
          exact .cons hb hb' (elementAt_of_readElement hn (Text.startsFull_skipSpaces r) he)
            (ih hes)
        | mismatch _ => simp only [he, hes] at h; cases h
        | abort _ _ => simp only [he, hes] at h; cases h
      | mismatch _ =>
        rw [he] at h
        cases h
        exact .nil
      | abort _ _ => rw [he] at h; cases h
    · cases h
      exact .nil

/-- What `readElements` accepts: nothing at all, or an element and those that follow it. -/
theorem of_readElements
    (hn : ∀ s items rest, nested s = .done items rest → ArrayAt limit (d + 1) s items rest)
    {s rest : List Char} {es : List Element} (hs : StartsFull s)
    (h : readElements (readElement nested) s = .done es rest) :
    (es = [] ∧ rest = s) ∨ ∃ e es' s', es = e :: es' ∧ ElementAt limit d s e s' ∧
      MoreAt limit d s' es' rest := by
  rw [readElements] at h
  cases he : readElement nested s with
  | done e s' =>
    cases hes : readMore (readElement nested) s' s' with
    | done es' rest' =>
      simp only [he, hes] at h
      cases h
      exact .inr ⟨e, es', s', rfl, elementAt_of_readElement hn hs he, moreAt_of_readMore hn hes⟩
    | mismatch _ => simp only [he, hes] at h; cases h
    | abort _ _ => simp only [he, hes] at h; cases h
  | mismatch _ =>
    rw [he] at h
    cases h
    exact .inl ⟨rfl, rfl⟩
  | abort _ _ => rw [he] at h; cases h

theorem exceeds_eq_false_iff {limit : Option Nat} {d : Nat} :
    exceeds limit d = false ↔ ∀ n ∈ limit, d ≤ n := by
  cases limit with
  | none => simp [exceeds]
  | some n => simp [exceeds]

/-- The induction is on the steps: an array inside an array is read with one step less. -/
theorem arrayAt_of_readArray {steps : Nat} {s rest : List Char} {items : List Element}
    (h : readArray limit steps d s = .done items rest) : ArrayAt limit d s items rest := by
  induction steps generalizing d s items rest with
  | zero => cases h
  | succ steps ih =>
    unfold readArray at h
    split at h
    · next r =>
      split at h
      · cases h
      · next hd =>
        have hlimit := exceeds_eq_false_iff.mp (Bool.eq_false_iff.mpr hd)
        obtain ⟨b, hb, hr⟩ := Text.exists_spaces r
        cases hes : readElements (readElement (readArray limit steps (d + 1))) (skipSpaces r) with
        | done es s' =>
          obtain ⟨b', hb', hs'⟩ := Text.exists_spaces s'
          simp only [hes] at h
          split at h
          · next rest' hrest =>
            cases h
            rw [hrest] at hs'
            rcases of_readElements (fun _ _ _ => ih) (Text.startsFull_skipSpaces r) hes with
              ⟨rfl, rfl⟩ | ⟨e, es', s'', rfl, he, hmore⟩
            · have hskip : skipSpaces r = '\x7d' :: rest := by
                rw [← hrest, Text.skipSpaces_eq_self (Text.startsFull_skipSpaces r)]
              rw [hr, hskip]
              exact .empty hlimit hb
            · rw [hs'] at hmore
              rw [hr]
              exact .cons hlimit hb he hmore hb'
          · cases h
        | mismatch _ => rw [hes] at h; cases h
        | abort _ _ => rw [hes] at h; cases h
    · cases h

end Sound

/-! ### What is derived is accepted -/

section Complete

variable {limit : Option Nat}

/-- After spaces comes the brace that closes an array. -/
def Closes (s : List Char) : Prop := ∃ r, skipSpaces s = '\x7d' :: r

theorem closes_append {b : List Char} (hb : IsSpaces b) (r : List Char) :
    Closes (b ++ '\x7d' :: r) :=
  ⟨r, Text.skipSpaces_append_of_startsFull hb (by simp [Text.isSpace])⟩

theorem readMore_of_closes {element : List Char → Reading Element} {steps s : List Char}
    (h : Closes s) : readMore element steps s = .done [] s := by
  obtain ⟨r, hr⟩ := h
  cases steps with
  | nil => rfl
  | cons _ _ => simp [readMore, hr]

mutual

theorem readElement_of_elementAt {steps d : Nat} {s rest : List Char} {e : Element} :
    ElementAt limit d s e rest → s.length ≤ steps →
      readElement (readArray limit steps (d + 1)) s = .done e rest
  | .nested h, hs => by
    have hread := readArray_of_arrayAt h hs
    obtain ⟨r, rfl⟩ := h.exists_eq_cons
    rw [readElement, if_pos rfl, hread]
  | .quoted h, _ => by
    rw [readElement, if_neg (by decide), if_pos rfl, readQuoted_append h]
  | .bare hne _ hrun hmax he, _ => by
    obtain ⟨c, r, rfl⟩ := List.exists_cons_of_ne_nil hne
    obtain ⟨htake, hdrop⟩ := takeWhile_isBare_append hrun hmax
    have hc : isBare c = true := hrun c (List.mem_cons_self ..)
    have hbrace : c ≠ '\x7b' := by rintro rfl; cases hc
    have hquote : c ≠ '"' := by rintro rfl; cases hc
    rw [List.cons_append] at *
    rw [readElement, if_neg hbrace, if_neg hquote, if_pos hc, htake, hdrop, bareValue_iff.mp he]

theorem readMore_of_moreAt {steps d : Nat} {fuel s rest : List Char} {es : List Element} :
    MoreAt limit d s es rest → Closes rest → s.length ≤ steps → s.length ≤ fuel.length →
      readMore (readElement (readArray limit steps (d + 1))) fuel s = .done es rest
  | .nil, hrest, _, _ => readMore_of_closes hrest
  | @MoreAt.cons _ _ b b' s s' rest e es hb hb' he hes, hrest, hs, hfuel => by
    have hshort := he.length_lt
    simp only [List.length_append, List.length_cons] at hs hfuel
    obtain ⟨_, fuel, rfl⟩ := List.exists_cons_of_length_pos (by omega : 0 < fuel.length)
    rw [List.length_cons] at hfuel
    have hcomma : skipSpaces (b ++ ',' :: (b' ++ s)) = ',' :: (b' ++ s) :=
      Text.skipSpaces_append_of_startsFull hb (by simp [Text.isSpace])
    have hskip : skipSpaces (b' ++ s) = s :=
      Text.skipSpaces_append_of_startsFull hb' he.startsFull
    have hread : readElement (readArray limit steps (d + 1)) s = .done e s' :=
      readElement_of_elementAt he (by omega)
    have hmore : readMore (readElement (readArray limit steps (d + 1))) fuel s' = .done es rest :=
      readMore_of_moreAt hes hrest (by omega) (by omega)
    simp only [readMore, hcomma, hskip, hread, hmore]

theorem readArray_of_arrayAt {steps d : Nat} {s rest : List Char} {items : List Element} :
    ArrayAt limit d s items rest → s.length ≤ steps →
      readArray limit steps d s = .done items rest
  | @ArrayAt.empty _ _ b rest hd hb, hs => by
    obtain ⟨steps, rfl⟩ : ∃ n, steps = n + 1 :=
      Nat.exists_eq_add_one.mpr (Nat.lt_of_lt_of_le (by simp) hs)
    have hskip : skipSpaces (b ++ '\x7d' :: rest) = '\x7d' :: rest :=
      Text.skipSpaces_append_of_startsFull hb (by simp [Text.isSpace])
    have hlimit := exceeds_eq_false_iff.mpr hd
    simp [readArray, hlimit, hskip, readElements, readElement, isBare, Text.skipSpaces_eq_self,
      Text.isSpace]
  | @ArrayAt.cons _ _ b b' s s' rest e es hd hb he hes hb', hs => by
    have hshort := he.length_lt
    simp only [List.length_append, List.length_cons] at hs
    obtain ⟨steps, rfl⟩ : ∃ n, steps = n + 1 := Nat.exists_eq_add_one.mpr (by omega)
    have hskip : skipSpaces (b ++ s) = s := Text.skipSpaces_append_of_startsFull hb he.startsFull
    have hclose : skipSpaces (b' ++ '\x7d' :: rest) = '\x7d' :: rest :=
      Text.skipSpaces_append_of_startsFull hb' (by simp [Text.isSpace])
    have hread : readElement (readArray limit steps (d + 1)) s = .done e s' :=
      readElement_of_elementAt he (by omega)
    have hmore : readMore (readElement (readArray limit steps (d + 1))) s' s' =
        .done es (b' ++ '\x7d' :: rest) :=
      readMore_of_moreAt hes (closes_append hb' rest) (by omega) (Nat.le_refl _)
    have hlimit := exceeds_eq_false_iff.mpr hd
    simp [readArray, hlimit, hskip, readElements, hread, hmore, hclose]

end

end Complete

/-! ### Both directions together -/

section Exact

variable {limit : Option Nat}

/-- **Arrays.** With as many steps as there are characters, exactly the arrays are read. -/
theorem readArray_eq_done_iff {steps d : Nat} {s rest : List Char} {items : List Element}
    (hs : s.length ≤ steps) :
    readArray limit steps d s = .done items rest ↔ ArrayAt limit d s items rest :=
  ⟨arrayAt_of_readArray, fun h => readArray_of_arrayAt h hs⟩

/-- A text determines the array in front of it. -/
theorem ArrayAt.unique {d : Nat} {s rest rest' : List Char} {items items' : List Element}
    (h : ArrayAt limit d s items rest) (h' : ArrayAt limit d s items' rest') :
    items = items' ∧ rest = rest' := by
  rw [← readArray_eq_done_iff (Nat.le_refl _)] at h h'
  rw [h] at h'
  cases h'
  exact ⟨rfl, rfl⟩

/-- The spaces and the decoration in front of an array do not matter to what is read. -/
theorem dropBounds_skipSpaces {b deco s rest : List Char} {items : List Element} (hb : IsSpaces b)
    (hdeco : Decoration deco) (h : ArrayAt limit 1 s items rest) :
    dropBounds (skipSpaces (b ++ deco ++ s)) = s := by
  rw [List.append_assoc, Text.skipSpaces_append_of_startsFull hb (hdeco.startsFull_append h)]
  obtain ⟨r, rfl⟩ := h.exists_eq_cons
  exact dropBounds_append hdeco r

/-- **Whole literals.** Exactly the literals are read. -/
theorem readLiteral_eq_ok_iff {text : List Char} {items : List Element} :
    readLiteral limit text = .ok items ↔ Literal limit text items := by
  constructor
  · intro h
    obtain ⟨b, hb, htext⟩ := Text.exists_spaces text
    obtain ⟨deco, hdeco, hbody⟩ := exists_decoration (skipSpaces text)
    rw [hbody, ← List.append_assoc] at htext
    simp only [readLiteral] at h
    split at h
    · next items' rest hread =>
      split at h
      · next hrest =>
        cases h
        rw [htext]
        exact .intro hb hdeco (arrayAt_of_readArray hread)
          (Text.isSpaces_of_skipSpaces_eq_nil hrest)
      · cases h
    · cases h
    · cases h
  · rintro ⟨hb, hdeco, harray, hb'⟩
    simp only [readLiteral, dropBounds_skipSpaces hb hdeco harray,
      readArray_of_arrayAt harray (Nat.le_refl _), Text.skipSpaces_eq_nil hb']

/-- A text has one reading at most. -/
theorem Literal.unique {text : List Char} {items items' : List Element}
    (h : Literal limit text items) (h' : Literal limit text items') : items = items' := by
  have hread := readLiteral_eq_ok_iff.mpr h
  rw [readLiteral_eq_ok_iff.mpr h'] at hread
  cases hread
  rfl

end Exact

end PgJson.ArrayLiteral
