import PgJson.Proofs.Json.Tokens
import PgJson.Proofs.Json.Tree

/-!
# Reading back documents

A tree that has been written in any style is read back as the value that it stands for, provided
that it fits and that nothing in it is taken for an embedded document. Both styles are handled at
once: between the entries of a container there is a comma and a new line, which is empty in the
compact style, and the reader skips it.

## Main definitions

* `PgJson.Json.Style.moreEntries`, `gap` — what a style puts between entries, and after a colon

## Main results

* `PgJson.Json.readValue_write` — a written tree is read back, whatever follows it
* `PgJson.Json.ofChars_write`, `ofText_text` — a written document is read back
-/

namespace PgJson.Json

open Text (IsSpaces StartsFull isSpace skipSpaces)

/-! ### Laying out containers -/

namespace Style

variable (style : Style)

/-- The entries of a container after the first, each with a comma in front. -/
def moreEntries (depth : Nat) (es : List (List Char)) : List Char :=
  es.flatMap fun e => ',' :: (style.newLine (depth + 1) ++ e)

/-- What stands between a colon and the value of a member. -/
def gap : Style → List Char
  | .compact => []
  | .pretty => [' ']

theorem isSpaces_newLine (depth : Nat) : IsSpaces (style.newLine depth) := by
  cases style with
  | compact => exact Text.isSpaces_nil
  | pretty =>
    rw [newLine, Text.isSpaces_cons]
    refine ⟨rfl, fun c hc => ?_⟩
    rw [List.eq_of_mem_replicate hc]
    rfl

theorem isSpaces_gap : IsSpaces style.gap := by
  cases style with
  | compact => exact Text.isSpaces_nil
  | pretty => exact Text.isSpaces_cons.mpr ⟨rfl, Text.isSpaces_nil⟩

theorem entries_cons (depth : Nat) (e : List Char) (es : List (List Char)) :
    style.entries depth (e :: es) =
      style.newLine (depth + 1) ++ (e ++ style.moreEntries depth es) := by
  induction es generalizing e with
  | nil => simp [entries, moreEntries]
  | cons e' es ih =>
    rw [entries, ih e', moreEntries, moreEntries, List.flatMap_cons, List.append_assoc,
      List.cons_append, List.append_assoc]
    exact fun h => List.cons_ne_nil e' es h

theorem enclose_cons_append (depth : Nat) (first last : Char) (e : List Char)
    (es : List (List Char)) (rest : List Char) :
    style.enclose depth first last (e :: es) ++ rest =
      first :: (style.newLine (depth + 1) ++
        (e ++ (style.moreEntries depth es ++ (style.newLine depth ++ last :: rest)))) := by
  rw [enclose, if_neg (by simp), entries_cons]
  simp only [List.cons_append, List.append_assoc, List.nil_append]

theorem member_append (name : String) (v rest : List Char) :
    style.member name v ++ rest =
      '"' :: (name.toList.flatMap escape ++ '"' :: ':' :: (style.gap ++ (v ++ rest))) := by
  cases style with
  | compact => simp [member, writeString, gap]
  | pretty => simp [member, writeString, gap]

theorem length_le_moreEntries (depth : Nat) (es : List (List Char)) :
    es.length ≤ (style.moreEntries depth es).length := by
  induction es with
  | nil => exact Nat.le_refl _
  | cons e es ih =>
    rw [moreEntries] at ih
    rw [moreEntries, List.flatMap_cons]
    simp only [List.cons_append, List.length_cons, List.length_append]
    omega

end Style

theorem writeItems_eq_map (style : Style) (depth : Nat) (xs : List Json) :
    writeItems style depth xs = xs.map (write style depth) := by
  induction xs with
  | nil => rfl
  | cons x xs ih => rw [writeItems, ih, List.map_cons]

theorem writeMembers_eq_map (style : Style) (depth : Nat) (ms : Members) :
    writeMembers style depth ms = ms.map fun m => style.member m.1 (write style depth m.2) := by
  induction ms with
  | nil => rfl
  | cons m ms ih => rw [writeMembers, ih, List.map_cons]

/-! ### What follows a value -/

theorem endsNumber_cons {c : Char} (hc : c.isDigit = false ∧ c ≠ '.' ∧ c ≠ 'e' ∧ c ≠ 'E')
    (s : List Char) : EndsNumber (c :: s) := by
  intro d hd
  rw [List.head?_cons, Option.mem_some_iff] at hd
  rwa [← hd]

/-- An entry of a container is followed by a comma, a new line, or a closing bracket. -/
theorem endsNumber_moreEntries (style : Style) (depth : Nat) (es : List (List Char))
    {bracket : Char} (hb : bracket.isDigit = false ∧ bracket ≠ '.' ∧ bracket ≠ 'e' ∧ bracket ≠ 'E')
    (rest : List Char) :
    EndsNumber (style.moreEntries depth es ++ (style.newLine depth ++ bracket :: rest)) := by
  cases es with
  | nil =>
    cases style with
    | compact => exact endsNumber_cons hb rest
    | pretty => exact endsNumber_cons (by decide) _
  | cons e es => exact endsNumber_cons (by decide) _

/-! ### One entry at a time -/

variable {item : Reader Json}

/-- `s` can be the front of an item: it does not start with a space, nor does it close a list. -/
def StartsItem (s : List Char) : Prop := ∃ c r, s = c :: r ∧ isSpace c = false ∧ c ≠ ']'

theorem StartsItem.append {s : List Char} (h : StartsItem s) (t : List Char) :
    StartsItem (s ++ t) := by
  obtain ⟨c, r, rfl, hc⟩ := h
  exact ⟨c, r ++ t, rfl, hc⟩

theorem readItems_append {b s r r' : List Char} {x : Json} {xs : List Json} (hb : IsSpaces b)
    (hs : StartsItem s) (hitem : item s = .ok (x, r))
    (hmore : readMoreItems item r r = .ok (xs, r')) :
    readItems item (b ++ s) = .ok (x :: xs, r') := by
  obtain ⟨c, t, rfl, hc, hclose⟩ := hs
  have hskip : skipSpaces (b ++ c :: t) = c :: t :=
    Text.skipSpaces_append_of_startsFull hb (Text.startsFull_cons.mpr hc)
  simp only [readItems, hskip]
  split
  · next h => cases h
  · next h => exact absurd (List.cons.inj h).1 hclose
  · simp only [hitem, ok_bind, hmore]

theorem readMoreItems_cons {b s r r' : List Char} {x : Json} {xs : List Json} {step : Char}
    {steps : List Char} (hb : IsSpaces b) (hs : StartsItem s) (hitem : item s = .ok (x, r))
    (hmore : readMoreItems item steps r = .ok (xs, r')) :
    readMoreItems item (step :: steps) (',' :: (b ++ s)) = .ok (x :: xs, r') := by
  obtain ⟨c, t, rfl, hc, hclose⟩ := hs
  have hskip : skipSpaces (b ++ c :: t) = c :: t :=
    Text.skipSpaces_append_of_startsFull hb (Text.startsFull_cons.mpr hc)
  have hcomma : skipSpaces (',' :: (b ++ c :: t)) = ',' :: (b ++ c :: t) := rfl
  simp only [readMoreItems, hcomma, hskip]
  split
  · next h => cases h
  · next h => exact absurd (List.cons.inj h).1 hclose
  · simp only [hitem, ok_bind, hmore]

theorem readMoreItems_close {b : List Char} (hb : IsSpaces b) (step : Char)
    (steps rest : List Char) :
    readMoreItems item (step :: steps) (b ++ ']' :: rest) = .ok ([], rest) := by
  have hskip : skipSpaces (b ++ ']' :: rest) = ']' :: rest :=
    Text.skipSpaces_append_of_startsFull hb (Text.startsFull_cons.mpr rfl)
  simp only [readMoreItems, hskip]

theorem readMember_append {style : Style} {name : String} {v rest r r' : List Char} {x : Json}
    {ms : Members} {more : Reader (List (String × Json))}
    (hitem : item (style.gap ++ (v ++ rest)) = .ok (x, r)) (hmore : more r = .ok (ms, r')) :
    readMember item more (style.member name v ++ rest) = .ok ((name, x) :: ms, r') := by
  have hcolon : ∀ u, readColon (':' :: u) = .ok u := fun _ => rfl
  rw [Style.member_append]
  simp only [readMember, readString_writeString, ok_bind, hcolon, hitem, hmore]

theorem readMoreMembers_cons {style : Style} {name : String} {b v rest r r' : List Char}
    {x : Json} {ms : Members} {step : Char} {steps : List Char} (hb : IsSpaces b)
    (hitem : item (style.gap ++ (v ++ rest)) = .ok (x, r))
    (hmore : readMoreMembers item steps r = .ok (ms, r')) :
    readMoreMembers item (step :: steps) (',' :: (b ++ (style.member name v ++ rest))) =
      .ok ((name, x) :: ms, r') := by
  have hmember : readMember item (readMoreMembers item steps) (style.member name v ++ rest) =
      .ok ((name, x) :: ms, r') := readMember_append hitem hmore
  obtain ⟨u, hu⟩ : ∃ u, style.member name v ++ rest = '"' :: u := ⟨_, style.member_append ..⟩
  rw [hu] at hmember ⊢
  have hskip : skipSpaces (b ++ '"' :: u) = '"' :: u :=
    Text.skipSpaces_append_of_startsFull hb (Text.startsFull_cons.mpr rfl)
  have hcomma : skipSpaces (',' :: (b ++ '"' :: u)) = ',' :: (b ++ '"' :: u) := rfl
  simp only [readMoreMembers, hcomma, hskip]
  exact hmember

theorem readMoreMembers_close {b : List Char} (hb : IsSpaces b) (step : Char)
    (steps rest : List Char) :
    readMoreMembers item (step :: steps) (b ++ '\x7d' :: rest) = .ok ([], rest) := by
  have hskip : skipSpaces (b ++ '\x7d' :: rest) = '\x7d' :: rest :=
    Text.skipSpaces_append_of_startsFull hb (Text.startsFull_cons.mpr rfl)
  simp only [readMoreMembers, hskip]

theorem readObject_append {embedded : List Char → Except Error Json} {style : Style}
    {name : String} {b v rest r r' : List Char} {x : Json} {ms : Members} (hb : IsSpaces b)
    (hname : name ≠ embeddedName) (hitem : item (style.gap ++ (v ++ rest)) = .ok (x, r))
    (hmore : readMoreMembers item r r = .ok (ms, r')) :
    readObject embedded item (b ++ (style.member name v ++ rest)) =
      .ok (.object (Members.ofList ((name, x) :: ms)), r') := by
  rw [Style.member_append]
  have hskip : ∀ u, skipSpaces (b ++ '"' :: u) = '"' :: u := fun u =>
    Text.skipSpaces_append_of_startsFull hb (Text.startsFull_cons.mpr rfl)
  have hcolon : ∀ u, readColon (':' :: u) = .ok u := fun _ => rfl
  simp only [readObject, hskip, readString_writeString, ok_bind, if_neg hname, hcolon, hitem, hmore]

/-! ### Values -/

variable {embedded : List Char → Except Error Json}

/-- What is left to the readers for lists and objects does not matter for other values. -/
theorem readValue_eq_readWith (embedded : List Char → Except Error Json) (n : Nat) :
    ∃ list object, readValue embedded n = readWith list object := by
  cases n with
  | zero => exact ⟨_, _, rfl⟩
  | succ n => exact ⟨_, _, rfl⟩

theorem readValue_spaces {b : List Char} (hb : IsSpaces b) (n : Nat) (s : List Char) :
    readValue embedded n (b ++ s) = readValue embedded n s := by
  obtain ⟨list, object, hread⟩ := readValue_eq_readWith embedded n
  rw [hread, readWith, readWith, Text.skipSpaces_append hb]

theorem startsItem_write {n : Nat} {x : Json} (h : Fits n x) (style : Style) (depth : Nat) :
    StartsItem (write style depth x) := by
  cases h with
  | null => exact ⟨'n', _, rfl, by decide⟩
  | bool b =>
    cases b with
    | false => exact ⟨'f', _, rfl, by decide⟩
    | true => exact ⟨'t', _, rfl, by decide⟩
  | @whole _ k _ =>
    rw [write, Number.write, writeWhole]
    split
    · exact ⟨'-', _, rfl, by decide⟩
    · obtain ⟨c, s, hd, hc⟩ := exists_digits k.natAbs
      refine ⟨c, s, hd, isSpace_of_isDigit hc, ?_⟩
      rintro rfl
      cases hc
  | string s => exact ⟨'"', _, rfl, by decide⟩
  | @array _ items _ =>
    rw [write, Style.list, Style.enclose]
    split
    · exact ⟨'[', _, rfl, by decide⟩
    · exact ⟨'[', _, rfl, by decide⟩
  | @object _ ms _ =>
    rw [write, Style.object, Style.enclose]
    split
    · exact ⟨'\x7b', _, rfl, by decide⟩
    · exact ⟨'\x7b', _, rfl, by decide⟩

/-- At `depth`, the value `x` is read back, whatever follows it. -/
def ReadsBack (read : Reader Json) (style : Style) (depth : Nat) (x : Json) : Prop :=
  ∀ rest, EndsNumber rest → read (write style depth x ++ rest) = .ok (x.merged, rest)

variable {n depth : Nat} {style : Style}

theorem readMoreItems_moreEntries {xs : List Json} (hfits : ∀ x ∈ xs, Fits n x)
    (hback : ∀ x ∈ xs, ReadsBack item style (depth + 1) x) (rest : List Char) :
    ∀ steps : List Char, xs.length < steps.length →
      readMoreItems item steps (style.moreEntries depth (xs.map (write style (depth + 1))) ++
        (style.newLine depth ++ ']' :: rest)) = .ok (xs.map merged, rest) := by
  induction xs with
  | nil =>
    intro steps hsteps
    obtain ⟨step, steps, rfl⟩ := List.exists_cons_of_length_pos hsteps
    exact readMoreItems_close (style.isSpaces_newLine depth) step steps rest
  | cons x xs ih =>
    intro steps hsteps
    obtain ⟨step, steps, rfl⟩ := List.exists_cons_of_length_pos (Nat.zero_lt_of_lt hsteps)
    rw [List.forall_mem_cons] at hfits hback
    have hmore := ih hfits.2 hback.2 steps (Nat.lt_of_succ_lt_succ hsteps)
    have hitem := hback.1 _ (endsNumber_moreEntries style depth
      (xs.map (write style (depth + 1))) (by decide : ']'.isDigit = false ∧ _) rest)
    rw [List.map_cons, Style.moreEntries, List.flatMap_cons, List.cons_append, List.cons_append,
      List.append_assoc, List.append_assoc, List.map_cons]
    exact readMoreItems_cons (style.isSpaces_newLine _) ((startsItem_write hfits.1 _ _).append _)
      hitem hmore

theorem readList_write {xs : List Json} (hfits : ∀ x ∈ xs, Fits n x)
    (hback : ∀ x ∈ xs, ReadsBack item style (depth + 1) x) (rest : List Char) :
    ∃ s, style.list depth (writeItems style (depth + 1) xs) ++ rest = '[' :: s ∧
      readList item s = .ok (.array (mergedItems xs), rest) := by
  rw [writeItems_eq_map, mergedItems_eq_map]
  cases xs with
  | nil => exact ⟨_, rfl, rfl⟩
  | cons x xs =>
    rw [List.map_cons, Style.list, Style.enclose_cons_append]
    refine ⟨_, rfl, ?_⟩
    rw [List.forall_mem_cons] at hfits hback
    have hitem := hback.1 _ (endsNumber_moreEntries style depth
      (xs.map (write style (depth + 1))) (by decide : ']'.isDigit = false ∧ _) rest)
    have hlength := style.length_le_moreEntries depth (xs.map (write style (depth + 1)))
    rw [List.length_map] at hlength
    have hmore := readMoreItems_moreEntries hfits.2 hback.2 rest
      (style.moreEntries depth (xs.map (write style (depth + 1))) ++
        (style.newLine depth ++ ']' :: rest)) (by
        simp only [List.length_append, List.length_cons]
        omega)
    have hitems := readItems_append (style.isSpaces_newLine (depth + 1))
      ((startsItem_write hfits.1 style (depth + 1)).append _) hitem hmore
    rw [readList, hitems]
    rfl

theorem readMoreMembers_moreEntries {ms : Members}
    (hskip : ∀ s, item (style.gap ++ s) = item s)
    (hback : ∀ m ∈ ms, ReadsBack item style (depth + 1) m.2) (rest : List Char) :
    ∀ steps : List Char, ms.length < steps.length →
      readMoreMembers item steps (style.moreEntries depth
        (ms.map fun m => style.member m.1 (write style (depth + 1) m.2)) ++
        (style.newLine depth ++ '\x7d' :: rest)) =
          .ok (ms.map fun m => (m.1, m.2.merged), rest) := by
  induction ms with
  | nil =>
    intro steps hsteps
    obtain ⟨step, steps, rfl⟩ := List.exists_cons_of_length_pos hsteps
    exact readMoreMembers_close (style.isSpaces_newLine depth) step steps rest
  | cons m ms ih =>
    intro steps hsteps
    obtain ⟨step, steps, rfl⟩ := List.exists_cons_of_length_pos (Nat.zero_lt_of_lt hsteps)
    rw [List.forall_mem_cons] at hback
    have hmore := ih hback.2 steps (Nat.lt_of_succ_lt_succ hsteps)
    have hitem := hback.1 _ (endsNumber_moreEntries style depth
      (ms.map fun m => style.member m.1 (write style (depth + 1) m.2))
      (by decide : '\x7d'.isDigit = false ∧ _) rest)
    rw [← hskip] at hitem
    rw [List.map_cons, Style.moreEntries, List.flatMap_cons, List.cons_append, List.cons_append,
      List.append_assoc, List.append_assoc, List.map_cons]
    exact readMoreMembers_cons (style.isSpaces_newLine _) hitem hmore

theorem readObject_write {ms : Members} (hname : embeddedName ∉ ms.head?.map Prod.fst)
    (hskip : ∀ s, item (style.gap ++ s) = item s)
    (hback : ∀ m ∈ ms, ReadsBack item style (depth + 1) m.2) (rest : List Char) :
    ∃ s, style.object depth (writeMembers style (depth + 1) ms) ++ rest = '\x7b' :: s ∧
      readObject embedded item s = .ok (.object (lastValues (mergedMembers ms)), rest) := by
  rw [writeMembers_eq_map, mergedMembers_eq_map, ← ofList_eq_lastValues]
  cases ms with
  | nil => exact ⟨_, rfl, rfl⟩
  | cons m ms =>
    rw [List.map_cons, Style.object, Style.enclose_cons_append]
    refine ⟨_, rfl, ?_⟩
    have hne : m.1 ≠ embeddedName := fun h => hname (by simp [h])
    rw [List.forall_mem_cons] at hback
    have hitem := hback.1 _ (endsNumber_moreEntries style depth
      (ms.map fun m => style.member m.1 (write style (depth + 1) m.2))
      (by decide : '\x7d'.isDigit = false ∧ _) rest)
    rw [← hskip] at hitem
    have hlength := style.length_le_moreEntries depth
      (ms.map fun m => style.member m.1 (write style (depth + 1) m.2))
    rw [List.length_map] at hlength
    have hmore := readMoreMembers_moreEntries hskip hback.2 rest
      (style.moreEntries depth (ms.map fun m => style.member m.1 (write style (depth + 1) m.2)) ++
        (style.newLine depth ++ '\x7d' :: rest)) (by
        simp only [List.length_append, List.length_cons]
        omega)
    exact readObject_append (style.isSpaces_newLine (depth + 1)) hne hitem hmore

/-- Whatever follows, a written tree is read back as the value that it stands for. -/
theorem readValue_write {x : Json} (hfits : Fits n x) (hx : Unreserved x) (depth : Nat) :
    ReadsBack (readValue embedded n) style depth x := by
  induction hfits generalizing depth with
  | null =>
    intro rest _
    obtain ⟨list, object, hread⟩ := readValue_eq_readWith embedded _
    rw [hread]
    rfl
  | bool b =>
    intro rest _
    obtain ⟨list, object, hread⟩ := readValue_eq_readWith embedded _
    rw [hread]
    cases b with
    | false => rfl
    | true => rfl
  | whole hk =>
    intro rest hrest
    obtain ⟨list, object, hread⟩ := readValue_eq_readWith embedded _
    rw [hread]
    exact readWith_writeWhole list object hk hrest
  | string s =>
    intro rest _
    obtain ⟨list, object, hread⟩ := readValue_eq_readWith embedded _
    have hstring := readString_writeString s rest
    rw [hread, write, writeString, List.cons_append, List.cons_append, List.append_assoc]
    show (readString (s.toList.flatMap escape ++ '"' :: rest) >>= _) = _
    rw [hstring]
    rfl
  | array hitems ih =>
    intro rest _
    cases hx with
    | array hxs =>
      obtain ⟨s, hs, hread⟩ := readList_write hitems
        (fun x hx => ih x hx (hxs x hx) (depth + 1)) rest
      rw [write, hs]
      exact hread
  | object hms ih =>
    intro rest _
    cases hx with
    | object hname hxs =>
      obtain ⟨s, hs, hread⟩ := readObject_write hname
        (fun s => readValue_spaces style.isSpaces_gap _ s)
        (fun m hm => ih m hm (hxs m hm) (depth + 1)) rest
      rw [write, hs]
      exact hread

/-- A written document is read back, up to the limit on nesting, whether it stands by itself or is
embedded in others. -/
theorem ofChars_write {x : Json} (hfits : Fits depthLimit x) (hx : Unreserved x) (style : Style)
    (layers : Nat) : ofChars (layers + 1) (write style 0 x) = .ok x.merged := by
  have hback : ReadsBack (readValue (ofChars layers) depthLimit) style 0 x :=
    readValue_write hfits hx 0
  have hread := hback [] (by simp [EndsNumber])
  rw [List.append_nil] at hread
  rw [ofChars, readDocument, hread]
  rfl

theorem ofText_text {x : Json} (hfits : Fits depthLimit x) (hx : Unreserved x) (style : Style) :
    ofText (x.text style) = .ok x.merged := by
  rw [ofText, text, String.toList_ofList]
  exact ofChars_write hfits hx style _

end PgJson.Json
