import PgJson.Payload.Value
import PgJson.Payload.Writer
import PgJson.Proofs.Except
import PgJson.Proofs.Text.Quotation

/-!
# Control characters in what is written

A string may hold any characters, a name of a member as well, but every control character below
U+0020 in it is written as an escape. Numbers and words have none. So the only control characters
that are ever written are the line feeds of the pretty style, and they stand outside of quotes:
what is laid out by them can still be told from what is quoted.

That holds for values and for payloads written directly, since both are made of the same parts.
A part is tidy if it is laid out so from outside of quotes and leaves the scanner outside again;
tidy parts can be put in a row.

## Main definitions

* `PgJson.Json.ControlsFit` — where control characters may stand
* `PgJson.Json.Tidy` — a part that may be written outside of quotes

## Main results

* `PgJson.Json.tidy_write` — values
* `PgJson.Payload.tidy_of_write` — payloads
-/

namespace PgJson

namespace Json

open Text (Mode)

variable {style : Style}

/-! ### Where control characters may stand -/

/-- The control characters of a text are line feeds of the pretty style, outside of quotes, when a
scanner comes to the text in the given mode. -/
def ControlsFit (style : Style) : Mode → List Char → Prop
  | _, [] => True
  | m, c :: s =>
    (c.toNat < 0x20 → style = .pretty ∧ c = '\n' ∧ m = .outside) ∧ ControlsFit style (m.next c) s

theorem controlsFit_append {m : Mode} {s t : List Char} :
    ControlsFit style m (s ++ t) ↔ ControlsFit style m s ∧ ControlsFit style (m.after s) t := by
  induction s generalizing m with
  | nil => simp [ControlsFit]
  | cons c s ih => simp only [List.cons_append, ControlsFit, ih, Mode.after_cons, and_assoc]

theorem controlsFit_of_forall {s : List Char} (h : ∀ c ∈ s, 0x20 ≤ c.toNat) (m : Mode) :
    ControlsFit style m s := by
  induction s generalizing m with
  | nil => trivial
  | cons c s ih =>
    rw [List.forall_mem_cons] at h
    exact ⟨fun hc => absurd hc (Nat.not_lt.mpr h.1), ih h.2 _⟩

/-- A part of a text that may be written outside of quotes. -/
structure Tidy (style : Style) (s : List Char) : Prop where
  fits : ControlsFit style .outside s
  closed : Mode.outside.after s = .outside

namespace Tidy

variable {s t : List Char}

theorem nil : Tidy style [] := ⟨trivial, rfl⟩

theorem append (hs : Tidy style s) (ht : Tidy style t) : Tidy style (s ++ t) where
  fits := controlsFit_append.mpr ⟨hs.fits, by rw [hs.closed]; exact ht.fits⟩
  closed := by rw [Mode.after_append, hs.closed, ht.closed]

theorem cons {c : Char} (hc : 0x20 ≤ c.toNat) (hq : c ≠ '"') (ht : Tidy style t) :
    Tidy style (c :: t) where
  fits := ⟨fun h => absurd h (Nat.not_lt.mpr hc), (Mode.outside_next hq).symm ▸ ht.fits⟩
  closed := by rw [Mode.after_cons, Mode.outside_next hq, ht.closed]

end Tidy

/-! ### Words and numbers -/

/-- Neither a control character nor a quote. -/
def IsPlain (c : Char) : Prop := 0x20 ≤ c.toNat ∧ c ≠ '"'

instance (c : Char) : Decidable (IsPlain c) := inferInstanceAs (Decidable (_ ∧ _))

/-- A fixed word is checked character by character. -/
theorem forall_isPlain {s : List Char} (h : s.all (fun c => decide (IsPlain c)) = true) :
    ∀ c ∈ s, IsPlain c := fun c hc => of_decide_eq_true (List.all_eq_true.mp h c hc)

theorem tidy_of_isPlain {s : List Char} (h : ∀ c ∈ s, IsPlain c) : Tidy style s where
  fits := controlsFit_of_forall (fun c hc => (h c hc).1) _
  closed := Mode.outside_after fun c hc => (h c hc).2

theorem isPlain_of_isDigit {c : Char} (hc : c.isDigit = true) : IsPlain c := by
  refine ⟨?_, ?_⟩
  · simp only [Char.isDigit, Bool.and_eq_true, decide_eq_true_eq] at hc
    exact Nat.le_trans (by decide) hc.1
  · rintro rfl
    cases hc

theorem isPlain_of_mem_toDigits {n : Nat} {c : Char} (hc : c ∈ Nat.toDigits 10 n) : IsPlain c :=
  isPlain_of_isDigit (Nat.isDigit_of_mem_toDigits (by decide) (by decide) hc)

theorem isPlain_of_mem_writeWhole {n : Int} : ∀ c ∈ writeWhole n, IsPlain c := by
  intro c hc
  rw [writeWhole] at hc
  split at hc
  · rcases List.mem_cons.mp hc with rfl | hc
    · decide
    · exact isPlain_of_mem_toDigits hc
  · exact isPlain_of_mem_toDigits hc

theorem isPlain_of_mem_plain {ds : List Char} (hds : ∀ c ∈ ds, IsPlain c) (x : Int) :
    ∀ c ∈ Decimal.plain ds x, IsPlain c := by
  have hzeros : ∀ n, ∀ c ∈ List.replicate n '0', IsPlain c := fun n c hc => by
    rw [List.eq_of_mem_replicate hc]
    decide
  rw [Decimal.plain]
  split
  · simp only [List.cons_append, List.forall_mem_cons, List.forall_mem_append]
    exact ⟨by decide, by decide, hzeros _, hds⟩
  · simp only [List.forall_mem_cons, List.forall_mem_append]
    refine ⟨⟨fun c hc => hds c (List.mem_of_mem_take hc), hzeros _⟩, by decide, ?_⟩
    split
    · exact forall_isPlain rfl
    · exact fun c hc => hds c (List.mem_of_mem_drop hc)

theorem isPlain_of_mem_scientific {ds : List Char} (hds : ∀ c ∈ ds, IsPlain c) (x : Int) :
    ∀ c ∈ Decimal.scientific ds x, IsPlain c := by
  have hsign : IsPlain (if x < 0 then '-' else '+') := by split <;> decide
  unfold Decimal.scientific
  simp only [List.forall_mem_cons, List.forall_mem_append]
  refine ⟨?_, by decide, hsign, fun c => isPlain_of_mem_toDigits⟩
  split
  · simp only [List.forall_mem_cons] at hds ⊢
    exact ⟨hds.1, by decide, hds.2.1, hds.2.2⟩
  · exact hds

theorem isPlain_of_mem_writeBits (l : Decimal.Layout) (f : Decimal.Format) (bits : Nat) :
    ∀ c ∈ l.writeBits f bits, IsPlain c := by
  have hnumber : ∀ n : Decimal.Number, ∀ c ∈ l.write n, IsPlain c := fun n => by
    rw [Decimal.Layout.write]
    split
    · exact isPlain_of_mem_plain (fun c => isPlain_of_mem_toDigits) _
    · exact isPlain_of_mem_scientific (fun c => isPlain_of_mem_toDigits) _
  have hmagnitude : ∀ c ∈ (if (f.decode bits).significand == 0 then "0.0".toList
      else l.write (f.decode bits).shortest), IsPlain c := by
    split
    · exact forall_isPlain rfl
    · exact hnumber _
  rw [Decimal.Layout.writeBits]
  split
  · exact List.forall_mem_cons.mpr ⟨by decide, hmagnitude⟩
  · exact hmagnitude

theorem tidy_number (n : Number) : Tidy style n.write := by
  cases n with
  | whole n => exact tidy_of_isPlain isPlain_of_mem_writeWhole
  | float x => exact tidy_of_isPlain (isPlain_of_mem_writeBits _ _ _)

theorem tidy_writeNull : Tidy style writeNull := tidy_of_isPlain (forall_isPlain rfl)

theorem tidy_writeBool (b : Bool) : Tidy style (writeBool b) := by
  cases b <;> exact tidy_of_isPlain (forall_isPlain rfl)

/-! ### Strings -/

theorem digitChar_isPlain : ∀ n < 16, IsPlain (Nat.digitChar n) ∧ Nat.digitChar n ≠ '\\' := by
  decide

/-- What is written for a character of a string has no control character, and the string goes on
behind it. -/
theorem controlsFit_escape (style : Style) (c : Char) :
    ControlsFit style .inside (escape c) ∧ Mode.inside.after (escape c) = .inside := by
  have hletter : ∀ d : Char, 0x20 ≤ d.toNat → ControlsFit style .inside ['\\', d] ∧
      Mode.inside.after ['\\', d] = .inside := fun d hd =>
    ⟨controlsFit_of_forall (List.forall_mem_cons.mpr
      ⟨by decide, List.forall_mem_singleton.mpr hd⟩) _, rfl⟩
  rw [escape.eq_def]
  split
  · exact hletter '"' (by decide)
  · exact hletter '\\' (by decide)
  · exact hletter 'b' (by decide)
  · exact hletter 'f' (by decide)
  · exact hletter 'n' (by decide)
  · exact hletter 'r' (by decide)
  · exact hletter 't' (by decide)
  · next hquote hbackslash _ _ _ _ _ =>
    split
    · next hcontrol =>
      obtain ⟨hhigh, hhigh'⟩ := digitChar_isPlain (c.toNat / 16) (by omega)
      obtain ⟨hlow, hlow'⟩ := digitChar_isPlain (c.toNat % 16) (by omega)
      refine ⟨controlsFit_of_forall ?_ _, ?_⟩
      · simp only [List.forall_mem_cons]
        exact ⟨by decide, by decide, by decide, by decide, hhigh.1, hlow.1, by simp⟩
      · show ((Mode.inside.next _).next _) = _
        rw [Mode.inside_next hhigh.2 hhigh', Mode.inside_next hlow.2 hlow']
    · next hplain =>
      refine ⟨controlsFit_of_forall (List.forall_mem_singleton.mpr (Nat.le_of_not_lt hplain)) _, ?_⟩
      rw [Mode.after_cons, Mode.inside_next hquote hbackslash, Mode.after_nil]

theorem controlsFit_flatMap_escape (style : Style) (cs : List Char) :
    ControlsFit style .inside (cs.flatMap escape) ∧
      Mode.inside.after (cs.flatMap escape) = .inside := by
  induction cs with
  | nil => exact ⟨trivial, rfl⟩
  | cons c cs ih =>
    obtain ⟨hfits, hafter⟩ := controlsFit_escape style c
    rw [List.flatMap_cons, controlsFit_append, Mode.after_append, hafter]
    exact ⟨⟨hfits, ih.1⟩, ih.2⟩

theorem tidy_writeString (s : String) : Tidy style (writeString s) := by
  obtain ⟨hfits, hafter⟩ := controlsFit_flatMap_escape style s.toList
  refine ⟨?_, ?_⟩
  · rw [writeString, List.cons_append]
    refine ⟨fun h => absurd h (by decide), controlsFit_append.mpr ⟨hfits, ?_⟩⟩
    exact controlsFit_of_forall (List.forall_mem_singleton.mpr (by decide)) _
  · rw [writeString, List.cons_append, Mode.after_cons, Mode.outside_next_quote,
      Mode.after_append, hafter]
    rfl

/-! ### Layout -/

theorem tidy_newLine (depth : Nat) : Tidy style (style.newLine depth) := by
  cases style with
  | compact => exact .nil
  | pretty =>
    have hblanks : Tidy .pretty (List.replicate (2 * depth) ' ') := tidy_of_isPlain fun c hc => by
      rw [List.eq_of_mem_replicate hc]
      decide
    exact ⟨⟨fun _ => ⟨rfl, rfl, rfl⟩, hblanks.fits⟩, hblanks.closed⟩

theorem tidy_entries {depth : Nat} {es : List (List Char)} (h : ∀ e ∈ es, Tidy style e) :
    Tidy style (style.entries depth es) := by
  fun_induction Style.entries style depth es with
  | case1 => exact .nil
  | case2 e => exact (tidy_newLine _).append (h e (List.mem_singleton_self e))
  | case3 e es _ ih =>
    rw [List.forall_mem_cons] at h
    exact ((tidy_newLine _).append h.1).append (.cons (by decide) (by decide) (ih h.2))

theorem tidy_enclose {depth : Nat} {first last : Char} (hfirst : IsPlain first)
    (hlast : IsPlain last) {es : List (List Char)} (h : ∀ e ∈ es, Tidy style e) :
    Tidy style (style.enclose depth first last es) := by
  have hend : Tidy style [last] := tidy_of_isPlain (List.forall_mem_singleton.mpr hlast)
  rw [Style.enclose]
  split
  · exact .cons hfirst.1 hfirst.2 hend
  · exact ((Tidy.cons hfirst.1 hfirst.2 (tidy_entries h)).append (tidy_newLine _)).append hend

theorem tidy_list {depth : Nat} {items : List (List Char)} (h : ∀ e ∈ items, Tidy style e) :
    Tidy style (style.list depth items) :=
  tidy_enclose (by decide) (by decide) h

theorem tidy_object {depth : Nat} {members : List (List Char)} (h : ∀ e ∈ members, Tidy style e) :
    Tidy style (style.object depth members) :=
  tidy_enclose (by decide) (by decide) h

theorem tidy_member {name : String} {value : List Char} (h : Tidy style value) :
    Tidy style (style.member name value) := by
  refine (tidy_writeString name).append (.cons (by decide) (by decide) ?_)
  cases style with
  | compact => exact h
  | pretty => exact .cons (by decide) (by decide) h

/-! ### Values -/

mutual

/-- **A value is written tidily.** -/
theorem tidy_write (depth : Nat) : ∀ x : Json, Tidy style (write style depth x)
  | .null => tidy_writeNull
  | .bool b => tidy_writeBool b
  | .number n => tidy_number n
  | .string s => tidy_writeString s
  | .array items => tidy_list (tidy_writeItems (depth + 1) items)
  | .object members => tidy_object (tidy_writeMembers (depth + 1) members)

theorem tidy_writeItems (depth : Nat) : ∀ items : List Json,
    ∀ e ∈ writeItems style depth items, Tidy style e
  | [] => by simp [writeItems]
  | x :: xs => by
    rw [writeItems, List.forall_mem_cons]
    exact ⟨tidy_write depth x, tidy_writeItems depth xs⟩

theorem tidy_writeMembers (depth : Nat) : ∀ members : List (String × Json),
    ∀ e ∈ writeMembers style depth members, Tidy style e
  | [] => by simp [writeMembers]
  | (name, x) :: ms => by
    rw [writeMembers, List.forall_mem_cons]
    exact ⟨tidy_member (tidy_write depth x), tidy_writeMembers depth ms⟩

end

end Json

namespace Payload

open Json (Style Tidy)

variable {style : Style}

theorem tidy_writeFinite {isFinite : Bool} {digits : List Char} (h : Tidy style digits) :
    Tidy style (writeFinite isFinite digits) := by
  cases isFinite with
  | true => exact h
  | false => exact Json.tidy_writeNull

mutual

/-- **A payload that can be written is written tidily.** -/
theorem tidy_of_write {depth : Nat} : ∀ (p : Payload) {t : List Char},
    write style depth p = .ok t → Tidy style t
  | .unit, _, h => Except.ok.inj h ▸ Json.tidy_writeNull
  | .bool b, _, h => Except.ok.inj h ▸ Json.tidy_writeBool b
  | .int n, _, h => Except.ok.inj h ▸ Json.tidy_number (.whole n)
  | .float64 x, _, h => Except.ok.inj h ▸ tidy_writeFinite (Json.tidy_number (.float x))
  | .float32 x, _, h => Except.ok.inj h ▸
    tidy_writeFinite (Json.tidy_of_isPlain (Json.isPlain_of_mem_writeBits _ _ _))
  | .char c, _, h => Except.ok.inj h ▸ Json.tidy_writeString _
  | .string s, _, h => Except.ok.inj h ▸ Json.tidy_writeString s
  | .bytes bs, _, h => Except.ok.inj h ▸ Json.tidy_list (List.forall_mem_map.mpr fun _ _ =>
    Json.tidy_number (.whole _))
  | .none, _, h => Except.ok.inj h ▸ Json.tidy_writeNull
  | .some p, _, h => tidy_of_write p h
  | .newtype p, _, h => tidy_of_write p h
  | .unitVariant name, _, h => Except.ok.inj h ▸ Json.tidy_writeString name
  | .newtypeVariant name p, _, h => by
    obtain ⟨t, ht, h⟩ := bind_eq_ok.mp h
    exact Except.ok.inj h ▸ Json.tidy_object
      (List.forall_mem_singleton.mpr (Json.tidy_member (tidy_of_write p ht)))
  | .seq items, _, h => by
    obtain ⟨ts, hts, h⟩ := bind_eq_ok.mp h
    exact Except.ok.inj h ▸ Json.tidy_list (tidy_of_writeItems items hts)
  | .map entries, _, h => by
    obtain ⟨ts, hts, h⟩ := bind_eq_ok.mp h
    exact Except.ok.inj h ▸ Json.tidy_object (tidy_of_writeEntries entries hts)
  | .refusal message, _, h => by cases h

theorem tidy_of_writeItems {depth : Nat} : ∀ (items : List Payload) {ts : List (List Char)},
    writeItems style depth items = .ok ts → ∀ t ∈ ts, Tidy style t
  | [], _, h => by
    cases h
    simp
  | p :: ps, _, h => by
    obtain ⟨t, ht, h⟩ := bind_eq_ok.mp h
    obtain ⟨ts, hts, h⟩ := bind_eq_ok.mp h
    rw [← Except.ok.inj h, List.forall_mem_cons]
    exact ⟨tidy_of_write p ht, tidy_of_writeItems ps hts⟩

theorem tidy_of_writeEntries {depth : Nat} : ∀ (entries : List (Payload × Payload))
    {ts : List (List Char)}, writeEntries style depth entries = .ok ts → ∀ t ∈ ts, Tidy style t
  | [], _, h => by
    cases h
    simp
  | (k, p) :: es, _, h => by
    obtain ⟨name, -, h⟩ := bind_eq_ok.mp h
    obtain ⟨t, ht, h⟩ := bind_eq_ok.mp h
    obtain ⟨ts, hts, h⟩ := bind_eq_ok.mp h
    rw [← Except.ok.inj h, List.forall_mem_cons]
    exact ⟨Json.tidy_member (tidy_of_write p ht), tidy_of_writeEntries es hts⟩

end

end Payload

end PgJson
