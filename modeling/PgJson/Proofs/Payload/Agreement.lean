import PgJson.Payload.Value
import PgJson.Payload.Writer
import PgJson.Proofs.Json.RoundTrip

/-!
# Writing a payload, and writing its value

A payload can be written directly, or be converted to a value which is then written. Both ways go
through the payload in the same order, a key before its value and an entry before the next, so they
meet the same failures first. What they do with a part of the payload is the same, too, except for
three things that a uniform payload does not have: floats of 32 bits, whole numbers beyond 64 bits,
and keys that repeat.

A fourth difference decides only about success. A present optional value can be the key of a member
that is written directly, but not of a member of a value. So when a payload has such a key, its
value may fail there and then, while the text goes on.

## Main definitions

* `PgJson.Payload.Uniform` — nothing in the payload is encoded in two ways
* `PgJson.Payload.isPresent`, `HasOptionalKey` — optional values that are present, and such keys
* `PgJson.Payload.Matches` — a text comes of the same steps as a value

## Main results

* `PgJson.Payload.Matches.bind` — steps that match, one after the other
* `PgJson.Payload.Uniform.matches_toJson` — the text of a uniform payload, and that of its value
-/

namespace PgJson.Payload

open Json (Style)

/-! ### Uniform payloads -/

/-- The texts of those keys that have one. -/
def keyTexts (entries : List (Payload × Payload)) : List String :=
  entries.filterMap fun e => (keyText false e.1).toOption

/-- The payload has no floats of 32 bits and no numbers beyond 64 bits but in keys, and no map of it
has two keys with the same text. It may refuse to be encoded, and so may its keys. -/
inductive Uniform : Payload → Prop
  | unit : Uniform .unit
  | bool (b : Bool) : Uniform (.bool b)
  | int {n : Int} (hn : Json.isWhole n = true) : Uniform (.int n)
  | float64 (x : Float) : Uniform (.float64 x)
  | char (c : Char) : Uniform (.char c)
  | string (s : String) : Uniform (.string s)
  | bytes (bs : List UInt8) : Uniform (.bytes bs)
  | none : Uniform .none
  | some {p : Payload} (h : Uniform p) : Uniform (.some p)
  | newtype {p : Payload} (h : Uniform p) : Uniform (.newtype p)
  | unitVariant (name : String) : Uniform (.unitVariant name)
  | newtypeVariant (name : String) {p : Payload} (h : Uniform p) :
    Uniform (.newtypeVariant name p)
  | seq {items : List Payload} (h : ∀ p ∈ items, Uniform p) : Uniform (.seq items)
  | map {entries : List (Payload × Payload)} (hkeys : (keyTexts entries).Nodup)
    (h : ∀ e ∈ entries, Uniform e.2) : Uniform (.map entries)
  | refusal (message : String) : Uniform (.refusal message)

/-- An optional value that is present, or a newtype of one. -/
def isPresent : Payload → Bool
  | .some _ => true
  | .newtype p => isPresent p
  | _ => false

/-- Some map in the payload has a present optional value as a key. -/
inductive HasOptionalKey : Payload → Prop
  | key {entries : List (Payload × Payload)} {e : Payload × Payload} (he : e ∈ entries)
    (hkey : e.1.isPresent = true) : HasOptionalKey (.map entries)
  | entry {entries : List (Payload × Payload)} {e : Payload × Payload} (he : e ∈ entries)
    (h : HasOptionalKey e.2) : HasOptionalKey (.map entries)
  | item {items : List Payload} {p : Payload} (hp : p ∈ items) (h : HasOptionalKey p) :
    HasOptionalKey (.seq items)
  | some {p : Payload} (h : HasOptionalKey p) : HasOptionalKey (.some p)
  | newtype {p : Payload} (h : HasOptionalKey p) : HasOptionalKey (.newtype p)
  | newtypeVariant (name : String) {p : Payload} (h : HasOptionalKey p) :
    HasOptionalKey (.newtypeVariant name p)

/-! ### Steps that match -/

section Matches

variable {α β γ δ : Type}

/-- What is written is the image of the value, and the failures are the same, unless the value fails
for a key that has no text; `may` is why it may do so. -/
def Matches (may : Prop) (image : α → β) (written : Except Json.Error β)
    (value : Except Json.Error α) : Prop :=
  written = value.map image ∨ may ∧ value = .error ⟨.keyNotString, Option.none⟩

variable {may may' : Prop} {image : α → β} {image' : γ → δ} {written : Except Json.Error β}
  {value : Except Json.Error α}

theorem Matches.ok {a : α} {b : β} (h : image a = b) : Matches may image (.ok b) (.ok a) :=
  .inl (congrArg Except.ok h.symm)

theorem Matches.mono (h : Matches may image written value) (hmay : may → may') :
    Matches may' image written value :=
  h.imp_right fun ⟨hm, hvalue⟩ => ⟨hmay hm, hvalue⟩

/-- The next step may depend on what has come of this one. -/
theorem Matches.bind {next : β → Except Json.Error δ} {next' : α → Except Json.Error γ}
    (h : Matches may image written value)
    (hnext : ∀ a, value = .ok a → Matches may image' (next (image a)) (next' a)) :
    Matches may image' (written >>= next) (value >>= next') := by
  rcases h with rfl | ⟨hm, rfl⟩
  · cases value with
    | error e => exact .inl rfl
    | ok a => exact hnext a rfl
  · exact .inr ⟨hm, rfl⟩

end Matches

/-! ### Keys -/

/-- The two ways take the same keys, optional ones apart. -/
theorem matches_keyText : ∀ p : Payload,
    Matches (p.isPresent = true) id (keyText true p) (keyText false p)
  | .some _ => .inr ⟨rfl, rfl⟩
  | .newtype p => matches_keyText p
  | .string _ | .char _ | .int _ | .bool _ | .unitVariant _ => .ok rfl
  | .float64 x => by
    rw [keyText, keyText]
    cases x.isFinite <;> exact .inl rfl
  | .float32 x => by
    rw [keyText, keyText]
    cases x.isFinite <;> exact .inl rfl
  | .unit | .bytes _ | .none | .newtypeVariant _ _ | .seq _ | .map _ | .refusal _ => .inl rfl

theorem keyTexts_cons_of_ok {k : Payload} {name : String} (hk : keyText false k = .ok name)
    (p : Payload) (es : List (Payload × Payload)) :
    keyTexts ((k, p) :: es) = name :: keyTexts es := by
  simp [keyTexts, hk, Except.toOption]

/-- The members of a value are named by the texts of the keys. -/
theorem names_of_memberValues {es : List (Payload × Payload)} {ms : Json.Members}
    (h : memberValues es = .ok ms) : Json.names ms = keyTexts es := by
  induction es generalizing ms with
  | nil =>
    rw [memberValues, Except.ok.injEq] at h
    rw [← h]
    rfl
  | cons e es ih =>
    obtain ⟨k, p⟩ := e
    simp only [memberValues, bind_eq_ok] at h
    obtain ⟨name, hname, x, -, ms', hms', h⟩ := h
    obtain rfl := Except.ok.inj h
    rw [keyTexts_cons_of_ok hname, ← ih hms']
    rfl

/-! ### Items and entries -/

variable {style : Style} {depth : Nat}

theorem matches_itemValues {ps : List Payload}
    (h : ∀ p ∈ ps, Matches p.HasOptionalKey (Json.write style depth) (write style depth p)
      p.toJson) :
    Matches (∃ p ∈ ps, p.HasOptionalKey) (Json.writeItems style depth) (writeItems style depth ps)
      (itemValues ps) := by
  induction ps with
  | nil => exact .ok rfl
  | cons p ps ih =>
    rw [List.forall_mem_cons] at h
    rw [writeItems, itemValues]
    refine (h.1.mono fun hp => ⟨p, List.mem_cons_self, hp⟩).bind fun x _ => ?_
    refine ((ih h.2).mono ?_).bind fun xs _ => .ok rfl
    rintro ⟨q, hq, hkey⟩
    exact ⟨q, List.mem_cons_of_mem p hq, hkey⟩

theorem matches_memberValues {es : List (Payload × Payload)}
    (h : ∀ e ∈ es, Matches e.2.HasOptionalKey (Json.write style depth) (write style depth e.2)
      e.2.toJson) :
    Matches (∃ e ∈ es, e.1.isPresent = true ∨ e.2.HasOptionalKey) (Json.writeMembers style depth)
      (writeEntries style depth es) (memberValues es) := by
  induction es with
  | nil => exact .ok rfl
  | cons e es ih =>
    obtain ⟨k, p⟩ := e
    rw [List.forall_mem_cons] at h
    rw [writeEntries, memberValues]
    refine ((matches_keyText k).mono fun hk => ⟨(k, p), List.mem_cons_self, .inl hk⟩).bind
      fun name _ => ?_
    refine (h.1.mono fun hp => ⟨(k, p), List.mem_cons_self, .inr hp⟩).bind fun x _ => ?_
    refine ((ih h.2).mono ?_).bind fun ms _ => .ok rfl
    rintro ⟨q, hq, hkey⟩
    exact ⟨q, List.mem_cons_of_mem _ hq, hkey⟩

/-! ### Payloads -/

theorem write_floatValue (x : Float) :
    Json.write style depth (floatValue x) = writeFinite x.isFinite (Decimal.writeDouble x) := by
  rw [floatValue, writeFinite]
  cases x.isFinite with
  | true => rfl
  | false => rfl

theorem write_byteValues (bs : List UInt8) : Json.write style depth (.array (bs.map byteValue)) =
    style.list depth (bs.map fun b => Json.writeWhole b.toNat) := by
  rw [Json.write, Json.writeItems_eq_map, List.map_map]
  rfl

/-- **The text of a uniform payload is that of its value**, and they fail alike. -/
theorem Uniform.matches_toJson {p : Payload} (h : p.Uniform) (style : Style) (depth : Nat) :
    Matches p.HasOptionalKey (Json.write style depth) (p.write style depth) p.toJson := by
  induction h generalizing depth with
  | unit => exact .ok rfl
  | bool b => exact .ok rfl
  | int hn =>
    rw [write, toJson, wholeValue, if_pos hn]
    exact .ok rfl
  | float64 x =>
    rw [write, toJson, ← write_floatValue]
    exact .ok rfl
  | char c => exact .ok rfl
  | string s => exact .ok rfl
  | bytes bs =>
    rw [write, toJson, ← write_byteValues]
    exact .ok rfl
  | none => exact .ok rfl
  | some _ ih => exact (ih depth).mono .some
  | newtype _ ih => exact (ih depth).mono .newtype
  | unitVariant name => exact .ok rfl
  | newtypeVariant name _ ih =>
    rw [write, toJson]
    exact ((ih (depth + 1)).mono (.newtypeVariant name)).bind fun x _ => .ok rfl
  | seq _ ih =>
    rw [write, toJson]
    refine ((matches_itemValues fun p hp => ih p hp (depth + 1)).mono ?_).bind fun xs _ => .ok rfl
    rintro ⟨p, hp, hkey⟩
    exact .item hp hkey
  | map hkeys _ ih =>
    rw [write, toJson]
    refine ((matches_memberValues fun e he => ih e he (depth + 1)).mono ?_).bind fun ms hms => ?_
    · rintro ⟨e, he, hkey | hkey⟩
      · exact .key he hkey
      · exact .entry he hkey
    · have hnames : (Json.names ms).Nodup := names_of_memberValues hms ▸ hkeys
      rw [Json.ofList_eq_lastValues, Json.lastValues_eq_self hnames]
      exact .ok rfl
  | refusal message => exact .inl rfl

end PgJson.Payload
