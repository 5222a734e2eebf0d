import PgJson.Parameter
import PgJson.Proofs.Payload.Agreement

/-!
# Two ways to encode a parameter

A parameter that holds a payload is encoded by default, which makes a value of it first, or by an
encoder of its own, which writes it directly. For a uniform payload both come to the same text or
to the same error, whatever fails in it and however often, in either style. Only a map whose key is
a present optional value can make a difference, and only one: encoding by default may then refuse
the key.

## Main results

* `PgJson.Parameter.encode_agree` — both ways come to the same
* `PgJson.Parameter.encode_optional_key` — a key that only one of them takes
-/

namespace PgJson.Parameter

open Json (Style)

variable {p : Payload} {style : Style} {r : Registry}

theorem encode_ofPayload_eq (hr : r.encoder? = some (.json style)) (p : Payload) :
    (ofPayload p).encode r = (p.toJson.map (Json.text style)).mapError .encode := by
  simp only [encode, ofPayload, hr]
  cases p.toJson with
  | error e => rfl
  | ok x => rfl

theorem encode_withEncoder_eq (style : Style) (r : Registry) (p : Payload) :
    (withEncoder p (Payload.encode style)).encode r =
      ((p.write style 0).map String.ofList).mapError .encode := by
  simp only [encode, withEncoder, Payload.encode, Payload.text]

/-- What a parameter is as a constant of SQL goes by what it is encoded as. -/
theorem literal_congr {α β : Type} {a : Parameter α} {b : Parameter β} {r r' : Registry}
    (h : a.encode r = b.encode r') : a.literal r = b.literal r' := by
  rw [literal, literal, h]

/-- A uniform payload is encoded alike, unless it has an optional key and encoding it by default
fails for that. -/
theorem encode_eq_or (hp : p.Uniform) (hr : r.encoder? = some (.json style)) (r' : Registry) :
    (ofPayload p).encode r = (withEncoder p (Payload.encode style)).encode r' ∨
      p.HasOptionalKey ∧ (ofPayload p).encode r = .error (.encode ⟨.keyNotString, none⟩) := by
  rw [encode_ofPayload_eq hr, encode_withEncoder_eq]
  rcases hp.matches_toJson style 0 with hwrite | ⟨hkey, hvalue⟩
  · refine .inl ?_
    rw [hwrite]
    cases p.toJson with
    | error e => rfl
    | ok x => rfl
  · refine .inr ⟨hkey, ?_⟩
    rw [hvalue]
    rfl

/-- **Both ways to encode a parameter agree, on texts and on errors.** For every payload without
floats of 32 bits outside of keys, without numbers beyond 64 bits, and without repeated keys in a
map, encoding it by default and encoding it directly come to the same, as JSON text and as a
constant of SQL, if no map in it has a present optional value as a key. If one has, they still come
to the same, or encoding by default says that a key must be a string. -/
theorem encode_agree (hp : p.Uniform) (hr : r.encoder? = some (.json style)) (r' : Registry) :
    (¬p.HasOptionalKey →
      (ofPayload p).encode r = (withEncoder p (Payload.encode style)).encode r' ∧
        (ofPayload p).literal r = (withEncoder p (Payload.encode style)).literal r') ∧
    ((ofPayload p).encode r ≠ .error (.encode ⟨.keyNotString, none⟩) →
      (ofPayload p).encode r = (withEncoder p (Payload.encode style)).encode r' ∧
        (ofPayload p).literal r = (withEncoder p (Payload.encode style)).literal r') := by
  rcases encode_eq_or hp hr r' with h | ⟨hkey, herror⟩
  · exact ⟨fun _ => ⟨h, literal_congr h⟩, fun _ => ⟨h, literal_congr h⟩⟩
  · exact ⟨fun hnone => absurd hkey hnone, fun hne => absurd herror hne⟩

/-- A map in which a value refuses to be encoded and the next key has no text: both ways report the
refusal. -/
theorem encode_agree_first_failure :
    (ofPayload (.map [(.char 'a', .refusal "no"), (.unit, .none)])).encode
        (Registry.new.setStyle .pretty) = .error (.encode ⟨.other "no", none⟩) ∧
      (withEncoder (.map [(.char 'a', .refusal "no"), (.unit, .none)])
        (Payload.encode .pretty)).encode .withoutDefaults =
          .error (.encode ⟨.other "no", none⟩) := by
  have hp : Payload.Uniform (.map [(.char 'a', .refusal "no"), (.unit, .none)]) := by
    refine .map (by decide) ?_
    simp [Payload.Uniform.refusal, Payload.Uniform.none]
  have hnone : ¬Payload.HasOptionalKey (.map [(.char 'a', .refusal "no"), (.unit, .none)]) := by
    intro h
    cases h with
    | key he hkey =>
      simp only [List.mem_cons, List.not_mem_nil, or_false] at he
      rcases he with rfl | rfl <;> cases hkey
    | entry he h =>
      simp only [List.mem_cons, List.not_mem_nil, or_false] at he
      rcases he with rfl | rfl <;> cases h
  have hvalue : (ofPayload (.map [(.char 'a', .refusal "no"), (.unit, .none)])).encode
      (Registry.new.setStyle .pretty) = .error (.encode ⟨.other "no", none⟩) := rfl
  have hr : (Registry.new.setStyle .pretty).encoder? = some (.json .pretty) := rfl
  exact ⟨hvalue, ((encode_agree hp hr .withoutDefaults).1 hnone).1 ▸ hvalue⟩

/-- A uniform payload that is encoded directly, but not by default: a map whose key is a present
optional value. -/
theorem encode_optional_key :
    Payload.Uniform (.map [(.some (.string "k"), .int 1)]) ∧
      (ofPayload (.map [(.some (.string "k"), .int 1)])).encode .new =
        .error (.encode ⟨.keyNotString, none⟩) ∧
      (withEncoder (.map [(.some (.string "k"), .int 1)]) (Payload.encode .compact)).encode .new =
        .ok "\x7b\"k\":1\x7d" := by
  refine ⟨.map (by decide) ?_, rfl, rfl⟩
  exact List.forall_mem_singleton.mpr (.int (by decide))

end PgJson.Parameter
