import PgJson.Parameter
import PgJson.Proofs.Json.Reserved
import PgJson.Proofs.Payload.Tree
import PgJson.Registration

/-!
# What is sent can be received

A parameter can be encoded in two ways, through a JSON value and by an encoder of its own, and each
in two styles. All four texts are read back by the caster of the built-in type as the value of the
parameter, with one exception, which is the reader's own: an object that begins with the reserved
name is read as the document embedded in it. The texts made from the value have such an object
exactly when the value has one. Those written directly may have one that a later entry for the same
key replaces, so there the whole tree must be free of them.

## Main results

* `PgJson.Parameter.encode_ofPayload`, `encode_withEncoder` — the texts of an exact payload
* `PgJson.Parameter.cast_encode` — the texts are cast to the value of the payload
-/

namespace PgJson.Parameter

open Json (Style Unreserved embeddedName)

variable {p : Payload} {n : Nat} {style : Style}

/-- By default the value is written. -/
theorem encode_ofPayload (hp : p.Exact n) {r : Registry} (hr : r.encoder? = some (.json style)) :
    (ofPayload p).encode r = .ok (p.tree.merged.text style) := by
  simp only [encode, ofPayload, hr, hp.toJson_eq_merged]
  rfl

/-- With an encoder of its own the tree is written, whatever the defaults are. -/
theorem encode_withEncoder (hp : p.Exact n) (style : Style) (r : Registry) :
    (withEncoder p (Payload.encode style)).encode r = .ok (p.tree.text style) := by
  simp only [encode, withEncoder, Payload.encode, Payload.text, hp.write_eq_tree]
  rfl

theorem cast_eq_ok_iff {cs : TypeCasters} (hcs : cs.decoder = .json) {text : String} {x : Json} :
    cs.scalar.cast (some text) = .ok x ↔ Json.ofText text = .ok x := by
  rw [TypeCasters.scalar, Caster.cast, Caster.decode, hcs, Decoder.json, mapError_eq_ok]

/-- **What is sent can be received, whichever encoder is used.** Every payload that is exact and
nested within the limit of the reader has a value and four texts. If no object of its tree begins
with the reserved name, all of them are cast to the value. For the texts of the value it is enough
that the value has no such object; and a value that has one is what no text at all is cast to. -/
theorem cast_encode (r : Registry) (hr : r.decoder? = some .json) (c? : Option Connection)
    (globally : Bool) :
    ∃ cs, (Registration.ofBuiltin r c? globally none .json).result = .ok cs ∧
      ∀ p : Payload, p.Exact 127 →
        p.toJson = .ok p.tree.merged ∧
        (¬Unreserved p.tree.merged → ∀ text, cs.scalar.cast (some text) ≠ .ok p.tree.merged) ∧
        ∀ (style : Style) (r' : Registry), r'.encoder? = some (.json style) →
          ∃ text direct, (ofPayload p).encode r' = .ok text ∧
            (∀ r'', (withEncoder p (Payload.encode style)).encode r'' = .ok direct) ∧
            (Unreserved p.tree.merged → cs.scalar.cast (some text) = .ok p.tree.merged) ∧
            (Unreserved p.tree → cs.scalar.cast (some text) = .ok p.tree.merged ∧
              cs.scalar.cast (some direct) = .ok p.tree.merged) := by
  have hmake : TypeCasters.make r Builtin.json.oids none Builtin.json.casterName =
      .ok ⟨Builtin.json.casterName, Builtin.json.oids, .json⟩ := by
    rw [TypeCasters.make, hr]
    rfl
  refine ⟨⟨Builtin.json.casterName, Builtin.json.oids, .json⟩, ?_, ?_⟩
  · rw [Registration.ofBuiltin, Registration.ofOids, hmake]
    cases c? <;> cases globally <;> rfl
  intro p hp
  refine ⟨hp.toJson_eq_merged, fun hreserved text htext => ?_, fun style r' hr' => ?_⟩
  · rw [cast_eq_ok_iff rfl] at htext
    exact hreserved (Json.unreserved_of_ofText htext)
  · have hvalue : Unreserved p.tree.merged →
        Json.ofText (p.tree.merged.text style) = .ok p.tree.merged :=
      (Json.ofText_text_merged_iff hp.fits_tree style).mpr
    refine ⟨_, _, encode_ofPayload hp hr', encode_withEncoder hp style, ?_, fun htree => ?_⟩
    · rw [cast_eq_ok_iff rfl]
      exact hvalue
    · rw [cast_eq_ok_iff rfl, cast_eq_ok_iff rfl]
      exact ⟨hvalue htree.merged, Json.ofText_text hp.fits_tree htree style⟩

/-- A map with a repeated key, the last value of which counts. -/
def repeatedKey : Payload :=
  .map [(.string "a", .unit), (.char 'b', .none), (.string "a", .bool true)]

/-- Only the text that is written directly repeats the key. Both are received alike. -/
theorem cast_encode_repeated_key :
    (Registration.ofBuiltin .new none true none .json).result =
        .ok ⟨"JSON", ⟨114, some 199⟩, .json⟩ ∧
      (ofPayload repeatedKey).encode (Registry.new.setStyle .pretty) =
        .ok "\x7b\n  \"a\": true,\n  \"b\": null\n\x7d" ∧
      (withEncoder repeatedKey (Payload.encode .pretty)).encode .withoutDefaults =
        .ok "\x7b\n  \"a\": null,\n  \"b\": null,\n  \"a\": true\n\x7d" ∧
      (TypeCasters.mk "JSON" ⟨114, some 199⟩ .json).scalar.cast
          (some "\x7b\n  \"a\": true,\n  \"b\": null\n\x7d") =
        .ok (.object [("a", .bool true), ("b", .null)]) ∧
      (TypeCasters.mk "JSON" ⟨114, some 199⟩ .json).scalar.cast
          (some "\x7b\n  \"a\": null,\n  \"b\": null,\n  \"a\": true\n\x7d") =
        .ok (.object [("a", .bool true), ("b", .null)]) := by
  have hregistered : (Registration.ofBuiltin .new none true none .json).result =
      .ok ⟨"JSON", ⟨114, some 199⟩, .json⟩ := rfl
  have hvalue : (ofPayload repeatedKey).encode (Registry.new.setStyle .pretty) =
      .ok "\x7b\n  \"a\": true,\n  \"b\": null\n\x7d" := rfl
  have hwritten : (withEncoder repeatedKey (Payload.encode .pretty)).encode .withoutDefaults =
      .ok "\x7b\n  \"a\": null,\n  \"b\": null,\n  \"a\": true\n\x7d" := rfl
  have hp : repeatedKey.Exact 127 := by
    refine .map ?_ ?_
    · simp [Payload.IsKey.string, Payload.IsKey.char]
    · simp [Payload.Exact.unit, Payload.Exact.none, Payload.Exact.bool]
  have htree : Unreserved repeatedKey.tree := by
    refine .object (by decide) ?_
    simp [Payload.entryTrees, Payload.tree, Unreserved.null, Unreserved.bool]
  obtain ⟨cs, hcs, hall⟩ := cast_encode .new rfl none true
  obtain ⟨text, direct, htext, hdirect, _, hcast⟩ :=
    (hall _ hp).2.2 .pretty (Registry.new.setStyle .pretty) rfl
  obtain rfl := Except.ok.inj (hregistered.symm.trans hcs)
  obtain rfl := Except.ok.inj (hvalue.symm.trans htext)
  obtain rfl := Except.ok.inj (hwritten.symm.trans (hdirect .withoutDefaults))
  exact ⟨hregistered, hvalue, hwritten, hcast htree⟩

/-- A map whose only key is the reserved name is received as the document that its value holds. -/
theorem cast_embedded_document :
    Payload.Exact 127 (.map [(.string embeddedName, .string "null")]) ∧
      Payload.toJson (.map [(.string embeddedName, .string "null")]) =
        .ok (.object [(embeddedName, .string "null")]) ∧
      (ofPayload (.map [(.string embeddedName, .string "null")])).encode .new =
        .ok "\x7b\"$serde_json::private::RawValue\":\"null\"\x7d" ∧
      ∃ cs, (Registration.ofBuiltin .new none true none .json).result = .ok cs ∧
        cs.scalar.cast (some "\x7b\"$serde_json::private::RawValue\":\"null\"\x7d") =
          .ok .null := by
  refine ⟨?_, rfl, rfl, ⟨"JSON", ⟨114, some 199⟩, .json⟩, rfl, ?_⟩
  · refine .map ?_ ?_
    · simp [Payload.IsKey.string]
    · simp [Payload.Exact.string]
  · rw [cast_eq_ok_iff rfl]
    exact Json.ofText_embedded .null .null .compact .compact

end PgJson.Parameter
