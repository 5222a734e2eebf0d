import PgJson.Caster.Basic
import PgJson.Proofs.ArrayLiteral.Rendering
import PgJson.Proofs.Except

/-!
# The shape of decoded elements

Decoding replaces every text among the elements of a literal by a value and every null element by
null, and keeps the nesting. It fails exactly when some text cannot be decoded, and then the first
such text in reading order says why, however deep it is nested and whatever follows it.

The texts are handed on as they are. An array caster among array casters therefore takes each of
them for a literal of its own, while a list nested in the literal itself goes by the same caster as
the list around it.

Equal texts become equal values, because decoders are functions of the text. What a decoder with a
state of its own would make of them is left out, here as in `PgJson.Caster.Basic`.

## Main definitions

* `PgJson.Decoder.failure?` — why a text cannot be decoded
* `PgJson.ArrayLiteral.Element.image`, `imageAll` — elements with values in place of the texts

## Main results

* `PgJson.ArrayLiteral.decodeAll_eq_ok_iff` — the result when every text can be decoded
* `PgJson.ArrayLiteral.decodeAll_eq_error_iff` — the first failure otherwise
* `PgJson.Caster.decode_array` — array casters decode elements
* `PgJson.Caster.cast_array` — when an array can be cast, to what, and why not
-/

namespace PgJson

/-- Why `decoder` cannot decode a text, if it cannot. -/
def Decoder.failure? (decoder : Decoder) (t : String) : Option Error :=
  match decoder t with
  | .ok _ => none
  | .error e => some e

namespace Decoder

variable {decoder : Decoder} {t : String}

theorem failure?_eq_some_iff {e : Error} : decoder.failure? t = some e ↔ decoder t = .error e := by
  unfold failure?
  cases decoder t <;> simp

theorem failure?_eq_none_iff : decoder.failure? t = none ↔ ∃ x, decoder t = .ok x := by
  unfold failure?
  cases decoder t <;> simp

end Decoder

namespace ArrayLiteral

mutual

/-- An element with `value` applied to its texts. -/
def Element.image (value : String → Json) : Element → Json
  | .null => .null
  | .text s => value s
  | .nested items => .array (imageAll value items)

/-- Elements with `value` applied to their texts. -/
def imageAll (value : String → Json) : List Element → List Json
  | [] => []
  | e :: es => e.image value :: imageAll value es

end

variable {decoder : Decoder} {value : String → Json}

/-! ### Every text can be decoded -/

mutual

theorem decode_eq_ok : ∀ (e : Element), (∀ t ∈ e.texts, decoder t = .ok (value t)) →
    e.decode decoder = .ok (e.image value)
  | .null, _ => rfl
  | .text s, h => h s (by simp [Element.texts])
  | .nested items, h => by
    rw [Element.decode, decodeAll_eq_ok items h]
    rfl

theorem decodeAll_eq_ok : ∀ (items : List Element),
    (∀ t ∈ textsAll items, decoder t = .ok (value t)) →
    Element.decodeAll decoder items = .ok (imageAll value items)
  | [], _ => rfl
  | e :: es, h => by
    simp only [textsAll, List.forall_mem_append] at h
    rw [Element.decodeAll, decode_eq_ok e h.1, decodeAll_eq_ok es h.2]
    rfl

end

/-! ### The first failure -/

mutual

theorem decode_eq_error_iff {err : Error} : ∀ e : Element,
    e.decode decoder = .error err ↔ e.texts.findSome? decoder.failure? = some err
  | .null => by simp [Element.decode, Element.texts]
  | .text s => by simp [Element.decode, Element.texts, Decoder.failure?_eq_some_iff]
  | .nested items => by
    rw [Element.texts, ← decodeAll_eq_error_iff items, Element.decode, bind_pure_eq_error]

/-- What is reported is what the first text reports that reports anything. -/
theorem decodeAll_eq_error_iff {err : Error} : ∀ items : List Element,
    Element.decodeAll decoder items = .error err ↔
      (textsAll items).findSome? decoder.failure? = some err
  | [] => by simp [Element.decodeAll, textsAll]
  | e :: es => by
    rw [textsAll, List.findSome?_append, Element.decodeAll]
    cases he : e.decode decoder with
    | error err' =>
      rw [(decode_eq_error_iff e).mp he, Option.some_or, Option.some.injEq]
      constructor
      · intro h
        cases h
        rfl
      · rintro rfl
        rfl
    | ok x =>
      have hnone : e.texts.findSome? decoder.failure? = none := by
        by_contra hsome
        obtain ⟨err', herr'⟩ := Option.ne_none_iff_exists'.mp hsome
        rw [(decode_eq_error_iff e).mpr herr'] at he
        cases he
      rw [hnone, Option.none_or, ← decodeAll_eq_error_iff es, ok_bind, bind_pure_eq_error]

end

/-- Elements can be decoded exactly when all their texts can. -/
theorem decodeAll_eq_ok_iff {items : List Element} {xs : List Json} :
    Element.decodeAll decoder items = .ok xs ↔
      ∃ value, (∀ t ∈ textsAll items, decoder t = .ok (value t)) ∧ xs = imageAll value items := by
  constructor
  · intro h
    have hnone : (textsAll items).findSome? decoder.failure? = none := by
      by_contra hsome
      obtain ⟨err, herr⟩ := Option.ne_none_iff_exists'.mp hsome
      rw [(decodeAll_eq_error_iff items).mpr herr] at h
      cases h
    have hall : ∀ t ∈ textsAll items, decoder t = .ok ((decoder t).toOption.getD .null) := by
      intro t ht
      obtain ⟨x, hx⟩ := Decoder.failure?_eq_none_iff.mp (List.findSome?_eq_none_iff.mp hnone t ht)
      rw [hx]
      rfl
    refine ⟨fun t => (decoder t).toOption.getD .null, hall, ?_⟩
    rw [decodeAll_eq_ok items hall] at h
    exact (Except.ok.inj h).symm
  · rintro ⟨value, hall, rfl⟩
    exact decodeAll_eq_ok items hall

end ArrayLiteral

/-! ### Array casters -/

namespace Caster

open ArrayLiteral (Element ofText textsAll imageAll)

variable {oids : List Oid} {name text : String} {element : Caster}

/-- An array caster decodes the elements of its literal. -/
theorem decode_array {items : List Element} (h : ofText text = .ok items) :
    (Caster.array oids name element).decode text =
      (Element.decodeAll element.decode items).map .array := by
  rw [Caster.decode, h, ok_bind]
  cases Element.decodeAll element.decode items with
  | error e => rfl
  | ok xs => rfl

theorem cast_array_eq_ok_iff {x : Json} : (array oids name element).cast (some text) = .ok x ↔
    ∃ items value, ofText text = .ok items ∧
      (∀ t ∈ textsAll items, element.cast (some t) = .ok (value t)) ∧
      x = .array (imageAll value items) := by
  rw [cast, decode, bind_eq_ok]
  constructor
  · rintro ⟨items, hitems, h⟩
    obtain ⟨xs, hxs, h⟩ := bind_eq_ok.mp h
    obtain ⟨value, hvalue, rfl⟩ := ArrayLiteral.decodeAll_eq_ok_iff.mp hxs
    exact ⟨items, value, hitems, hvalue, (Except.ok.inj h).symm⟩
  · rintro ⟨items, value, hitems, hvalue, rfl⟩
    exact ⟨items, hitems, bind_eq_ok.mpr ⟨_, ArrayLiteral.decodeAll_eq_ok items hvalue, rfl⟩⟩

theorem cast_array_eq_error_iff {e : Error} :
    (array oids name element).cast (some text) = .error e ↔
      ofText text = .error e ∨ ∃ items before t after, ofText text = .ok items ∧
        textsAll items = before ++ t :: after ∧
        (∀ u ∈ before, ∃ x, element.cast (some u) = .ok x) ∧
        element.cast (some t) = .error e := by
  rw [cast, decode, bind_eq_error]
  refine or_congr Iff.rfl (exists_congr fun items => ?_)
  simp only [bind_pure_eq_error, ArrayLiteral.decodeAll_eq_error_iff, List.findSome?_eq_some_iff,
    Decoder.failure?_eq_some_iff, Decoder.failure?_eq_none_iff]
  constructor
  · rintro ⟨hitems, before, t, after, htexts, ht, hbefore⟩
    exact ⟨before, t, after, hitems, htexts, hbefore, ht⟩
  · rintro ⟨before, t, after, hitems, htexts, hbefore, ht⟩
    exact ⟨hitems, before, t, after, htexts, ht, hbefore⟩

/-- **An array is cast text by text.** Whatever caster its elements have, an array can be cast
exactly when its literal can be read and every text in it can be cast. The result has the shape of
the literal, with null for the null elements. Otherwise the literal is what is wrong, or else the
first text in reading order that cannot be cast. -/
theorem cast_array (oids : List Oid) (name : String) (element : Caster) (text : String) :
    ((∃ x, (array oids name element).cast (some text) = .ok x) ↔
      ∃ items, ofText text = .ok items ∧
        ∀ t ∈ textsAll items, ∃ x, element.cast (some t) = .ok x) ∧
    (∀ x, (array oids name element).cast (some text) = .ok x ↔
      ∃ items value, ofText text = .ok items ∧
        (∀ t ∈ textsAll items, element.cast (some t) = .ok (value t)) ∧
        x = .array (imageAll value items)) ∧
    ∀ e, (array oids name element).cast (some text) = .error e ↔
      ofText text = .error e ∨ ∃ items before t after, ofText text = .ok items ∧
        textsAll items = before ++ t :: after ∧
        (∀ u ∈ before, ∃ x, element.cast (some u) = .ok x) ∧
        element.cast (some t) = .error e := by
  refine ⟨?_, fun x => cast_array_eq_ok_iff, fun e => cast_array_eq_error_iff⟩
  constructor
  · rintro ⟨x, hx⟩
    obtain ⟨items, value, hitems, hvalue, -⟩ := cast_array_eq_ok_iff.mp hx
    exact ⟨items, hitems, fun t ht => ⟨value t, hvalue t ht⟩⟩
  · rintro ⟨items, hitems, hall⟩
    choose! value hvalue using hall
    exact ⟨_, cast_array_eq_ok_iff.mpr ⟨items, value, hitems, hvalue, rfl⟩⟩

/-- Arrays within the texts of an array, and no text that can be cast. The first text of the outer
array is an array without texts, the second is not; the third is no array at all, but comes too
late. -/
theorem cast_array_inner_failure :
    (array [] "OUTER" (array [] "INNER" (.scalar [] "NONE" fun _ => .error .nullByte))).cast
      (some "\x7b\"\x7b\x7d\",\x7bNULL,\"\x7bx\x7d\"\x7d,\"\x7b\"\x7d") = .error .nullByte := by
  have houter : ofText "\x7b\"\x7b\x7d\",\x7bNULL,\"\x7bx\x7d\"\x7d,\"\x7b\"\x7d" =
      .ok [.text "\x7b\x7d", .nested [.null, .text "\x7bx\x7d"], .text "\x7b"] := rfl
  have hinner : ofText "\x7bx\x7d" = .ok [.text "x"] := rfl
  refine ((cast_array _ _ _ _).2.2 _).mpr (.inr ⟨_, ["\x7b\x7d"], "\x7bx\x7d", ["\x7b"], houter,
    rfl, ?_, ?_⟩)
  · exact List.forall_mem_singleton.mpr ⟨.array [], rfl⟩
  · exact ((cast_array _ _ _ _).2.2 _).mpr (.inr ⟨_, [], "x", [], hinner, rfl, by simp, rfl⟩)

end Caster

end PgJson
