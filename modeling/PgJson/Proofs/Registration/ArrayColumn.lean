import PgJson.Proofs.Caster.Shape
import PgJson.Proofs.Json.RoundTrip
import PgJson.Proofs.Registration.Entry

/-!
# Columns of arrays of JSON

A server quotes a JSON text inside an array unless it is a bare number, truth value, or list of
such. A text that stays bare has no blank at its ends that trimming could take away: a blank of
ASCII would have made the server quote it, and any other blank would have made the decoder refuse
it. So an array column arrives as the list of what its elements would have been as columns.

## Main results

* `PgJson.ArrayLiteral.keeps_of_ofText` — a JSON text survives in an array
* `PgJson.Registration.typecast_render` — an array column is the list of its elements as columns
-/

namespace PgJson

open ArrayLiteral (Element Keeps levels textsAll imageAll render)

/-- A JSON text is quoted in an array, or has no blanks at its ends. -/
theorem ArrayLiteral.keeps_of_ofText {t : String} {x : Json} (h : Json.ofText t = .ok x) :
    Keeps t.toList := by
  intro hquotes
  obtain ⟨_, _, hplain⟩ := needsQuotes_eq_false hquotes
  have hquote : '"' ∉ t.toList := fun hmem => by
    have := hplain _ hmem
    simp [isSyntax] at this
  have hfull : ∀ c ∈ t.toList, Text.isBlank c = false := by
    intro c hc
    rw [← Bool.not_eq_true]
    intro hblank
    have hspace := Json.isSpace_of_isBlank h hquote hc hblank
    rw [isSpace_of_not_isSyntax (hplain c hc)] at hspace
    cases hspace
  have htrim := Text.isTrimOf_self (fun c hc => hfull c (List.mem_of_mem_head? hc))
    (fun c hc => hfull c (List.mem_of_mem_getLast? hc))
  exact (Text.isTrimOf_iff.mp htrim).symm

namespace Registration

/-- **A column of arrays is decoded to the list of what its elements are decoded to as columns**:
after any registration that has succeeded with the JSON decoder and two different oids, whatever
bounds the server writes in front, as long as columns of both types are dispatched through the
table that the registration has installed in. -/
theorem typecast_render {r : Registry} {c? : Option Connection} {e : Entry} {cs : TypeCasters}
    {a : Oid} (h : (e.register r c?).result = .ok cs) (hdecoder : cs.decoder = .json)
    (ha : cs.oids.arrayOid = some a) (hne : a ≠ cs.oids.oid) {own? : Option Caster.Table}
    (hown : (e.register r c?).Dispatches own? cs.oids.oid (scope c? e.globally))
    (howna : (e.register r c?).Dispatches own? a (scope c? e.globally))
    (bounds : List (Int × Int)) {items : List Element} (hlevels : levels items ≤ 6)
    {value : String → Json}
    (hvalue : ∀ t ∈ textsAll items,
      (e.register r c?).registry.typecast own? cs.oids.oid (some t) = .ok (value t)) :
    (e.register r c?).registry.typecast own? a (some (render bounds items)) =
      .ok (.array (imageAll value items)) := by
  have hne' : cs.oids.arrayOid ≠ some cs.oids.oid := by
    rw [ha]
    exact fun heq => hne (Option.some.inj heq)
  have hscalar := e.find?_oid h hne' hown
  have harray := e.find?_arrayOid h ha howna
  have hdecode : ∀ t ∈ textsAll items, cs.scalar.decode t = .ok (value t) := by
    intro t ht
    have hcast := hvalue t ht
    rw [Registry.typecast, hscalar] at hcast
    exact hcast
  have hkeeps : ∀ t ∈ textsAll items, Keeps t.toList := by
    intro t ht
    have htext := hdecode t ht
    rw [TypeCasters.scalar, Caster.decode, hdecoder, Decoder.json, mapError_eq_ok] at htext
    exact ArrayLiteral.keeps_of_ofText htext
  have hitems := ArrayLiteral.ofText_render bounds hkeeps hlevels
  rw [Registry.typecast, harray]
  simp only [Caster.cast]
  rw [Caster.decode_array hitems, ArrayLiteral.decodeAll_eq_ok items hdecode]
  rfl

/-- The values of two texts, a JSON array and a JSON object. -/
def boundsValue (text : String) : Json :=
  if text = "[false]" then .array [.bool false] else .object [("a", .bool true)]

/-- An array with bounds, a null element, a bare text and a quoted one. -/
theorem typecast_render_bounds :
    ((Entry.builtin .json false none).register .new none).registry.typecast none 199
        (some (render [(0, 2)] [.null, .nested [.text "[false]"], .text "\x7b\"a\":true\x7d"])) =
      .ok (.array [.null, .array [.array [.bool false]], .object [("a", .bool true)]]) := by
  have h : ((Entry.builtin .json false none).register .new none).result =
      .ok ⟨"JSON", ⟨114, some 199⟩, .json⟩ := rfl
  have hbare : Json.ofText "[false]" = .ok (.array [.bool false]) := by
    rw [show "[false]" = (Json.array [.bool false]).text .compact from rfl]
    exact Json.ofText_text (.array (by simp [Json.Fits.bool]))
      (.array (by simp [Json.Unreserved.bool])) .compact
  have hquoted : Json.ofText "\x7b\"a\":true\x7d" = .ok (.object [("a", .bool true)]) := by
    rw [show "\x7b\"a\":true\x7d" = (Json.object [("a", .bool true)]).text .compact from rfl]
    exact Json.ofText_text (.object (by simp [Json.Fits.bool]))
      (.object (by decide) (by simp [Json.Unreserved.bool])) .compact
  have hvalue : ∀ t ∈ textsAll [.null, .nested [.text "[false]"], .text "\x7b\"a\":true\x7d"],
      ((Entry.builtin .json false none).register .new none).registry.typecast none 114 (some t) =
        .ok (boundsValue t) := by
    intro t ht
    simp only [textsAll, Element.texts, List.nil_append, List.singleton_append, List.append_nil,
      List.mem_cons, List.not_mem_nil, or_false] at ht
    show (Json.ofText t).mapError Error.decode = _
    rw [mapError_eq_ok]
    rcases ht with rfl | rfl
    · exact hbare
    · exact hquoted
  have hown : ∀ oid, ((Entry.builtin .json false none).register .new none).Dispatches none oid
      (scope none false) := fun _ => rfl
  exact typecast_render h rfl rfl (by decide) (hown 114) (hown 199) [(0, 2)] (by decide) hvalue

end Registration

end PgJson
