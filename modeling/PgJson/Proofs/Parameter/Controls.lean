import PgJson.Proofs.Json.Controls
import PgJson.Proofs.Parameter.Agreement
import PgJson.Proofs.Sql.Constant

/-!
# Parameters without control characters

A text with a NUL character cannot be quoted. None is ever written by the encoders for JSON,
though a payload may hold NUL characters in its strings, characters, keys and names: whatever is
encoded has no control character but the line feeds of the pretty style. So a parameter that can
be encoded can be quoted, and when it cannot be quoted that is for the reason that it cannot be
encoded.

## Main definitions

* `PgJson.Parameter.Sendable` — what is encoded can be quoted, and has no stray control character

## Main results

* `PgJson.Parameter.sendable_payload` — payloads, by both ways to encode them and in both styles
-/

namespace PgJson.Parameter

open Json (Style Tidy)
open Text (Mode)

variable {α : Type} {style : Style}

/-- What a parameter is encoded as can be quoted, and a control character in it is a line feed that
the style has put outside of quotes. -/
structure Sendable (style : Style) (q : Parameter α) (r : Registry) : Prop where
  nul_notMem : ∀ text, q.encode r = .ok text → '\x00' ∉ text.toList
  control : ∀ text, q.encode r = .ok text → ∀ before c after,
    text.toList = before ++ c :: after → c.toNat < 0x20 →
      style = .pretty ∧ c = '\n' ∧ Mode.outside.after before = .outside
  literal_eq : ∀ text, q.encode r = .ok text →
    q.literal r = .ok (String.ofList (Sql.quoteChars text.toList))
  error_iff : ∀ e, q.literal r = .error e ↔ q.encode r = .error e

/-- It is enough that the text is tidy. -/
theorem sendable_of_tidy {q : Parameter α} {r : Registry}
    (h : ∀ text, q.encode r = .ok text → Tidy style text.toList) : Sendable style q r := by
  have hcontrol : ∀ text, q.encode r = .ok text → ∀ before c after,
      text.toList = before ++ c :: after → c.toNat < 0x20 →
        style = .pretty ∧ c = '\n' ∧ Mode.outside.after before = .outside := by
    intro text htext before c after hsplit hc
    have hfits := (h text htext).fits
    rw [hsplit, Json.controlsFit_append] at hfits
    exact hfits.2.1 hc
  have hnul : ∀ text, q.encode r = .ok text → '\x00' ∉ text.toList := by
    intro text htext hmem
    obtain ⟨before, after, hsplit⟩ := List.append_of_mem hmem
    obtain ⟨-, hc, -⟩ := hcontrol text htext before '\x00' after hsplit (by decide)
    cases hc
  have hliteral : ∀ text, q.encode r = .ok text →
      q.literal r = .ok (String.ofList (Sql.quoteChars text.toList)) := by
    intro text htext
    rw [literal, htext, ok_bind, Sql.quote_of_notMem (hnul text htext)]
  refine ⟨hnul, hcontrol, hliteral, fun e => ?_⟩
  rw [literal, bind_eq_error]
  refine or_iff_left_of_imp ?_
  rintro ⟨text, htext, hquote⟩
  rw [Sql.quote_of_notMem (hnul text htext)] at hquote
  cases hquote

/-- **No payload is refused for a NUL character.** For every payload, encoded by default in either
style or directly in either style: if it can be encoded, the text has no control character but the
line feeds of the pretty style, and can be quoted; it fails to be quoted only with the error that
it fails to be encoded with. -/
theorem sendable_payload (p : Payload) {r : Registry} (hr : r.encoder? = some (.json style))
    (r' : Registry) :
    Sendable style (ofPayload p) r ∧ Sendable style (withEncoder p (Payload.encode style)) r' := by
  constructor
  · refine sendable_of_tidy fun text htext => ?_
    rw [encode_ofPayload_eq hr, mapError_eq_ok] at htext
    obtain ⟨x, -, rfl⟩ := map_eq_ok.mp htext
    rw [Json.text, String.toList_ofList]
    exact Json.tidy_write 0 x
  · refine sendable_of_tidy fun text htext => ?_
    rw [encode_withEncoder_eq, mapError_eq_ok] at htext
    obtain ⟨t, ht, rfl⟩ := map_eq_ok.mp htext
    rw [String.toList_ofList]
    exact Payload.tidy_of_write p ht

/-- A NUL character as a key and other control characters in a string, in the pretty style. -/
theorem sendable_payload_nul :
    (ofPayload (.map [(.char '\x00', .string "'\x07\n")])).literal (Registry.new.setStyle .pretty) =
        .ok "E'\x7b\n  \"\\\\u0000\": \"''\\\\u0007\\\\n\"\n\x7d'" ∧
      (withEncoder (.map [(.char '\x00', .string "'\x07\n")]) (Payload.encode .pretty)).literal
          .withoutDefaults =
        .ok "E'\x7b\n  \"\\\\u0000\": \"''\\\\u0007\\\\n\"\n\x7d'" := by
  have hr : (Registry.new.setStyle .pretty).encoder? = some (.json .pretty) := rfl
  obtain ⟨hvalue, hdirect⟩ := sendable_payload (.map [(.char '\x00', .string "'\x07\n")]) hr
    .withoutDefaults
  exact ⟨hvalue.literal_eq "\x7b\n  \"\\u0000\": \"'\\u0007\\n\"\n\x7d" rfl,
    hdirect.literal_eq "\x7b\n  \"\\u0000\": \"'\\u0007\\n\"\n\x7d" rfl⟩

end PgJson.Parameter
