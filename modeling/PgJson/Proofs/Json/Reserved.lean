import PgJson.Proofs.Json.RoundTrip

/-!
# What no document stands for

An object whose first name is the reserved one is never the value of a document, nor part of one:
where a document has such an object, it is read as the document embedded in it. So no text at all
is read as a value that holds one, and a value is read back exactly when it holds none.

## Main definitions

* `PgJson.Json.Yields` — all that a reader reads has a property

## Main results

* `PgJson.Json.unreserved_of_ofText` — nothing that is read has the reserved name in first place
* `PgJson.Json.ofText_embedded` — what an object that begins with it is read as
* `PgJson.Json.ofText_text_merged_iff` — when a value is read back
-/

namespace PgJson.Json

open Text (IsSpaces skipSpaces)

/-- Whatever the reader reads satisfies `P`. -/
def Yields {α : Type} (P : α → Prop) (read : Reader α) : Prop :=
  ∀ ⦃s : List Char⦄ ⦃x : α⦄ ⦃r : List Char⦄, read s = .ok (x, r) → P x

variable {P : Json → Prop} {item : Reader Json}

/-! ### Items and members -/

theorem yields_readMoreItems (hitem : Yields P item) (steps : List Char) :
    Yields (fun xs => ∀ x ∈ xs, P x) (readMoreItems item steps) := by
  induction steps with
  | nil =>
    intro s xs r h
    cases h
  | cons _ steps ih =>
    intro s xs r h
    simp only [readMoreItems] at h
    split at h
    · cases h
    · cases h
      exact List.forall_mem_nil _
    · split at h
      · cases h
      · cases h
      · obtain ⟨⟨y, u⟩, hy, h⟩ := bind_eq_ok.mp h
        obtain ⟨⟨ys, v⟩, hys, h⟩ := bind_eq_ok.mp h
        cases h
        exact List.forall_mem_cons.mpr ⟨hitem hy, ih hys⟩
    · cases h

theorem yields_readItems (hitem : Yields P item) :
    Yields (fun xs => ∀ x ∈ xs, P x) (readItems item) := by
  intro s xs r h
  simp only [readItems] at h
  split at h
  · cases h
  · cases h
    exact List.forall_mem_nil _
  · obtain ⟨⟨y, u⟩, hy, h⟩ := bind_eq_ok.mp h
    obtain ⟨⟨ys, v⟩, hys, h⟩ := bind_eq_ok.mp h
    cases h
    exact List.forall_mem_cons.mpr ⟨hitem hy, yields_readMoreItems hitem u hys⟩

theorem yields_readMember (hitem : Yields P item) {more : Reader (List (String × Json))}
    (hmore : Yields (fun ms => ∀ m ∈ ms, P m.2) more) :
    Yields (fun ms => ∀ m ∈ ms, P m.2) (readMember item more) := by
  intro s ms r h
  rw [readMember.eq_def] at h
  split at h
  · obtain ⟨⟨name, t⟩, _, h⟩ := bind_eq_ok.mp h
    obtain ⟨u, _, h⟩ := bind_eq_ok.mp h
    obtain ⟨⟨y, v⟩, hy, h⟩ := bind_eq_ok.mp h
    obtain ⟨⟨ys, w⟩, hys, h⟩ := bind_eq_ok.mp h
    cases h
    exact List.forall_mem_cons.mpr ⟨hitem hy, hmore hys⟩
  · cases h

theorem yields_readMoreMembers (hitem : Yields P item) (steps : List Char) :
    Yields (fun ms => ∀ m ∈ ms, P m.2) (readMoreMembers item steps) := by
  induction steps with
  | nil =>
    intro s ms r h
    cases h
  | cons _ steps ih =>
    intro s ms r h
    simp only [readMoreMembers] at h
    split at h
    · cases h
    · cases h
      exact List.forall_mem_nil _
    · split at h
      · cases h
      · cases h
      · exact yields_readMember hitem ih h
    · cases h

/-! ### Values -/

variable {embedded : List Char → Except Error Json}

/-- An embedded document is the value of its object. -/
theorem yields_readEmbedded (hembedded : ∀ s x, embedded s = .ok x → P x) :
    Yields P (readEmbedded embedded) := by
  intro s x r h
  obtain ⟨t, _, h⟩ := bind_eq_ok.mp h
  simp only at h
  split at h
  · obtain ⟨⟨text, u⟩, _, h⟩ := bind_eq_ok.mp h
    simp only at h
    split at h
    · cases h
    · next hx =>
      split at h
      · cases h
      · cases h
        exact hembedded _ _ hx
      · cases h
      · cases h
  · obtain ⟨⟨y, u⟩, _, h⟩ := bind_eq_ok.mp h
    cases h

theorem unreserved_object {name : String} {x : Json} {ms : Members} (hname : name ≠ embeddedName)
    (hx : Unreserved x) (hms : ∀ m ∈ ms, Unreserved m.2) :
    Unreserved (.object (Members.ofList ((name, x) :: ms))) := by
  rw [ofList_eq_lastValues]
  refine .object ?_ fun m hm => ?_
  · rw [head?_lastValues]
    simpa using hname
  · rcases List.mem_cons.mp (lastValues_subset _ hm) with rfl | hm
    · exact hx
    · exact hms m hm

theorem yields_readObject (hembedded : ∀ s x, embedded s = .ok x → Unreserved x)
    (hitem : Yields Unreserved item) : Yields Unreserved (readObject embedded item) := by
  intro s x r h
  simp only [readObject] at h
  split at h
  · cases h
  · cases h
    exact .object (by simp) (by simp)
  · obtain ⟨⟨name, t⟩, _, h⟩ := bind_eq_ok.mp h
    simp only at h
    split at h
    · exact yields_readEmbedded hembedded h
    · next hname =>
      obtain ⟨u, _, h⟩ := bind_eq_ok.mp h
      obtain ⟨⟨y, v⟩, hy, h⟩ := bind_eq_ok.mp h
      obtain ⟨⟨ys, w⟩, hys, h⟩ := bind_eq_ok.mp h
      cases h
      exact unreserved_object hname (hitem hy) (yields_readMoreMembers hitem v hys)
  · cases h

theorem yields_readWith {list object : Reader Json} (hlist : Yields Unreserved list)
    (hobject : Yields Unreserved object) : Yields Unreserved (readWith list object) := by
  intro s x r h
  rw [readWith] at h
  split at h
  · cases h
  · split at h
    · obtain ⟨_, _, h⟩ := bind_eq_ok.mp h
      cases h
      exact .null
    split at h
    · obtain ⟨_, _, h⟩ := bind_eq_ok.mp h
      cases h
      exact .bool true
    split at h
    · obtain ⟨_, _, h⟩ := bind_eq_ok.mp h
      cases h
      exact .bool false
    split at h
    · obtain ⟨⟨n, _⟩, _, h⟩ := bind_eq_ok.mp h
      cases h
      exact .number n
    split at h
    · obtain ⟨⟨n, _⟩, _, h⟩ := bind_eq_ok.mp h
      cases h
      exact .number n
    split at h
    · obtain ⟨⟨text, _⟩, _, h⟩ := bind_eq_ok.mp h
      cases h
      exact .string text
    split at h
    · exact hlist h
    split at h
    · exact hobject h
    · cases h

theorem yields_readValue (hembedded : ∀ s x, embedded s = .ok x → Unreserved x) (depth : Nat) :
    Yields Unreserved (readValue embedded depth) := by
  have hfail : Yields Unreserved fun r => fail .tooDeep r := by
    intro s x r h
    cases h
  induction depth with
  | zero => exact yields_readWith hfail hfail
  | succ depth ih =>
    refine yields_readWith ?_ (yields_readObject hembedded ih)
    intro s x r h
    obtain ⟨⟨xs, t⟩, hxs, h⟩ := bind_eq_ok.mp h
    cases h
    exact .array (yields_readItems ih hxs)

/-! ### Documents -/

theorem unreserved_of_ofChars (layers : Nat) : ∀ (s : List Char) (x : Json),
    ofChars layers s = .ok x → Unreserved x := by
  induction layers with
  | zero =>
    intro s x h
    cases h
  | succ layers ih =>
    intro s x h
    rw [ofChars, mapError_eq_ok] at h
    obtain ⟨⟨y, r⟩, hvalue, hend⟩ := bind_eq_ok.mp h
    simp only at hend
    split at hend
    · cases hend
      exact yields_readValue ih depthLimit hvalue
    · cases hend

/-- No document is, or holds, an object that begins with the reserved name. -/
theorem unreserved_of_ofText {text : String} {x : Json} (h : ofText text = .ok x) :
    Unreserved x :=
  unreserved_of_ofChars _ _ _ h

theorem readObject_embedded {style : Style} {b b' : List Char} (hb : IsSpaces b)
    (hb' : IsSpaces b') {t : String} {x : Json} (ht : embedded t.toList = .ok x)
    (rest : List Char) :
    readObject embedded item
      (b ++ (style.member embeddedName (writeString t) ++ (b' ++ '\x7d' :: rest))) =
        .ok (x, rest) := by
  have hskip : ∀ u, skipSpaces (b ++ '"' :: u) = '"' :: u := fun u =>
    Text.skipSpaces_append_of_startsFull hb (Text.startsFull_cons.mpr rfl)
  have hgap : ∀ u, skipSpaces (style.gap ++ '"' :: u) = '"' :: u := fun u =>
    Text.skipSpaces_append_of_startsFull style.isSpaces_gap (Text.startsFull_cons.mpr rfl)
  have hclose : skipSpaces (b' ++ '\x7d' :: rest) = '\x7d' :: rest :=
    Text.skipSpaces_append_of_startsFull hb' (Text.startsFull_cons.mpr rfl)
  have hquoted : writeString t ++ (b' ++ '\x7d' :: rest) =
      '"' :: (t.toList.flatMap escape ++ '"' :: (b' ++ '\x7d' :: rest)) := by
    simp [writeString]
  have hcolon : ∀ u, readColon (':' :: u) = .ok u := fun _ => rfl
  rw [Style.member_append]
  simp only [readObject, hskip, readString_writeString, ok_bind, if_true, readEmbedded, hcolon,
    hquoted, hgap, ht, hclose]

/-- What is read instead of such an object is the document in it. -/
theorem ofText_embedded {x : Json} (hfits : Fits depthLimit x) (hx : Unreserved x)
    (style style' : Style) :
    ofText ((Json.object [(embeddedName, .string (x.text style'))]).text style) =
      .ok x.merged := by
  have hwrite : write style 0 (.object [(embeddedName, .string (x.text style'))]) =
      '\x7b' :: (style.newLine 1 ++ (style.member embeddedName (writeString (x.text style')) ++
        (style.newLine 0 ++ ['\x7d']))) := by
    have hobject := style.enclose_cons_append 0 '\x7b' '\x7d'
      (style.member embeddedName (writeString (x.text style'))) [] []
    rwa [List.append_nil] at hobject
  have hdocument : ∀ layers, ofChars (layers + 1) (x.text style').toList = .ok x.merged := by
    intro layers
    rw [text, String.toList_ofList]
    exact ofChars_write hfits hx style' layers
  have hread : ∀ layers, readValue (ofChars (layers + 1)) depthLimit
      (write style 0 (.object [(embeddedName, .string (x.text style'))])) =
        .ok (x.merged, []) := by
    intro layers
    rw [hwrite]
    exact readObject_embedded (style.isSpaces_newLine 1) (style.isSpaces_newLine 0)
      (hdocument layers) []
  obtain ⟨layers, hlayers⟩ : ∃ layers,
      (write style 0 (.object [(embeddedName, .string (x.text style'))])).length = layers + 1 := by
    rw [hwrite]
    exact ⟨_, rfl⟩
  rw [ofText, text, String.toList_ofList, hlayers, ofChars, readDocument, hread]
  rfl

/-- A value that fits is read back exactly when no object in it begins with the reserved name. -/
theorem ofText_text_merged_iff {x : Json} (hfits : Fits depthLimit x) (style : Style) :
    ofText (x.merged.text style) = .ok x.merged ↔ Unreserved x.merged := by
  refine ⟨unreserved_of_ofText, fun hx => ?_⟩
  rw [ofText_text hfits.merged hx, hfits.merged_merged]

end PgJson.Json
