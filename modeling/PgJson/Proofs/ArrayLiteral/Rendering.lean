import PgJson.Json.NumberLiteral
import PgJson.Proofs.ArrayLiteral.Structure

/-!
# What the server writes

The server writes an array in one way: no spaces between tokens, NULL for a null element, and a
text between quotes exactly when it could be taken for something else. What it takes for a blank
there are the six blanks of ASCII, while a reader trims a bare run of all blanks of Unicode. So a
text that the server writes bare is read back only if no blank stands at either end of it, and a
text that spells NULL once it is trimmed is even taken for a null element. Nothing else is lost:
every rendering is read, as a list of the same shape, and that one condition decides whether reading
undoes writing.

## Main definitions

* `PgJson.ArrayLiteral.needsQuotes`, `writeText` — when a text is quoted, and how
* `PgJson.ArrayLiteral.writeItems`, `decorate` — the elements of an array, and its bounds
* `PgJson.ArrayLiteral.render` — a whole literal
* `PgJson.ArrayLiteral.textsAll` — the texts among the elements
* `PgJson.ArrayLiteral.Keeps` — a text is read back as it was
* `PgJson.ArrayLiteral.receivedText`, `receivedAll` — what a reader makes of a text, and of elements

## Main results

* `PgJson.ArrayLiteral.literal_render` — a rendering is a literal of the grammar
* `PgJson.ArrayLiteral.receivedAll_eq_self_iff` — when nothing is lost
* `PgJson.ArrayLiteral.ofText_render` — reading undoes writing
* `PgJson.ArrayLiteral.ofText_render_eq_ok_iff` — what renderings are read as, and when that is what
  was written
-/

namespace PgJson.ArrayLiteral

open Text (IsSpaces StartsFull)

/-! ### Writing -/

/-- The blanks of ASCII: space, tab, line feed, vertical tab, form feed, carriage return. -/
def isAsciiBlank (c : Char) : Bool :=
  c == ' ' || c == '\t' || c == '\n' || c == '\x0B' || c == '\x0C' || c == '\r'

/-- Whether `c` takes part in the syntax of literals. -/
def isSyntax (c : Char) : Bool :=
  c == '"' || c == '\\' || c == '\x7b' || c == '\x7d' || c == ',' || isAsciiBlank c

/-- Whether the server quotes a text. -/
def needsQuotes (t : List Char) : Bool := t.isEmpty || spellsNull t || t.any isSyntax

/-- A character between quotes. -/
def protect (c : Char) : List Char := if c == '"' || c == '\\' then ['\\', c] else [c]

/-- A text as an element. -/
def writeText (t : List Char) : List Char :=
  if needsQuotes t then '"' :: (t.flatMap protect ++ ['"']) else t

mutual

/-- An element. -/
def writeElement : Element → List Char
  | .null => "NULL".toList
  | .text s => writeText s.toList
  | .nested items => '\x7b' :: writeItems items

/-- The elements of an array, with its closing brace. -/
def writeItems : List Element → List Char
  | [] => ['\x7d']
  | e :: es => writeElement e ++ writeMore es

/-- The elements that follow an element, with the closing brace. -/
def writeMore : List Element → List Char
  | [] => ['\x7d']
  | e :: es => ',' :: (writeElement e ++ writeMore es)

end

/-- The bounds of one dimension. -/
def writeBounds (b : Int × Int) : List Char :=
  '[' :: (Json.writeWhole b.1 ++ ':' :: Json.writeWhole b.2 ++ [']'])

/-- The bounds of the dimensions, of which there may be none, in front of an array. -/
def decorate (bounds : List (Int × Int)) : List Char :=
  if bounds.isEmpty then [] else bounds.flatMap writeBounds ++ ['=']

/-- A whole literal. -/
def render (bounds : List (Int × Int)) (items : List Element) : String :=
  String.ofList (decorate bounds ++ '\x7b' :: writeItems items)

/-! ### The texts among the elements -/

mutual

/-- The texts of an element, in reading order. -/
def Element.texts : Element → List String
  | .null => []
  | .text s => [s]
  | .nested items => textsAll items

/-- The texts of all elements, in reading order. -/
def textsAll : List Element → List String
  | [] => []
  | e :: es => e.texts ++ textsAll es

end

/-- A text is quoted, or nothing of it is lost by trimming. -/
def Keeps (t : List Char) : Prop := needsQuotes t = false → Text.trim t = t

/-! ### What a reader makes of the elements -/

/-- What a reader makes of a text: a quoted text is taken as it is, a bare one as a bare run. -/
def receivedText (s : String) : Element :=
  if needsQuotes s.toList then .text s else bareElement s.toList

mutual

/-- What a reader makes of an element. -/
def Element.received : Element → Element
  | .null => .null
  | .text s => receivedText s
  | .nested items => .nested (receivedAll items)

/-- What a reader makes of the elements of an array. -/
def receivedAll : List Element → List Element
  | [] => []
  | e :: es => e.received :: receivedAll es

end

/-! ### When nothing is lost -/

theorem needsQuotes_eq_false {t : List Char} (h : needsQuotes t = false) :
    t ≠ [] ∧ spellsNull t = false ∧ ∀ c ∈ t, isSyntax c = false := by
  simpa [needsQuotes, and_assoc] using h

theorem keeps_iff {t : List Char} : Keeps t ↔ (needsQuotes t = false →
    (∀ c ∈ t.head?, Text.isBlank c = false) ∧ ∀ c ∈ t.getLast?, Text.isBlank c = false) := by
  unfold Keeps
  constructor
  · intro h hq
    obtain ⟨_, _, _, _, _, hhead, hlast⟩ := Text.isTrimOf_iff.mpr (h hq).symm
    exact ⟨hhead, hlast⟩
  · intro h hq
    obtain ⟨hhead, hlast⟩ := h hq
    exact (Text.isTrimOf_iff.mp (Text.isTrimOf_self hhead hlast)).symm

theorem receivedText_eq_iff (s : String) : receivedText s = .text s ↔ Keeps s.toList := by
  unfold receivedText Keeps
  cases hq : needsQuotes s.toList with
  | true => simp
  | false =>
    obtain ⟨-, hnull, -⟩ := needsQuotes_eq_false hq
    rw [if_neg Bool.false_ne_true, bareElement]
    constructor
    · intro h _
      cases ht : spellsNull (Text.trim s.toList) with
      | true => simp [ht] at h
      | false =>
        simp only [ht, Bool.false_eq_true, if_false, Element.text.injEq] at h
        simpa using congrArg String.toList h
    · intro h
      simp [h rfl, hnull]

mutual

theorem Element.received_eq_self_iff : ∀ e : Element,
    e.received = e ↔ ∀ t ∈ e.texts, Keeps t.toList
  | .null => by simp [Element.received, Element.texts]
  | .text s => by
    rw [Element.received, receivedText_eq_iff, Element.texts]
    simp
  | .nested items => by
    rw [Element.received, Element.nested.injEq, receivedAll_eq_self_iff, Element.texts]

/-- Reading keeps all elements exactly if it keeps every text. -/
theorem receivedAll_eq_self_iff : ∀ items : List Element,
    receivedAll items = items ↔ ∀ t ∈ textsAll items, Keeps t.toList
  | [] => by simp [receivedAll, textsAll]
  | e :: es => by
    rw [receivedAll, List.cons.injEq, e.received_eq_self_iff, receivedAll_eq_self_iff, textsAll,
      List.forall_mem_append]

end

/-! ### Texts -/

theorem escaped_protect (t : List Char) : Escaped (t.flatMap protect) t := by
  induction t with
  | nil => exact .nil
  | cons c t ih =>
    rw [List.flatMap_cons]
    by_cases hc : c = '"' ∨ c = '\\'
    · rw [protect, if_pos (by simpa using hc)]
      exact .escape ih
    · rw [protect, if_neg (by simpa using hc)]
      rw [not_or] at hc
      exact .plain hc.1 hc.2 ih

theorem isBare_of_not_isSyntax {c : Char} (h : isSyntax c = false) : isBare c = true := by
  simp only [isSyntax, Bool.or_eq_false_iff, beq_eq_false_iff_ne, ne_eq] at h
  simp [isBare, h]

theorem isSpace_of_not_isSyntax {c : Char} (h : isSyntax c = false) : Text.isSpace c = false := by
  simp only [isSyntax, isAsciiBlank, Bool.or_eq_false_iff] at h
  simp [Text.isSpace, h]

variable {limit : Option Nat}

theorem elementAt_writeText {d : Nat} (s : String) {rest : List Char} (hrest : EndsBare rest) :
    ElementAt limit d (writeText s.toList ++ rest) (receivedText s) rest := by
  rw [receivedText]
  cases hq : needsQuotes s.toList with
  | true =>
    have h : ElementAt limit d _ (.text (String.ofList s.toList)) rest :=
      .quoted (escaped_protect s.toList)
    rw [String.ofList_toList] at h
    rw [writeText, if_pos hq, List.cons_append, List.append_assoc]
    exact h
  | false =>
    obtain ⟨hne, -, hplain⟩ := needsQuotes_eq_false hq
    have hfull : StartsFull s.toList := fun c hc =>
      isSpace_of_not_isSyntax (hplain c (List.mem_of_mem_head? hc))
    rw [writeText, if_neg (by simp [hq])]
    exact .bare hne hfull (fun c hc => isBare_of_not_isSyntax (hplain c hc)) hrest
      (bareValue_iff.mpr rfl)

/-! ### Arrays -/

theorem endsBare_writeMore (es : List Element) (rest : List Char) :
    EndsBare (writeMore es ++ rest) := by
  cases es with
  | nil => simp [EndsBare, writeMore, isBare]
  | cons e es => simp [EndsBare, writeMore, isBare]

theorem depth_le_of_depthAll_le {d : Nat} {e : Element} {es : List Element}
    (h : ∀ n ∈ limit, d + depthAll (e :: es) ≤ n) :
    (∀ n ∈ limit, d + e.depth ≤ n) ∧ ∀ n ∈ limit, d + depthAll es ≤ n := by
  simp only [depthAll] at h
  refine ⟨fun n hn => ?_, fun n hn => ?_⟩
  · have := h n hn
    omega
  · have := h n hn
    omega

mutual

theorem elementAt_writeElement {d : Nat} : ∀ (e : Element) {rest : List Char},
    (∀ n ∈ limit, d + e.depth ≤ n) → EndsBare rest →
    ElementAt limit d (writeElement e ++ rest) e.received rest
  | .null, rest, _, hrest => by
    refine .bare (List.cons_ne_nil _ _) ?_ (List.all_eq_true.mp rfl) hrest ?_
    · simp [writeElement, Text.isSpace]
    · exact .null (Text.isTrimOf_iff.mpr rfl) rfl
  | .text s, rest, _, hrest => elementAt_writeText s hrest
  | .nested items, rest, hdepth, _ =>
    .nested (arrayAt_writeItems items fun n hn => by
      have := hdepth n hn
      rw [Element.depth] at this
      omega)

theorem moreAt_writeMore {d : Nat} : ∀ (es : List Element) {rest : List Char},
    (∀ n ∈ limit, d + depthAll es ≤ n) →
    MoreAt limit d (writeMore es ++ rest) (receivedAll es) ('\x7d' :: rest)
  | [], rest, _ => .nil
  | e :: es, rest, hdepth => by
    obtain ⟨he, hes⟩ := depth_le_of_depthAll_le hdepth
    have hfirst := elementAt_writeElement e he (endsBare_writeMore es rest)
    have hall := MoreAt.cons Text.isSpaces_nil Text.isSpaces_nil hfirst (moreAt_writeMore es hes)
    rw [writeMore, List.cons_append, List.append_assoc]
    exact hall

theorem arrayAt_writeItems {d : Nat} : ∀ (items : List Element) {rest : List Char},
    (∀ n ∈ limit, d + depthAll items ≤ n) →
    ArrayAt limit d ('\x7b' :: writeItems items ++ rest) (receivedAll items) rest
  | [], rest, hdepth => .empty hdepth Text.isSpaces_nil
  | e :: es, rest, hdepth => by
    obtain ⟨he, hes⟩ := depth_le_of_depthAll_le hdepth
    have hd : ∀ n ∈ limit, d ≤ n := fun n hn => (Nat.le_add_right d e.depth).trans (he n hn)
    have hfirst := elementAt_writeElement e he (endsBare_writeMore es rest)
    have hall := ArrayAt.cons hd Text.isSpaces_nil hfirst (moreAt_writeMore es hes)
      Text.isSpaces_nil
    rw [writeItems, List.cons_append, List.append_assoc]
    exact hall

end

/-! ### Bounds -/

theorem isBound_of_mem_writeWhole {n : Int} {c : Char} (hc : c ∈ Json.writeWhole n) :
    isBound c = true := by
  have hdigit : ∀ m : Nat, c ∈ Nat.toDigits 10 m → isBound c = true := fun m hm => by
    simp [isBound, Nat.isDigit_of_mem_toDigits (by decide) (by decide) hm]
  rw [Json.writeWhole] at hc
  split at hc
  · rcases List.mem_cons.mp hc with rfl | hc
    · rfl
    · exact hdigit _ hc
  · exact hdigit _ hc

theorem decoration_decorate (bounds : List (Int × Int)) : Decoration (decorate bounds) := by
  have hbounds : ∀ (bs : List (Int × Int)), bs ≠ [] → Bounds (bs.flatMap writeBounds) := by
    intro bs hbs
    induction bs with
    | nil => exact absurd rfl hbs
    | cons b bs ih =>
      have hb : ∀ c ∈ Json.writeWhole b.1 ++ ':' :: Json.writeWhole b.2, isBound c = true := by
        intro c hc
        simp only [List.mem_append, List.mem_cons] at hc
        rcases hc with hc | rfl | hc
        · exact isBound_of_mem_writeWhole hc
        · rfl
        · exact isBound_of_mem_writeWhole hc
      rw [List.flatMap_cons, writeBounds]
      cases bs with
      | nil =>
        rw [List.flatMap_nil, List.append_nil]
        exact .last hb
      | cons b' bs =>
        rw [List.cons_append, List.append_assoc]
        exact .cons hb (ih (List.cons_ne_nil _ _))
  cases bounds with
  | nil => exact .none
  | cons b bs => exact .bounds (hbounds (b :: bs) (List.cons_ne_nil _ _))

/-! ### Whole literals -/

theorem literal_render (bounds : List (Int × Int)) {items : List Element}
    (hlevels : ∀ n ∈ limit, levels items ≤ n) :
    Literal limit (render bounds items).toList (receivedAll items) := by
  have harray : ArrayAt limit 1 ('\x7b' :: writeItems items ++ []) (receivedAll items) [] :=
    arrayAt_writeItems items fun n hn => by
      have := hlevels n hn
      rw [levels] at this
      omega
  rw [List.append_nil] at harray
  rw [render, String.toList_ofList]
  exact .intro Text.isSpaces_nil (decoration_decorate bounds) harray Text.isSpaces_nil

/-- Every rendering is read, up to the limit on levels. -/
theorem ofText_render_eq_received (bounds : List (Int × Int)) {items : List Element}
    (hlevels : levels items ≤ 6) : ofText (render bounds items) = .ok (receivedAll items) :=
  readLiteral_eq_ok_iff.mpr <| literal_render bounds fun n hn => by
    rw [Option.mem_def, Option.some.injEq] at hn
    exact hn ▸ hlevels

/-- Reading undoes writing, up to the limit on levels, when no blank is lost. -/
theorem ofText_render (bounds : List (Int × Int)) {items : List Element}
    (htexts : ∀ t ∈ textsAll items, Keeps t.toList) (hlevels : levels items ≤ 6) :
    ofText (render bounds items) = .ok items := by
  rw [ofText_render_eq_received bounds hlevels, (receivedAll_eq_self_iff items).mpr htexts]

/-- **Reading undoes writing exactly when no bare text begins or ends with a blank.** Every list of
elements with at most six levels, whatever its texts and whatever the bounds in front, is rendered
as a literal that is read; what is read has the same shape, the same null elements and the same
quoted texts, and only a bare text can differ, by the blanks at its ends. -/
theorem ofText_render_eq_ok_iff (bounds : List (Int × Int)) {items : List Element}
    (hlevels : levels items ≤ 6) :
    ofText (render bounds items) = .ok (receivedAll items) ∧
      (ofText (render bounds items) = .ok items ↔
        ∀ t ∈ textsAll items, needsQuotes t.toList = false →
          (∀ c ∈ t.toList.head?, Text.isBlank c = false) ∧
            ∀ c ∈ t.toList.getLast?, Text.isBlank c = false) := by
  have hread := ofText_render_eq_received bounds hlevels
  refine ⟨hread, ?_⟩
  rw [hread, Except.ok.injEq, receivedAll_eq_self_iff]
  exact forall₂_congr fun t _ => keeps_iff

/-- Texts of all sorts that are read back: a null element, an empty text, a word that would be null,
a no-break space inside a bare text, and one at the end of a quoted text. -/
theorem ofText_render_eq_ok_iff_inner_blank :
    ofText (render [(0, 3)] [.null, .text "", .nested [.text "Null"], .text "a\u00a0b",
        .text "c \u00a0"]) =
      .ok [.null, .text "", .nested [.text "Null"], .text "a\u00a0b", .text "c \u00a0"] := by
  refine (ofText_render_eq_ok_iff [(0, 3)] (by decide)).2.mpr ?_
  simp [textsAll, Element.texts, needsQuotes, spellsNull, isSyntax, isAsciiBlank, Text.isBlank]

/-- A no-break space at either end of a bare text is lost, and with it a text that is null without
it. -/
theorem ofText_render_noBreakSpace :
    levels [.text "\u00a0x", .text "NULL\u00a0"] ≤ 6 ∧
      (∀ t ∈ textsAll [.text "\u00a0x", .text "NULL\u00a0"], '\x00' ∉ t.toList) ∧
      render [] [.text "\u00a0x", .text "NULL\u00a0"] = "\x7b\u00a0x,NULL\u00a0\x7d" ∧
      ofText "\x7b\u00a0x,NULL\u00a0\x7d" = .ok [.text "x", .null] ∧
      ofText (render [] [.text "\u00a0x", .text "NULL\u00a0"]) ≠
        .ok [.text "\u00a0x", .text "NULL\u00a0"] := by
  have hwritten : render [] [.text "\u00a0x", .text "NULL\u00a0"] =
      "\x7b\u00a0x,NULL\u00a0\x7d" := rfl
  have hread : ofText "\x7b\u00a0x,NULL\u00a0\x7d" = .ok [.text "x", .null] := rfl
  refine ⟨by decide, by decide, hwritten, hread, fun h => ?_⟩
  rw [hwritten, hread] at h
  simp at h

end PgJson.ArrayLiteral
