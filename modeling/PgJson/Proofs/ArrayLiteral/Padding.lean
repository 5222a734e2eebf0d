import PgJson.Proofs.ArrayLiteral.Entry
import PgJson.Proofs.ArrayLiteral.Structure

/-!
# Spaces around braces and commas

Spaces beside the braces and commas of a literal mean nothing. Inserting them is said without the
grammar: outside of quotes every brace and every comma may get spaces on both sides, and all other
characters stay as they are.

The grammar has spaces between tokens, but not as part of a token. So an element is followed across
the insertion together with the spaces that it may have got in front of it and behind it. A bare run
is the exception: it takes in the spaces at its end, and trimming takes them away again.

There is one place where spaces do matter. Nothing may stand between the bounds of the dimensions
and the first brace, so a literal that gets spaces there is no literal any more, and this is the
only way to lose it.

## Main definitions

* `PgJson.ArrayLiteral.isMark` — braces and commas
* `PgJson.ArrayLiteral.Padded` — a text with spaces inserted around its braces and commas
* `PgJson.ArrayLiteral.Detached` — some of them stand behind the bounds of the dimensions

## Main results

* `PgJson.ArrayLiteral.ElementAt.padded`, `MoreAt.padded`, `ArrayAt.padded` — what becomes of the
  parts of a literal
* `PgJson.ArrayLiteral.Literal.padded` — what becomes of a literal
* `PgJson.ArrayLiteral.ofText_padded_eq_ok_iff` — the same elements, unless bounds are detached
-/

namespace PgJson.ArrayLiteral

open Text (IsSpaces IsTrimOf Mode byteSize skipSpaces)

/-- Braces and commas. -/
def isMark (c : Char) : Bool := c == ',' || c == '\x7b' || c == '\x7d'

/-- `Padded m s t` says that `t` is `s` with spaces inserted on either side of braces and commas,
outside of quotes. The mode is that of a scanner for quotes in front of `s`. -/
inductive Padded : Mode → List Char → List Char → Prop
  | nil {m : Mode} : Padded m [] []
  | keep {m : Mode} {c : Char} {s t : List Char} (h : Padded (m.next c) s t) :
    Padded m (c :: s) (c :: t)
  | mark {c : Char} {b b' s t : List Char} (hc : isMark c = true) (hb : IsSpaces b)
    (hb' : IsSpaces b') (h : Padded .outside s t) : Padded .outside (c :: s) (b ++ c :: (b' ++ t))

/-! ### Marks -/

theorem isMark_eq_false_of_isBare {c : Char} (hc : isBare c = true) : isMark c = false := by
  simp only [isBare, Bool.and_eq_true, bne_iff_ne, ne_eq] at hc
  simp [isMark, hc]

theorem isMark_of_isBare_eq_false {c : Char} (hc : isBare c = false) (hq : c ≠ '"') :
    isMark c = true := by
  simpa [isBare, isMark, hq, or_assoc, imp_iff_not_or] using hc

theorem ne_quote_of_isMark {c : Char} (hc : isMark c = true) : c ≠ '"' := by
  rintro rfl
  cases hc

/-! ### What is inserted, and what is kept -/

theorem Padded.append_left {s t : List Char} : ∀ {m : Mode} (u : List Char),
    Padded (m.after u) s t → Padded m (u ++ s) (u ++ t)
  | _, [], h => h
  | _, _ :: u, h => .keep (h.append_left u)

theorem Padded.exists_of_mark {c : Char} {s t : List Char} (h : Padded .outside (c :: s) t)
    (hc : isMark c = true) : ∃ b b' t', IsSpaces b ∧ IsSpaces b' ∧ t = b ++ c :: (b' ++ t') ∧
      Padded .outside s t' := by
  cases h with
  | keep h =>
    rw [Mode.outside_next (ne_quote_of_isMark hc)] at h
    exact ⟨[], [], _, Text.isSpaces_nil, Text.isSpaces_nil, rfl, h⟩
  | mark _ hb hb' h => exact ⟨_, _, _, hb, hb', rfl, h⟩

theorem Padded.exists_of_keep {m : Mode} {c : Char} {s t : List Char} (h : Padded m (c :: s) t)
    (hc : m = .outside → isMark c = false) : ∃ t', t = c :: t' ∧ Padded (m.next c) s t' := by
  cases h with
  | keep h => exact ⟨_, rfl, h⟩
  | mark hmark _ _ _ =>
    rw [hc rfl] at hmark
    cases hmark

/-- Bare characters, spaces among them, are kept. -/
theorem Padded.exists_of_bare {run s t : List Char} (hrun : ∀ c ∈ run, isBare c = true)
    (h : Padded .outside (run ++ s) t) : ∃ t', t = run ++ t' ∧ Padded .outside s t' := by
  induction run generalizing t with
  | nil => exact ⟨t, rfl, h⟩
  | cons c run ih =>
    rw [List.forall_mem_cons] at hrun
    obtain ⟨t', rfl, hrest⟩ := h.exists_of_keep fun _ => isMark_eq_false_of_isBare hrun.1
    rw [Mode.outside_next (ne_quote_of_isBare hrun.1)] at hrest
    obtain ⟨u, rfl, hu⟩ := ih hrun.2 hrest
    exact ⟨u, rfl, hu⟩

theorem Padded.exists_of_spaces {b s t : List Char} (hb : IsSpaces b)
    (h : Padded .outside (b ++ s) t) : ∃ t', t = b ++ t' ∧ Padded .outside s t' :=
  h.exists_of_bare fun c hc => isBare_of_isSpace (hb c hc)

/-- Spaces, then a brace or a comma, and spaces again: there may only be more of them. -/
theorem Padded.exists_of_spaces_mark {b s t : List Char} {c : Char} (hb : IsSpaces b)
    (hc : isMark c = true) (h : Padded .outside (b ++ c :: s) t) :
    ∃ u u' t', IsSpaces u ∧ IsSpaces u' ∧ t = u ++ c :: (u' ++ t') ∧ Padded .outside s t' := by
  obtain ⟨t₁, rfl, h₁⟩ := h.exists_of_spaces hb
  obtain ⟨u, u', t', hu, hu', rfl, hs⟩ := h₁.exists_of_mark hc
  exact ⟨b ++ u, u', t', Text.isSpaces_append.mpr ⟨hb, hu⟩, hu', by simp, hs⟩

/-- Quoted text is kept up to its closing quote. -/
theorem Padded.exists_of_escaped {body u s t : List Char} (hbody : Escaped body u)
    (h : Padded .inside (body ++ '"' :: s) t) : ∃ t', t = body ++ '"' :: t' ∧
      Padded .outside s t' := by
  have hkeep : ∀ {c : Char}, Mode.inside = .outside → isMark c = false := nofun
  induction hbody generalizing t with
  | nil => exact h.exists_of_keep hkeep
  | plain hq hb _ ih =>
    obtain ⟨t₁, rfl, h₁⟩ := h.exists_of_keep hkeep
    rw [Mode.inside_next hq hb] at h₁
    obtain ⟨t', rfl, hs⟩ := ih h₁
    exact ⟨t', rfl, hs⟩
  | escape _ ih =>
    obtain ⟨t₁, rfl, h₁⟩ := h.exists_of_keep hkeep
    obtain ⟨t₂, rfl, h₂⟩ := h₁.exists_of_keep nofun
    obtain ⟨t', rfl, hs⟩ := ih h₂
    exact ⟨t', rfl, hs⟩

/-- Where a bare run ends it may get spaces, and behind them it would end as well. -/
theorem Padded.exists_of_endsBare {s t : List Char} (h : Padded .outside s t) (hs : EndsBare s) :
    ∃ b t', IsSpaces b ∧ t = b ++ t' ∧ EndsBare t' ∧ Padded .outside s t' := by
  cases s with
  | nil => exact ⟨[], t, Text.isSpaces_nil, rfl, by cases h; simp [EndsBare], h⟩
  | cons c s =>
    have hc : isBare c = false := hs c rfl
    have hends : ∀ r, EndsBare (c :: r) := fun r x hx => by cases hx; exact hc
    by_cases hq : c = '"'
    · obtain ⟨t', rfl, -⟩ := h.exists_of_keep fun _ => by rw [hq]; rfl
      exact ⟨[], c :: t', Text.isSpaces_nil, rfl, hends t', h⟩
    · have hmark := isMark_of_isBare_eq_false hc hq
      obtain ⟨b, b', t', hb, hb', rfl, hrest⟩ := h.exists_of_mark hmark
      exact ⟨b, c :: (b' ++ t'), hb, rfl, hends _, .mark hmark Text.isSpaces_nil hb' hrest⟩

/-! ### The parts of a literal -/

/-- Behind spaces, `t` has at its front what `reads` describes, and it leaves spaces and then `rest`
as it has been padded. -/
def Survives (reads : List Char → List Char → Prop) (rest t : List Char) : Prop :=
  ∃ b s b' r, IsSpaces b ∧ IsSpaces b' ∧ t = b ++ s ∧ reads s (b' ++ r) ∧ Padded .outside rest r

theorem BareValue.append_spaces {run b : List Char} {e : Element} (h : BareValue run e)
    (hb : IsSpaces b) : BareValue (run ++ b) e := by
  have htrim : ∀ {t}, IsTrimOf t run → IsTrimOf t (run ++ b) := by
    rintro t ⟨a, a', rfl, ha, ha', hends⟩
    refine ⟨a, a' ++ b, by simp, ha, ?_, hends⟩
    rw [List.forall_mem_append]
    exact ⟨ha', fun c hc => Text.isBlank_of_isSpace (hb c hc)⟩
  cases h with
  | null ht hn => exact .null (htrim ht) hn
  | text ht hn => exact .text (htrim ht) hn

variable {limit : Option Nat}

mutual

theorem ElementAt.padded {d : Nat} {s rest : List Char} {e : Element} :
    ElementAt limit d s e rest → ∀ {t : List Char}, Padded .outside s t →
      Survives (fun s' rest' => ElementAt limit d s' e rest') rest t
  | .nested h, t, ht => by
    obtain ⟨b, s', b', r, hb, hb', rfl, harray, hr⟩ := h.padded ht
    exact ⟨b, s', b', r, hb, hb', rfl, .nested harray, hr⟩
  | @ElementAt.quoted _ _ body u rest h, t, ht => by
    obtain ⟨t₁, rfl, ht₁⟩ := ht.exists_of_keep fun _ => rfl
    obtain ⟨r, rfl, hr⟩ := ht₁.exists_of_escaped h
    exact ⟨[], _, [], r, Text.isSpaces_nil, Text.isSpaces_nil, rfl, .quoted h, hr⟩
  | @ElementAt.bare _ _ run rest e hne hfull hrun hmax he, t, ht => by
    obtain ⟨t₁, rfl, ht₁⟩ := ht.exists_of_bare hrun
    obtain ⟨b, r, hb, rfl, hends, hr⟩ := ht₁.exists_of_endsBare hmax
    have hbare : ElementAt limit d (run ++ b ++ r) e r := by
      refine .bare (by simp [hne]) ?_ ?_ hends (he.append_spaces hb)
      · obtain ⟨c, run', rfl⟩ := List.exists_cons_of_ne_nil hne
        exact Text.startsFull_cons.mpr (Text.startsFull_cons.mp hfull)
      · rw [List.forall_mem_append]
        exact ⟨hrun, fun c hc => isBare_of_isSpace (hb c hc)⟩
    exact ⟨[], _, [], r, Text.isSpaces_nil, Text.isSpaces_nil, by simp, hbare, hr⟩

/-- The spaces behind the element before are taken along. -/
theorem MoreAt.padded {d : Nat} {s rest : List Char} {es : List Element} :
    MoreAt limit d s es rest → ∀ {b t : List Char}, IsSpaces b → Padded .outside s t →
      ∃ b' r, IsSpaces b' ∧ MoreAt limit d (b ++ t) es (b' ++ r) ∧ Padded .outside rest r
  | .nil, b, t, hb, ht => ⟨b, t, hb, .nil, ht⟩
  | @MoreAt.cons _ _ c c' s s' rest e es hc hc' he hes, b, t, hb, ht => by
    obtain ⟨u, u', t₁, hu, hu', rfl, ht₁⟩ := ht.exists_of_spaces_mark hc rfl
    obtain ⟨t₂, rfl, ht₂⟩ := ht₁.exists_of_spaces hc'
    obtain ⟨v, t₃, v', r₁, hv, hv', rfl, hfirst, hr₁⟩ := he.padded ht₂
    obtain ⟨w, r, hw, hmore, hr⟩ := hes.padded hv' hr₁
    have hfront : IsSpaces (b ++ u) := by simp [hb, hu]
    have hbehind : IsSpaces (u' ++ (c' ++ v)) := by simp [hu', hc', hv]
    have hall := MoreAt.cons hfront hbehind hfirst hmore
    exact ⟨w, r, hw, by simpa using hall, hr⟩

theorem ArrayAt.padded {d : Nat} {s rest : List Char} {items : List Element} :
    ArrayAt limit d s items rest → ∀ {t : List Char}, Padded .outside s t →
      Survives (fun s' rest' => ArrayAt limit d s' items rest') rest t
  | @ArrayAt.empty _ _ b rest hd hb, t, ht => by
    obtain ⟨u, u', t₁, hu, hu', rfl, ht₁⟩ := ht.exists_of_mark rfl
    obtain ⟨v, v', r, hv, hv', rfl, hr⟩ := ht₁.exists_of_spaces_mark hb rfl
    have hinner : IsSpaces (u' ++ v) := by simp [hu', hv]
    have hall : ArrayAt limit d ('\x7b' :: (u' ++ v ++ '\x7d' :: (v' ++ r))) [] (v' ++ r) :=
      .empty hd hinner
    exact ⟨u, _, v', r, hu, hv', rfl, by simpa using hall, hr⟩
  | @ArrayAt.cons _ _ b b' s s' rest e es hd hb he hes hb', t, ht => by
    obtain ⟨u, u', t₁, hu, hu', rfl, ht₁⟩ := ht.exists_of_mark rfl
    obtain ⟨t₂, rfl, ht₂⟩ := ht₁.exists_of_spaces hb
    obtain ⟨v, t₃, v', r₁, hv, hv', rfl, hfirst, hr₁⟩ := he.padded ht₂
    obtain ⟨w, r₂, hw, hmore, hr₂⟩ := hes.padded hv' hr₁
    obtain ⟨x, x', r, hx, hx', rfl, hr⟩ := hr₂.exists_of_spaces_mark hb' rfl
    have hopen : IsSpaces (u' ++ (b ++ v)) := by simp [hu', hb, hv]
    have hclose : IsSpaces (w ++ x) := by simp [hw, hx]
    rw [← List.append_assoc] at hmore
    have hall := ArrayAt.cons hd hopen hfirst hmore hclose
    exact ⟨u, _, x', r, hu, hx', rfl, by simpa using hall, hr⟩

end

/-! ### Whole literals -/

/-- `s` begins with `front`, which is spaces, bounds and an equals sign, and a brace behind it; `t`
begins with `front` as well, but has spaces in front of the brace. -/
structure Detached (front s t : List Char) : Prop where
  decorated : ∃ b ds, IsSpaces b ∧ Bounds ds ∧ front = b ++ (ds ++ ['='])
  attached : ∃ r, s = front ++ '\x7b' :: r
  detached : ∃ gap r, IsSpaces gap ∧ gap ≠ [] ∧ t = front ++ (gap ++ '\x7b' :: r)

/-- A literal stays one, with the same elements, unless its bounds are detached. -/
theorem Literal.padded {text t : List Char} {items : List Element}
    (h : Literal limit text items) (ht : Padded .outside text t) :
    Literal limit t items ∨ ∃ front, Detached front text t := by
  obtain @⟨b, deco, s, b', _, hb, hdeco, harray, hb'⟩ := h
  rw [List.append_assoc] at ht
  obtain ⟨t₁, rfl, ht₁⟩ := ht.exists_of_spaces hb
  obtain ⟨t₂, rfl, ht₂⟩ := ht₁.exists_of_bare hdeco.forall_isBare
  obtain ⟨gap, s', v, r, hgap, hv, rfl, harray', hr⟩ := harray.padded ht₂
  -- Nothing but spaces was behind the array, so they have been kept.
  obtain ⟨r', rfl, hnil⟩ := Padded.exists_of_spaces (s := []) hb' (by simpa using hr)
  cases hnil
  have hend : IsSpaces (v ++ (b' ++ [])) := by simp [hv, hb']
  cases hdeco with
  | none =>
    have hfront : IsSpaces (b ++ gap) := by simp [hb, hgap]
    have hall := Literal.intro hfront .none harray' hend
    exact .inl (by simpa using hall)
  | @bounds ds hds =>
    by_cases hnone : gap = []
    · subst hnone
      have hall := Literal.intro hb (.bounds hds) harray' hend
      exact .inl (by simpa using hall)
    · obtain ⟨u, rfl⟩ := harray.exists_eq_cons
      obtain ⟨u', rfl⟩ := harray'.exists_eq_cons
      exact .inr ⟨b ++ (ds ++ ['=']), ⟨b, ds, hb, hds, rfl⟩, ⟨u, by simp⟩,
        ⟨gap, u', hgap, hnone, by simp⟩⟩

/-- An array begins with a brace. -/
theorem readArray_of_ne_brace {c : Char} (hc : c ≠ '\x7b') (s : List Char) (steps d : Nat) :
    readArray limit steps d (c :: s) = .mismatch (c :: s) := by
  cases steps with
  | zero => rfl
  | succ steps =>
    unfold readArray
    split
    · next heq => exact absurd (List.cons.inj heq).1 hc
    · rfl

/-- With its bounds detached a text is refused, at the first space behind them. -/
theorem Detached.readLiteral_eq {front s t : List Char} (h : Detached front s t) :
    readLiteral limit t = .error (.arrayLiteral (byteSize front) .characterExpected) := by
  obtain ⟨⟨b, ds, hb, hds, rfl⟩, -, gap, r, hgap, hne, rfl⟩ := h
  obtain ⟨c, gap, rfl⟩ := List.exists_cons_of_ne_nil hne
  have hc : c ≠ '\x7b' := by
    rintro rfl
    cases (Text.isSpaces_cons.mp hgap).1
  have hlead : LeadsTo (b ++ (ds ++ ['='])) (c :: (gap ++ '\x7b' :: r)) := by
    refine .intro hb (.bounds hds) ?_ (by simp)
    obtain ⟨u, rfl⟩ := hds.exists_eq_cons
    simp [Text.isSpace]
  have hbody := hlead.dropBounds_skipSpaces
  rw [List.cons_append]
  simp only [readLiteral, hbody, readArray_of_ne_brace hc]
  rw [Text.byteSize_append, Nat.add_sub_cancel]

/-- Only a literal with bounds has something to be detached. -/
theorem Detached.head?_skipSpaces {front s t : List Char} (h : Detached front s t) :
    (skipSpaces s).head? = some '[' := by
  obtain ⟨⟨b, ds, hb, hds, rfl⟩, ⟨r, rfl⟩, -⟩ := h
  obtain ⟨u, rfl⟩ := hds.exists_eq_cons
  rw [List.append_assoc, Text.skipSpaces_append hb]
  rfl

/-- **Spaces around braces and commas mean nothing, but behind bounds.** Whatever spaces are
inserted into a literal, on either side of its braces and commas and outside of quotes, it is read
as the same elements, unless spaces come to stand between the bounds of its dimensions and its first
brace; then it is refused there. In particular nothing can happen to a literal without bounds. -/
theorem ofText_padded_eq_ok_iff {text t : String} {items : List Element}
    (h : ofText text = .ok items) (ht : Padded .outside text.toList t.toList) :
    (ofText t = .ok items ↔ ∀ front, ¬Detached front text.toList t.toList) ∧
      (∀ front, Detached front text.toList t.toList →
        ofText t = .error (.arrayLiteral (byteSize front) .characterExpected)) ∧
      ((skipSpaces text.toList).head? ≠ some '[' → ofText t = .ok items) := by
  have hrefused : ∀ front, Detached front text.toList t.toList →
      ofText t = .error (.arrayLiteral (byteSize front) .characterExpected) :=
    fun _ hdetached => hdetached.readLiteral_eq
  have hread : (∀ front, ¬Detached front text.toList t.toList) → ofText t = .ok items := by
    intro hnone
    rcases (readLiteral_eq_ok_iff.mp h).padded ht with hlit | ⟨front, hdetached⟩
    · exact readLiteral_eq_ok_iff.mpr hlit
    · exact absurd hdetached (hnone front)
  refine ⟨⟨fun hok front hdetached => ?_, hread⟩, hrefused, fun hhead => hread ?_⟩
  · rw [hrefused front hdetached] at hok
    cases hok
  · exact fun front hdetached => hhead hdetached.head?_skipSpaces

/-- Spaces beside a brace and a comma, but not beside the comma between quotes. -/
theorem ofText_padded_eq_ok_iff_quoted :
    ofText "\x7ba,\",\"\x7d" = .ok [.text "a", .text ","] ∧
    Padded .outside "\x7ba,\",\"\x7d".toList "\x7b\ta \n, \",\"\x7d ".toList ∧
    ofText "\x7b\ta \n, \",\"\x7d " = .ok [.text "a", .text ","] := by
  have hread : ofText "\x7ba,\",\"\x7d" = .ok [.text "a", .text ","] := rfl
  have htab : IsSpaces ['\t'] := by simp [Text.isSpace]
  have hline : IsSpaces [' ', '\n'] := by simp [Text.isSpace]
  have hspace : IsSpaces [' '] := by simp [Text.isSpace]
  have hpadded : Padded .outside "\x7ba,\",\"\x7d".toList "\x7b\ta \n, \",\"\x7d ".toList :=
    @Padded.mark '\x7b' _ _ _ _ rfl Text.isSpaces_nil htab <|
      .keep <| @Padded.mark ',' _ _ _ _ rfl hline hspace <|
        .append_left ['"', ',', '"'] <|
          @Padded.mark '\x7d' _ _ _ _ rfl Text.isSpaces_nil hspace .nil
  exact ⟨hread, hpadded, (ofText_padded_eq_ok_iff hread hpadded).2.2 (by decide)⟩

/-- A space behind the bounds of a literal is the end of it. -/
theorem ofText_bounds_space :
    ofText "[1:2]=\x7b1,2\x7d" = .ok [.text "1", .text "2"] ∧
    Padded .outside "[1:2]=\x7b1,2\x7d".toList "[1:2]= \x7b1,2\x7d".toList ∧
    ofText "[1:2]= \x7b1,2\x7d" = .error (.arrayLiteral 6 .characterExpected) := by
  have hspace : IsSpaces [' '] := by simp [Text.isSpace]
  refine ⟨rfl, .append_left "[1:2]=".toList ?_, rfl⟩
  exact @Padded.mark '\x7b' _ _ _ _ rfl hspace Text.isSpaces_nil <|
    .append_left "1,2\x7d".toList .nil

end PgJson.ArrayLiteral
