import PgJson.Proofs.ArrayLiteral.Acceptance
import PgJson.Proofs.ArrayLiteral.Extent

/-!
# Where elements may begin

A text need not be a literal for its front to read as the front of one. `EntryAt limit body d s`
says that an element may begin where `s` is left of `body`: inside `d` open braces, behind a brace
or a comma, with everything before it in order. The level zero stands for the text as a whole, in
which the first array begins.

From every such place on a text can be finished: close what has begun, then the open braces.

## Main definitions

* `PgJson.ArrayLiteral.LeadsTo` — what stands in front of the first brace
* `PgJson.ArrayLiteral.EntryAt` — the places where an element may begin
* `PgJson.ArrayLiteral.Finishes` — texts that finish a literal from such a place on

## Main results

* `PgJson.ArrayLiteral.exists_leadsTo`, `LeadsTo.dropBounds_skipSpaces` — the front of a text
* `PgJson.ArrayLiteral.EntryAt.exists_extent` — finishing at a place finishes the whole literal
-/

namespace PgJson.ArrayLiteral

open Text (IsSpaces StartsFull Mode skipSpaces)

variable {limit : Option Nat}

/-! ### In front of the first brace -/

/-- The first of two texts is all that may stand in front of an array: the spaces, and the
decoration if there is a whole one. -/
inductive LeadsTo : List Char → List Char → Prop
  | intro {b deco body : List Char} (hb : IsSpaces b) (hdeco : Decoration deco)
    (hfull : StartsFull (deco ++ body))
    (hmax : deco = [] → ∀ ds r, Bounds ds → body ≠ ds ++ '=' :: r) : LeadsTo (b ++ deco) body

theorem exists_leadsTo (text : List Char) : ∃ lead, LeadsTo lead (dropBounds (skipSpaces text)) ∧
    text = lead ++ dropBounds (skipSpaces text) := by
  obtain ⟨b, hb, htext⟩ := Text.exists_spaces text
  obtain ⟨deco, hdeco, hbody⟩ := exists_decoration (skipSpaces text)
  refine ⟨b ++ deco, .intro hb hdeco ?_ ?_, ?_⟩
  · rw [← hbody]
    exact Text.startsFull_skipSpaces text
  · -- If bounds were left they would have been dropped, so that less than the whole is the whole.
    rintro rfl ds r hds hleft
    rw [List.nil_append] at hbody
    have hdrop := dropBounds_bounds hds r
    rw [← hleft, ← hbody] at hdrop
    have hlength := congrArg List.length (hdrop.symm.trans hleft)
    simp only [List.length_append, List.length_cons] at hlength
    omega
  · rw [List.append_assoc, ← hbody, ← htext]

/-- A text has one front only. -/
theorem LeadsTo.dropBounds_skipSpaces {lead body : List Char} (h : LeadsTo lead body) :
    dropBounds (skipSpaces (lead ++ body)) = body := by
  obtain ⟨hb, hdeco, hfull, hmax⟩ := h
  rw [List.append_assoc, Text.skipSpaces_append_of_startsFull hb hfull]
  cases hdeco with
  | none =>
    obtain ⟨deco, hdeco, hbody⟩ := exists_decoration body
    cases hdeco with
    | none => exact hbody.symm
    | bounds hds =>
      rw [List.append_assoc, List.singleton_append] at hbody
      exact absurd hbody (hmax rfl _ _ hds)
  | bounds hds =>
    rw [List.append_assoc, List.singleton_append]
    exact dropBounds_bounds hds body

/-- The front of a text may stand in front of any array. -/
theorem LeadsTo.literal {lead body s b' : List Char} {items : List Element}
    (h : LeadsTo lead body) (hs : ArrayAt limit 1 s items b') (hb' : IsSpaces b') :
    Literal limit (lead ++ s) items := by
  obtain ⟨hb, hdeco, -, -⟩ := h
  exact .intro hb hdeco hs hb'

/-! ### Places -/

/-- An element may begin at `s`, inside `d` braces that `body` has opened before and not closed. -/
inductive EntryAt (limit : Option Nat) (body : List Char) : Nat → List Char → Prop
  | start : EntryAt limit body 0 body
  /-- Behind a brace. -/
  | first {d : Nat} {b s : List Char} (h : EntryAt limit body d ('\x7b' :: (b ++ s)))
    (hd : ∀ n ∈ limit, d + 1 ≤ n) (hb : IsSpaces b) (hs : StartsFull s) :
    EntryAt limit body (d + 1) s
  /-- Behind an element and a comma. -/
  | next {d : Nat} {b b' s r : List Char} {e : Element} (h : EntryAt limit body (d + 1) s)
    (he : ElementAt limit (d + 1) s e (b ++ ',' :: (b' ++ r))) (hb : IsSpaces b)
    (hb' : IsSpaces b') (hr : StartsFull r) : EntryAt limit body (d + 1) r

theorem EntryAt.le_limit {body s : List Char} {d : Nat} (h : EntryAt limit body d s) :
    ∀ n ∈ limit, d ≤ n := by
  induction h with
  | start => exact fun n _ => Nat.zero_le n
  | first _ hd _ _ _ => exact hd
  | next _ _ _ _ _ ih => exact ih

/-- Inside a brace, the text begins with one. -/
theorem EntryAt.exists_eq_cons {body s : List Char} {d : Nat} (h : EntryAt limit body d s)
    (hd : d ≠ 0) : ∃ r, body = '\x7b' :: r := by
  induction h with
  | start => exact absurd rfl hd
  | @first d b s h _ _ _ ih =>
    cases d with
    | zero =>
      cases h
      exact ⟨_, rfl⟩
    | succ d => exact ih (Nat.succ_ne_zero d)
  | next _ _ _ _ _ ih => exact ih hd

/-! ### Finishing a literal -/

/-- `s` begins with elements of level `d` and then closes the `d` open braces. -/
def Finishes (limit : Option Nat) : Nat → List Char → Prop
  | 0, s => ∃ items, ArrayAt limit 1 s items []
  | d + 1, s => ∃ e es s', ElementAt limit (d + 1) s e s' ∧
    MoreAt limit (d + 1) s' es (List.replicate (d + 1) '\x7d')

/-- Two quotes make an element, and a brace for each level does the rest. -/
theorem finishes_quotes (d : Nat) :
    Finishes limit (d + 1) ('"' :: '"' :: List.replicate (d + 1) '\x7d') :=
  ⟨_, [], _, .quoted .nil, .nil⟩

theorem Finishes.nested {d : Nat} {b s : List Char} (h : Finishes limit (d + 1) s)
    (hd : ∀ n ∈ limit, d + 1 ≤ n) (hb : IsSpaces b) : Finishes limit d ('\x7b' :: (b ++ s)) := by
  obtain ⟨e, es, s', he, hes⟩ := h
  have harray : ArrayAt limit (d + 1) ('\x7b' :: (b ++ s)) (e :: es) (List.replicate d '\x7d') :=
    .cons hd hb he hes Text.isSpaces_nil
  cases d with
  | zero => exact ⟨_, harray⟩
  | succ d => exact ⟨_, [], _, .nested harray, .nil⟩

/-- What stands in front of a place has no open quote, and whatever finishes a literal from the
place on finishes the whole. -/
theorem EntryAt.exists_extent {body s : List Char} {d : Nat} (h : EntryAt limit body d s) :
    ∃ u, body = u ++ s ∧ Mode.outside.after u = .outside ∧
      ∀ s', Finishes limit d s' → Finishes limit 0 (u ++ s') := by
  induction h with
  | start => exact ⟨[], rfl, rfl, fun _ h => h⟩
  | @first d b s _ hd hb _ ih =>
    obtain ⟨u, hbody, hu, hfinish⟩ := ih
    refine ⟨u ++ '\x7b' :: b, by simp [hbody], ?_, fun s' hs' => ?_⟩
    · simp [hu, outside_after_spaces hb, Mode.outside_next]
    · simpa using hfinish _ (hs'.nested hd hb)
  | @next d b b' s r e _ he hb hb' _ ih =>
    obtain ⟨u, hbody, hu, hfinish⟩ := ih
    obtain ⟨v, rfl, hv, hrest⟩ := he.exists_extent
    refine ⟨u ++ (v ++ (b ++ ',' :: b')), by simp [hbody], ?_, fun s' hs' => ?_⟩
    · simp [hu, hv, outside_after_spaces hb, outside_after_spaces hb', Mode.outside_next]
    · obtain ⟨e', es, s'', he', hes⟩ := hs'
      have hlist : Finishes limit (d + 1) (v ++ (b ++ ',' :: (b' ++ s'))) :=
        ⟨e, e' :: es, _, hrest _ fun h => h.exchange_cons _, .cons hb hb' he' hes⟩
      simpa using hfinish _ hlist

end PgJson.ArrayLiteral
