import PgJson.Proofs.Catalog.Statement
import PgJson.Proofs.Except
import PgJson.Proofs.Text.Numeral

/-!
# What the answer of the catalog tells

The answer to a lookup is text, and a wrong number taken from it would attach a decoder to a type
that has nothing to do with JSON. So what a row tells is said without a reader: a text denotes an
oid when, without the blanks around it, it is a numeral whose value is that very oid. The value is
compared as a number of any size, so that no text denotes an oid because it has been cut or wrapped.

## Main definitions

* `PgJson.Catalog.Denotes` — the oid that a text stands for
* `PgJson.Catalog.ArrayColumn`, `Tells` — the oids that a row tells
* `PgJson.Catalog.Delivers` — every call of a lookup succeeds, and this row is fetched

## Main results

* `PgJson.Catalog.readAnswer_eq_ok_iff` — a row is read as the oids that it tells
* `PgJson.Catalog.Ends.result_of_delivers` — once a row is fetched, the row decides
* `PgJson.Catalog.findOn_result_eq_ok_iff` — lookups find the oids that are told, or refuse
-/

namespace PgJson.Catalog

open Text (IsTrimOf IsNumeral)

/-! ### Oids as text -/

/-- Without the blanks around it, the text is a numeral for the oid. -/
def Denotes (text : String) (oid : Oid) : Prop :=
  ∃ t, IsTrimOf t text.toList ∧ IsNumeral t oid.toNat

theorem denotes_iff {text : String} {oid : Oid} :
    Denotes text oid ↔ IsNumeral (Text.trim text.toList) oid.toNat := by
  simp only [Denotes, Text.isTrimOf_iff, exists_eq_left]

/-- The decimal text of an oid denotes it. -/
theorem denotes_toString (oid : Oid) : Denotes (toString oid) oid := by
  have htext : (toString oid).toList = Nat.toDigits 10 oid.toNat := Nat.toList_repr
  exact ⟨_, htext ▸ Text.isTrimOf_toDigits oid.toNat, Text.isNumeral_toDigits oid.toNat⟩

theorem le_greatestOid_iff {n : Nat} : n ≤ greatestOid ↔ n < UInt32.size := by
  have hbound : greatestOid + 1 = UInt32.size := rfl
  omega

theorem readOid_text (text : String) : readOid (some (some text)) =
    match Text.readNat greatestOid (Text.trim text.toList) with
    | .ok n => .ok (some (UInt32.ofNat n))
    | .error fault => .error (.driver (.invalidOid text fault)) := rfl

/-- A text is read as the oid that it denotes. -/
theorem readOid_text_eq_ok_iff {text : String} {oid? : Option Oid} :
    readOid (some (some text)) = .ok oid? ↔ ∃ oid, Denotes text oid ∧ oid? = some oid := by
  rw [readOid_text]
  simp only [denotes_iff]
  constructor
  · intro h
    cases hread : Text.readNat greatestOid (Text.trim text.toList) with
    | error fault =>
      rw [hread] at h
      cases h
    | ok n =>
      rw [hread] at h
      cases h
      obtain ⟨hnumeral, hn⟩ := Text.readNat_eq_ok_iff.mp hread
      have hvalue : (UInt32.ofNat n).toNat = n :=
        UInt32.toNat_ofNat_of_lt (le_greatestOid_iff.mp hn)
      exact ⟨UInt32.ofNat n, by rwa [hvalue], rfl⟩
  · rintro ⟨oid, hnumeral, rfl⟩
    have hbound : oid.toNat ≤ greatestOid := le_greatestOid_iff.mpr oid.toNat_lt_size
    rw [Text.readNat_eq_ok_iff.mpr ⟨hnumeral, hbound⟩]
    exact congrArg (Except.ok ∘ some) UInt32.ofNat_toNat

/-- A column fails to be read as a failure of the driver, which names the text of the column. -/
theorem exists_of_readOid_eq_error {column : Option (Option String)} {e : Error}
    (h : readOid column = .error e) :
    ∃ text fault, column = some (some text) ∧ e = .driver (.invalidOid text fault) := by
  match column with
  | none => cases h
  | some none => cases h
  | some (some text) =>
    rw [readOid_text] at h
    cases hread : Text.readNat greatestOid (Text.trim text.toList) with
    | ok n =>
      rw [hread] at h
      cases h
    | error fault =>
      rw [hread] at h
      cases h
      exact ⟨text, fault, rfl, rfl⟩

/-! ### Rows -/

/-- What the second column tells about the type of arrays. There is none when the column is missing,
NULL or zero. -/
inductive ArrayColumn : Option (Option String) → Option Oid → Prop
  | missing : ArrayColumn none none
  | null : ArrayColumn (some none) none
  | zero {text : String} (h : Denotes text 0) : ArrayColumn (some (some text)) none
  | oid {text : String} {oid : Oid} (h : Denotes text oid) (hne : oid ≠ 0) :
    ArrayColumn (some (some text)) (some oid)

/-- The oids that a row tells, by its first two columns. -/
structure Tells (row : Row) (oids : TypeOids) : Prop where
  first : ∃ text, row[0]? = some (some text) ∧ Denotes text oids.oid
  second : ArrayColumn row[1]? oids.arrayOid

theorem arrayColumn_iff {column : Option (Option String)} {arrayOid : Option Oid} :
    ArrayColumn column arrayOid ↔
      ∃ oid?, readOid column = .ok oid? ∧ oid?.filter (· != 0) = arrayOid := by
  constructor
  · intro h
    cases h with
    | missing => exact ⟨none, rfl, rfl⟩
    | null => exact ⟨none, rfl, rfl⟩
    | zero h => exact ⟨some 0, readOid_text_eq_ok_iff.mpr ⟨0, h, rfl⟩, rfl⟩
    | @oid text oid h hne =>
      exact ⟨some oid, readOid_text_eq_ok_iff.mpr ⟨oid, h, rfl⟩, by simp [hne]⟩
  · rintro ⟨oid?, hread, rfl⟩
    match column with
    | none =>
      cases hread
      exact .missing
    | some none =>
      cases hread
      exact .null
    | some (some text) =>
      obtain ⟨oid, hdenotes, rfl⟩ := readOid_text_eq_ok_iff.mp hread
      by_cases hzero : oid = 0
      · subst hzero
        exact .zero hdenotes
      · rw [Option.filter_some, if_pos (by simpa using hzero)]
        exact .oid hdenotes hzero

/-- The second column is read only when the first has an oid. -/
theorem readAnswer_some (typeName : String) (row : Row) :
    readAnswer typeName (some row) = readOid row[0]? >>= fun oid? =>
      match oid? with
      | none => .error (.driver (.missingOid typeName))
      | some oid => readOid row[1]? >>= fun arrayOid? =>
        pure ⟨oid, arrayOid?.filter (· != 0)⟩ := rfl

theorem readAnswer_eq_ok_iff {typeName : String} {row : Row} {oids : TypeOids} :
    readAnswer typeName (some row) = .ok oids ↔ Tells row oids := by
  rw [readAnswer_some, bind_eq_ok]
  constructor
  · rintro ⟨oid?, hfirst, h⟩
    cases oid? with
    | none => cases h
    | some oid =>
      obtain ⟨arrayOid?, hsecond, h⟩ := bind_eq_ok.mp h
      cases h
      refine ⟨?_, arrayColumn_iff.mpr ⟨arrayOid?, hsecond, rfl⟩⟩
      match hcolumn : row[0]? with
      | none =>
        rw [hcolumn] at hfirst
        cases hfirst
      | some none =>
        rw [hcolumn] at hfirst
        cases hfirst
      | some (some text) =>
        rw [hcolumn] at hfirst
        obtain ⟨_, hdenotes, heq⟩ := readOid_text_eq_ok_iff.mp hfirst
        cases heq
        exact ⟨text, rfl, hdenotes⟩
  · rintro ⟨⟨text, hcolumn, hdenotes⟩, hsecond⟩
    obtain ⟨arrayOid?, hread, hfilter⟩ := arrayColumn_iff.mp hsecond
    have hfirst : readOid row[0]? = .ok (some oids.oid) := by
      rw [hcolumn]
      exact readOid_text_eq_ok_iff.mpr ⟨oids.oid, hdenotes, rfl⟩
    refine ⟨_, hfirst, bind_eq_ok.mpr ⟨arrayOid?, hread, ?_⟩⟩
    rw [hfilter]
    rfl

/-- A row that tells no oids is a failure of the driver. -/
theorem exists_of_readAnswer_eq_error {typeName : String} {row : Row} {e : Error}
    (h : readAnswer typeName (some row) = .error e) : ∃ fault, e = .driver fault := by
  rw [readAnswer_some, bind_eq_error] at h
  rcases h with h | ⟨oid?, -, h⟩
  · obtain ⟨text, fault, -, rfl⟩ := exists_of_readOid_eq_error h
    exact ⟨_, rfl⟩
  · cases oid? with
    | none =>
      cases h
      exact ⟨_, rfl⟩
    | some oid =>
      obtain ⟨text, fault, -, rfl⟩ := exists_of_readOid_eq_error (bind_pure_eq_error.mp h)
      exact ⟨_, rfl⟩

/-! ### Lookups -/

/-- Every call of a lookup on `c` succeeds, the rollback included if there is one, and `row?` is
what is fetched. -/
structure Delivers (c : Connection) (row? : Option Row) : Prop where
  executed : c.Executes
  fetched : c.execute.2.fetch.1 = .ok row?
  rolledBack : c.NeedsRollback → c.execute.2.fetch.2.rollback.1 = .ok ()

theorem delivers_iff {c : Connection} {row? : Option Row} :
    Delivers c row? ↔ ∃ rows r?, c.reply = .answered rows none r? ∧ rows.head? = row? ∧
      (c.NeedsRollback → r? = none) := by
  cases hreply : c.reply with
  | refused m =>
    constructor
    · rintro ⟨hexecute, -, -⟩
      exact absurd hexecute (Connection.not_executes_of_refused hreply)
    · rintro ⟨_, _, h, -, -⟩
      cases h
  | answered rows f? r? =>
    have hexecute := Connection.execute_of_answered hreply
    constructor
    · rintro ⟨-, hfetch, hroll⟩
      rw [hexecute] at hfetch hroll
      cases f? with
      | some m => cases hfetch
      | none =>
        cases hfetch
        refine ⟨rows, r?, rfl, rfl, fun hneeds => ?_⟩
        cases r? with
        | none => rfl
        | some m => cases hroll hneeds
    · rintro ⟨_, _, h, rfl, hroll⟩
      cases h
      refine ⟨Connection.executes_of_answered hreply, by rw [hexecute]; rfl, fun hneeds => ?_⟩
      rw [hexecute, hroll hneeds]
      rfl

variable {c : Connection} {typeName : String} {l : Lookup}

/-- Once every call has succeeded, the row that was fetched decides. -/
theorem Ends.result_of_delivers (h : Ends c typeName l) (hname : '\x00' ∉ typeName.toList)
    {row? : Option Row} (hrow : Delivers c row?) : l.result = readAnswer typeName row? := by
  obtain ⟨rows, r?, hanswered, rfl, hroll⟩ := delivers_iff.mp hrow
  cases h with
  | unsent hsql => exact absurd (mem_of_query_eq_error hsql) hname
  | refused _ hreply =>
    rw [hanswered] at hreply
    cases hreply
  | unfetched _ hreply =>
    rw [hanswered] at hreply
    cases hreply
  | kept _ hreply _ =>
    rw [hanswered] at hreply
    cases hreply
    rfl
  | stuck _ hreply hneeds =>
    rw [hanswered, hroll hneeds] at hreply
    cases hreply
  | rolledBack _ hreply _ =>
    rw [hanswered] at hreply
    cases hreply
    rfl

/-- A lookup finds nothing before every call has succeeded. -/
theorem Ends.delivers_of_ok (h : Ends c typeName l) {oids : TypeOids} (hok : l.result = .ok oids) :
    ∃ row, Delivers c (some row) ∧ readAnswer typeName (some row) = .ok oids := by
  have hrow : ∀ row?, Delivers c row? → readAnswer typeName row? = .ok oids →
      ∃ row, Delivers c (some row) ∧ readAnswer typeName (some row) = .ok oids := by
    intro row? hdelivers hanswer
    cases row? with
    | none => cases hanswer
    | some row => exact ⟨row, hdelivers, hanswer⟩
  cases h with
  | unsent _ => cases hok
  | refused _ _ => cases hok
  | unfetched _ _ => cases hok
  | stuck _ _ _ => cases hok
  | kept _ hreply hkeep =>
    exact hrow _ (delivers_iff.mpr ⟨_, _, hreply, rfl, fun hneeds => absurd hneeds hkeep⟩) hok
  | rolledBack _ hreply _ =>
    exact hrow _ (delivers_iff.mpr ⟨_, _, hreply, rfl, fun _ => rfl⟩) hok

theorem tells_decimal (oid arrayOid : Oid) (rest : Row) :
    Tells (some (toString oid) :: some (toString arrayOid) :: rest)
      ⟨oid, if arrayOid = 0 then none else some arrayOid⟩ := by
  refine ⟨⟨_, rfl, denotes_toString oid⟩, ?_⟩
  show ArrayColumn (some (some (toString arrayOid))) (if arrayOid = 0 then none else some arrayOid)
  split
  · next hzero =>
    subst hzero
    exact .zero (denotes_toString 0)
  · next hne => exact .oid (denotes_toString arrayOid) hne

/-- **Oids are found as they are told, or not at all.** For a name that can be sent, a lookup finds
oids exactly when every call succeeds and the row that is fetched tells them. A row that tells none
is a failure of the driver; columns after the second and rows after the first make no difference;
and the decimal texts of any two oids are read as these oids. -/
theorem findOn_result_eq_ok_iff (typeName : String) (hname : '\x00' ∉ typeName.toList)
    (c : Connection) :
    (∀ oids, (findOn c typeName).result = .ok oids ↔
      ∃ row, Delivers c (some row) ∧ Tells row oids) ∧
    (∀ row, Delivers c (some row) → (∀ oids, ¬Tells row oids) →
      ∃ fault, (findOn c typeName).result = .error (.driver fault)) ∧
    (∀ c' row row', Delivers c (some row) → Delivers c' (some row') → row.take 2 = row'.take 2 →
      (findOn c typeName).result = (findOn c' typeName).result) ∧
    (∀ oid arrayOid rest,
      Delivers c (some (some (toString oid) :: some (toString arrayOid) :: rest)) →
      (findOn c typeName).result = .ok ⟨oid, if arrayOid = 0 then none else some arrayOid⟩) := by
  have hresult : ∀ {c row}, Delivers c (some row) →
      (findOn c typeName).result = readAnswer typeName (some row) :=
    fun h => (ends_findOn _ typeName).result_of_delivers hname h
  refine ⟨fun oids => ⟨fun hok => ?_, ?_⟩, fun row hrow hnone => ?_, ?_, ?_⟩
  · obtain ⟨row, hrow, hanswer⟩ := (ends_findOn c typeName).delivers_of_ok hok
    exact ⟨row, hrow, readAnswer_eq_ok_iff.mp hanswer⟩
  · rintro ⟨row, hrow, htells⟩
    rw [hresult hrow, readAnswer_eq_ok_iff.mpr htells]
  · rw [hresult hrow]
    cases hanswer : readAnswer typeName (some row) with
    | ok oids => exact absurd (readAnswer_eq_ok_iff.mp hanswer) (hnone oids)
    | error e =>
      obtain ⟨fault, rfl⟩ := exists_of_readAnswer_eq_error hanswer
      exact ⟨fault, rfl⟩
  · intro c' row row' hrow hrow' htake
    have hcolumn : ∀ i < 2, row[i]? = row'[i]? := fun i hi => by
      rw [← List.getElem?_take_of_lt hi, htake, List.getElem?_take_of_lt hi]
    rw [hresult hrow, hresult hrow', readAnswer_some, readAnswer_some, hcolumn 0 (by decide),
      hcolumn 1 (by decide)]
  · intro oid arrayOid rest hrow
    rw [hresult hrow, readAnswer_eq_ok_iff.mpr (tells_decimal oid arrayOid rest)]

/-- A sign, a leading zero and blanks do not matter to an oid; one more than the greatest oid is
refused, although the array type beside it is well told. -/
theorem findOn_result_eq_ok_iff_greatest :
    '\x00' ∉ "json".toList ∧
    (findOn { script := [.answered [[some "\t+0114 ", some "4294967295", none], []] none none] }
      "json").result = .ok ⟨114, some 4294967295⟩ ∧
    ∃ fault, (findOn { script := [.answered [[some "4294967296", some "199"]] none none] }
      "json").result = .error (.driver fault) := by
  have hfirst : Denotes "\t+0114 " 114 :=
    denotes_iff.mpr (.inr ⟨['0', '1', '1', '4'], rfl, by simp, List.all_eq_true.mp rfl, rfl⟩)
  have hsecond : Denotes "4294967295" 4294967295 := denotes_toString 4294967295
  have hgreater : ∀ oids, ¬Tells [some "4294967296", some "199"] oids := by
    intro oids htells
    have hread : readAnswer "json" (some [some "4294967296", some "199"]) = .ok oids :=
      readAnswer_eq_ok_iff.mpr htells
    cases hread
  refine ⟨by decide, ?_, ?_⟩
  · exact ((findOn_result_eq_ok_iff "json" (by decide) _).1 _).mpr
      ⟨_, ⟨rfl, rfl, fun _ => rfl⟩, ⟨_, rfl, hfirst⟩, .oid hsecond (by decide)⟩
  · exact (findOn_result_eq_ok_iff "json" (by decide) _).2.1 _ ⟨rfl, rfl, fun _ => rfl⟩ hgreater

end PgJson.Catalog
