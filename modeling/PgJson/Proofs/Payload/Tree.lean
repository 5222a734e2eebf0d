import PgJson.Payload.Value
import PgJson.Payload.Writer
import PgJson.Proofs.Json.RoundTrip

/-!
# Payloads as trees

A payload can be converted to a value or written directly. Both go through the same tree, which
keeps repeated keys: the text is the tree as it is written, and the value is the tree with its
names merged. That holds for payloads that say exactly what they mean in JSON, without floats,
numbers of more than 64 bits, refusals, or keys that have no text.

## Main definitions

* `PgJson.Payload.IsKey`, `keyName` — payloads that can be keys, and their texts
* `PgJson.Payload.Exact` — exact payloads, with a bound on the nesting
* `PgJson.Payload.tree` — the tree of a payload

## Main results

* `PgJson.Payload.write_eq_tree` — what is written is the tree
* `PgJson.Payload.toJson_eq_merged` — the value is the merged tree
-/

namespace PgJson.Payload

open Json (Style Fits)

/-! ### Keys -/

/-- A key of a map: a string, a character, a whole number, a truth value, a variant without data,
or a newtype of one of these. -/
inductive IsKey : Payload → Prop
  | string (s : String) : IsKey (.string s)
  | char (c : Char) : IsKey (.char c)
  | int (n : Int) : IsKey (.int n)
  | bool (b : Bool) : IsKey (.bool b)
  | unitVariant (name : String) : IsKey (.unitVariant name)
  | newtype {p : Payload} (h : IsKey p) : IsKey (.newtype p)

/-- The text of a key, and nothing for other payloads. -/
def keyName (p : Payload) : String := (keyText false p).toOption.getD ""

theorem keyText_eq_keyName {p : Payload} (h : IsKey p) (optional : Bool) :
    keyText optional p = .ok p.keyName := by
  induction h with
  | newtype _ ih =>
    rw [keyText, ih, keyName, keyName, keyText]
  | _ => rfl

/-! ### Exact payloads -/

/-- The payload has no floats, no numbers beyond 64 bits, no refusals and only keys with a text,
and no more than `n` containers are nested in it: sequences, maps, bytes, and variants with a
value. -/
inductive Exact : Nat → Payload → Prop
  | unit {n : Nat} : Exact n .unit
  | bool {n : Nat} (b : Bool) : Exact n (.bool b)
  | int {n : Nat} {k : Int} (hk : Json.isWhole k = true) : Exact n (.int k)
  | char {n : Nat} (c : Char) : Exact n (.char c)
  | string {n : Nat} (s : String) : Exact n (.string s)
  | bytes {n : Nat} (bs : List UInt8) : Exact (n + 1) (.bytes bs)
  | none {n : Nat} : Exact n .none
  | some {n : Nat} {p : Payload} (h : Exact n p) : Exact n (.some p)
  | newtype {n : Nat} {p : Payload} (h : Exact n p) : Exact n (.newtype p)
  | unitVariant {n : Nat} (name : String) : Exact n (.unitVariant name)
  | newtypeVariant {n : Nat} (name : String) {p : Payload} (h : Exact n p) :
    Exact (n + 1) (.newtypeVariant name p)
  | seq {n : Nat} {items : List Payload} (h : ∀ p ∈ items, Exact n p) : Exact (n + 1) (.seq items)
  | map {n : Nat} {entries : List (Payload × Payload)} (hkeys : ∀ e ∈ entries, IsKey e.1)
    (h : ∀ e ∈ entries, Exact n e.2) : Exact (n + 1) (.map entries)

/-! ### Trees -/

mutual

/-- The tree of a payload. Floats and refusals, which are not exact, have no tree of their own. -/
def tree : Payload → Json
  | .unit => .null
  | .bool b => .bool b
  | .int n => .number (.whole n)
  | .float64 _ => .null
  | .float32 _ => .null
  | .char c => .string (String.singleton c)
  | .string s => .string s
  | .bytes bs => .array (bs.map byteValue)
  | .none => .null
  | .some p => p.tree
  | .newtype p => p.tree
  | .unitVariant name => .string name
  | .newtypeVariant name p => .object [(name, p.tree)]
  | .seq items => .array (itemTrees items)
  | .map entries => .object (entryTrees entries)
  | .refusal _ => .null

/-- The trees of the items of a sequence. -/
def itemTrees : List Payload → List Json
  | [] => []
  | p :: ps => p.tree :: itemTrees ps

/-- The names and trees of the entries of a map. -/
def entryTrees : List (Payload × Payload) → Json.Members
  | [] => []
  | (k, p) :: es => (k.keyName, p.tree) :: entryTrees es

end

theorem itemTrees_eq_map (ps : List Payload) : itemTrees ps = ps.map tree := by
  induction ps with
  | nil => rfl
  | cons p ps ih => rw [itemTrees, ih, List.map_cons]

theorem entryTrees_eq_map (es : List (Payload × Payload)) :
    entryTrees es = es.map fun e => (e.1.keyName, e.2.tree) := by
  induction es with
  | nil => rfl
  | cons e es ih => rw [entryTrees, ih, List.map_cons]

theorem isWhole_byte (b : UInt8) : Json.isWhole b.toNat = true := by
  have hb : b.toNat < 256 := b.toNat_lt
  have hbound : 256 ≤ Text.greatestUnsigned 64 := by decide
  simp only [Json.isWhole, Bool.and_eq_true, decide_eq_true_eq]
  omega

theorem fits_byteValue {n : Nat} (bs : List UInt8) : ∀ x ∈ bs.map byteValue, Fits n x := by
  rw [List.forall_mem_map]
  exact fun b _ => .whole (isWhole_byte b)

/-- The tree of an exact payload fits. -/
theorem Exact.fits_tree {n : Nat} {p : Payload} (h : Exact n p) : Fits n p.tree := by
  induction h with
  | unit => exact .null
  | bool b => exact .bool b
  | int hk => exact .whole hk
  | char c => exact .string _
  | string s => exact .string s
  | bytes bs => exact .array (fits_byteValue bs)
  | none => exact .null
  | some _ ih => exact ih
  | newtype _ ih => exact ih
  | unitVariant name => exact .string name
  | newtypeVariant name _ ih =>
    rw [tree]
    exact .object (by simpa using ih)
  | seq _ ih =>
    rw [tree, itemTrees_eq_map]
    exact .array (List.forall_mem_map.mpr ih)
  | map _ _ ih =>
    rw [tree, entryTrees_eq_map]
    exact .object (List.forall_mem_map.mpr ih)

/-! ### Writing -/

theorem writeItems_eq_map {style : Style} {depth : Nat} {ps : List Payload}
    (h : ∀ p ∈ ps, write style depth p = .ok (p.tree.write style depth)) :
    writeItems style depth ps = .ok (Json.writeItems style depth (itemTrees ps)) := by
  induction ps with
  | nil => rfl
  | cons p ps ih =>
    rw [List.forall_mem_cons] at h
    rw [writeItems, h.1, ih h.2]
    rfl

theorem writeEntries_eq_map {style : Style} {depth : Nat} {es : List (Payload × Payload)}
    (hkeys : ∀ e ∈ es, IsKey e.1)
    (h : ∀ e ∈ es, write style depth e.2 = .ok (e.2.tree.write style depth)) :
    writeEntries style depth es = .ok (Json.writeMembers style depth (entryTrees es)) := by
  induction es with
  | nil => rfl
  | cons e es ih =>
    rw [List.forall_mem_cons] at h hkeys
    rw [writeEntries, keyText_eq_keyName hkeys.1, h.1, ih hkeys.2 h.2]
    rfl

/-- What is written of an exact payload is its tree. -/
theorem Exact.write_eq_tree {n : Nat} {p : Payload} (h : Exact n p) (style : Style) (depth : Nat) :
    p.write style depth = .ok (p.tree.write style depth) := by
  induction h generalizing depth with
  | unit => rfl
  | bool b => rfl
  | int hk => rfl
  | char c => rfl
  | string s => rfl
  | bytes bs =>
    rw [write, tree, Json.write, Json.writeItems_eq_map, List.map_map]
    rfl
  | none => rfl
  | some _ ih => exact ih depth
  | newtype _ ih => exact ih depth
  | unitVariant name => rfl
  | newtypeVariant name _ ih =>
    rw [write, ih]
    rfl
  | seq _ ih =>
    rw [write, writeItems_eq_map fun p hp => ih p hp (depth + 1)]
    rfl
  | map hkeys _ ih =>
    rw [write, writeEntries_eq_map hkeys fun e he => ih e he (depth + 1)]
    rfl

/-! ### Values -/

theorem itemValues_eq {ps : List Payload} (h : ∀ p ∈ ps, p.toJson = .ok p.tree.merged) :
    itemValues ps = .ok (Json.mergedItems (itemTrees ps)) := by
  induction ps with
  | nil => rfl
  | cons p ps ih =>
    rw [List.forall_mem_cons] at h
    rw [itemValues, h.1, ih h.2]
    rfl

theorem memberValues_eq {es : List (Payload × Payload)} (hkeys : ∀ e ∈ es, IsKey e.1)
    (h : ∀ e ∈ es, e.2.toJson = .ok e.2.tree.merged) :
    memberValues es = .ok (Json.mergedMembers (entryTrees es)) := by
  induction es with
  | nil => rfl
  | cons e es ih =>
    rw [List.forall_mem_cons] at h hkeys
    rw [memberValues, keyText_eq_keyName hkeys.1, h.1, ih hkeys.2 h.2]
    rfl

/-- The value of an exact payload is its tree, merged. -/
theorem Exact.toJson_eq_merged {n : Nat} {p : Payload} (h : Exact n p) :
    p.toJson = .ok p.tree.merged := by
  induction h with
  | unit => rfl
  | bool b => rfl
  | int hk => rw [toJson, wholeValue, if_pos hk, tree, Json.merged]
  | char c => rfl
  | string s => rfl
  | bytes bs =>
    rw [toJson, tree, Json.merged, Json.mergedItems_eq_map, List.map_map]
    rfl
  | none => rfl
  | some _ ih => exact ih
  | newtype _ ih => exact ih
  | unitVariant name => rfl
  | newtypeVariant name _ ih =>
    rw [toJson, ih]
    rfl
  | seq _ ih =>
    rw [toJson, itemValues_eq ih]
    rfl
  | map hkeys _ ih =>
    rw [toJson, memberValues_eq hkeys ih, tree, Json.merged, ← Json.ofList_eq_lastValues]
    rfl

end PgJson.Payload
