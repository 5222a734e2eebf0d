import PgJson.Caster.Basic

/-!
# Tables of casters

A table finds casters by oid. Inserting a caster replaces what was found under each of its oids;
removing an oid leaves the other oids of the same caster in place.

## Main definitions

* `PgJson.Caster.Table` — casters by oid
* `PgJson.Caster.Table.get?`, `insert`, `erase`, `size` — look up, add, remove, count

## Main results

* `PgJson.Caster.Table.mem_entries_iff` — the oids that are counted
* `PgJson.Caster.Table.get?_set`, `get?_erase`, `get?_insert` — each change, seen through `get?`
-/

namespace PgJson.Caster

/-- Casters by oid. The entries that count are the first for each oid, and there are no others. -/
structure Table where
  entries : List (Oid × Caster) := []
  distinct : (entries.map Prod.fst).Nodup := by simp

namespace Table

/-- The table without casters. -/
def empty : Table := {}

instance : Inhabited Table := ⟨empty⟩

/-- The caster found under an oid. -/
def get? (t : Table) (oid : Oid) : Option Caster := t.entries.lookup oid

/-- The number of oids that have a caster. -/
def size (t : Table) : Nat := t.entries.length

/-- Whether no oid has a caster. -/
def isEmpty (t : Table) : Bool := t.entries.isEmpty

/-- Remove what is found under an oid. -/
def erase (t : Table) (oid : Oid) : Table where
  entries := t.entries.filter fun e => e.1 != oid
  distinct := t.distinct.sublist (List.filter_sublist.map _)

/-- Let a caster be found under an oid. -/
def set (t : Table) (oid : Oid) (c : Caster) : Table where
  entries := (oid, c) :: (t.erase oid).entries
  distinct := by
    simp only [List.map_cons, List.nodup_cons, (t.erase oid).distinct, and_true]
    simp [erase]

/-- Let a caster be found under each of its oids. -/
def insert (t : Table) (c : Caster) : Table := c.oids.foldl (fun t oid => t.set oid c) t

@[simp] theorem get?_empty (oid : Oid) : empty.get? oid = none := rfl

/-- The oids that a table counts are those under which a caster is found. -/
theorem mem_entries_iff (t : Table) (oid : Oid) :
    oid ∈ t.entries.map Prod.fst ↔ ∃ c, t.get? oid = some c := by
  rw [get?, ← Option.isSome_iff_exists, List.lookup_isSome_iff, List.mem_map]
  simp only [beq_iff_eq, @eq_comm _ oid]

theorem lookup_filter_ne (entries : List (Oid × Caster)) (removed oid : Oid) :
    (entries.filter fun e => e.1 != removed).lookup oid =
      if oid = removed then none else entries.lookup oid := by
  induction entries with
  | nil => simp
  | cons e es ih =>
    obtain ⟨k, c⟩ := e
    by_cases hk : k = removed
    · subst hk
      by_cases h : oid = k
      · simp [h] at ih ⊢
        exact ih
      · have hb : (oid == k) = false := by simpa using h
        simp [ih, h, List.lookup_cons, hb]
    · by_cases h : oid = k
      · subst h
        simp [hk]
      · have hb : (oid == k) = false := by simpa using h
        simp [hk, List.lookup_cons, hb, ih]

/-- After removing an oid nothing is found under it, and the rest as before. -/
@[simp] theorem get?_erase (t : Table) (removed oid : Oid) :
    (t.erase removed).get? oid = if oid = removed then none else t.get? oid :=
  lookup_filter_ne t.entries removed oid

/-- After setting an oid the caster is found under it, and the rest as before. -/
@[simp] theorem get?_set (t : Table) (changed oid : Oid) (c : Caster) :
    (t.set changed c).get? oid = if oid = changed then some c else t.get? oid := by
  by_cases h : oid = changed
  · subst h
    simp [get?, set]
  · have hb : (oid == changed) = false := by simpa using h
    have := get?_erase t changed oid
    simp only [get?] at this ⊢
    simp [set, List.lookup_cons, hb, h, this]

/-- After inserting a caster it is found under its own oids, and the rest as before. -/
@[simp] theorem get?_insert (t : Table) (c : Caster) (oid : Oid) :
    (t.insert c).get? oid = if oid ∈ c.oids then some c else t.get? oid := by
  have aux (oids : List Oid) (t : Table) :
      (oids.foldl (fun t oid => t.set oid c) t).get? oid =
        if oid ∈ oids then some c else t.get? oid := by
    induction oids generalizing t with
    | nil => simp
    | cons o os ih =>
      rw [List.foldl_cons, ih]
      by_cases h : oid = o <;> by_cases hm : oid ∈ os <;> simp [h, hm]
  exact aux c.oids t

end Table

end PgJson.Caster
