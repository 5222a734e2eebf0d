import Mathlib.Data.List.Basic
import PgJson.Json.Document

/-!
# Trees with repeated names

A text can give a member of an object twice. A value cannot: the name keeps its first place and
gets its last value. A tree is a `Json` in which names may still be repeated, as they are written;
`merged` is the value that it stands for.

Two conditions decide whether a written tree is read back. It must fit: its numbers are whole and
of 64 bits, and it is not nested too deeply. And no object in it may begin with the name that marks
an embedded document, since such an object is read as the document.

## Main definitions

* `PgJson.Json.lastValues`, `merged` — members, and a whole tree, without repeated names
* `PgJson.Json.Fits` — whole numbers only, and a bound on the nesting
* `PgJson.Json.Unreserved` — no object begins with the reserved name

## Main results

* `PgJson.Json.ofList_eq_lastValues` — setting members one after the other
* `PgJson.Json.Fits.merged_merged` — merging twice is merging once
* `PgJson.Json.Fits.merged`, `Unreserved.merged` — merging keeps both conditions
-/

namespace PgJson.Json

/-! ### Members without repeated names -/

/-- The value of the last member called `name`, or `x` if there is none. -/
def last (name : String) (x : Json) : Members → Json
  | [] => x
  | (n, y) :: ms => if n = name then last name y ms else last name x ms

/-- Each name in the place where it appears first, with the value that it has last. -/
def lastValues : Members → Members
  | [] => []
  | (name, x) :: ms => (name, last name x ms) :: (lastValues ms).filter fun m => m.1 ≠ name

/-- The names of members. -/
def names (ms : Members) : List String := ms.map Prod.fst

theorem mem_names {m : String × Json} {ms : Members} (h : m ∈ ms) : m.1 ∈ names ms :=
  List.mem_map_of_mem h

theorem insert_of_notMem {name : String} {x : Json} {ms : Members} (h : name ∉ names ms) :
    Members.insert name x ms = ms ++ [(name, x)] := by
  induction ms with
  | nil => rfl
  | cons m ms ih =>
    obtain ⟨n, y⟩ := m
    rw [names, List.map_cons, List.mem_cons, not_or] at h
    have hne : ¬n = name := fun hn => h.1 hn.symm
    rw [Members.insert, if_neg hne, ih h.2]
    rfl

theorem insert_of_mem {name : String} {x : Json} {ms : Members} (hms : (names ms).Nodup)
    (h : name ∈ names ms) :
    Members.insert name x ms = ms.map fun m => (m.1, if name = m.1 then x else m.2) := by
  induction ms with
  | nil => simp [names] at h
  | cons m ms ih =>
    obtain ⟨n, y⟩ := m
    rw [names, List.map_cons, List.nodup_cons] at hms
    by_cases hn : n = name
    · subst hn
      have hnotMem : n ∉ names ms := hms.1
      have hrest : ms.map (fun m => (m.1, if n = m.1 then x else m.2)) = ms := by
        rw [List.map_congr_left (g := id)]
        · exact List.map_id ms
        · intro m hm
          have hne : ¬n = m.1 := by
            rintro rfl
            exact hnotMem (mem_names hm)
          rw [if_neg hne]
          rfl
      rw [Members.insert, if_pos rfl, List.map_cons, hrest, if_pos rfl]
    · have hmem : name ∈ names ms := by
        rw [names, List.map_cons, List.mem_cons] at h
        exact h.resolve_left fun heq => hn heq.symm
      have hne : ¬name = n := fun heq => hn heq.symm
      rw [Members.insert, if_neg hn, ih hms.2 hmem, List.map_cons, if_neg hne]

theorem names_insert_of_mem {name : String} {x : Json} {ms : Members} (hms : (names ms).Nodup)
    (h : name ∈ names ms) : names (Members.insert name x ms) = names ms := by
  rw [insert_of_mem hms h, names, names, List.map_map]
  rfl

/-- Setting members on top of others: known names change their values, new names are added. -/
theorem foldl_insert (ms : Members) : ∀ acc : Members, (names acc).Nodup →
    ms.foldl (fun m e => Members.insert e.1 e.2 m) acc =
      (acc.map fun m => (m.1, last m.1 m.2 ms)) ++
        (lastValues ms).filter fun m => m.1 ∉ names acc := by
  induction ms with
  | nil =>
    intro acc _
    simp [last, lastValues]
  | cons e ms ih =>
    intro acc hacc
    obtain ⟨name, x⟩ := e
    rw [List.foldl_cons]
    by_cases hmem : name ∈ names acc
    · have hnames := names_insert_of_mem (x := x) hacc hmem
      have hfilter : ((lastValues ms).filter fun m => m.1 ≠ name).filter
          (fun m => m.1 ∉ names acc) = (lastValues ms).filter fun m => m.1 ∉ names acc := by
        rw [List.filter_filter]
        refine List.filter_congr fun m _ => ?_
        by_cases hm : m.1 = name
        · simp [hm, hmem]
        · simp [hm]
      rw [ih _ (hnames ▸ hacc), hnames, insert_of_mem hacc hmem, List.map_map, lastValues,
        List.filter_cons_of_neg (by simpa using hmem), hfilter]
      congr 1
      refine List.map_congr_left fun m _ => ?_
      rw [Function.comp_apply, last]
      split <;> rfl
    · have hnames : names (Members.insert name x acc) = names acc ++ [name] := by
        rw [insert_of_notMem hmem, names, List.map_append]
        rfl
      have hnodup : (names acc ++ [name]).Nodup := by
        rw [List.nodup_append]
        refine ⟨hacc, by simp, ?_⟩
        rintro n hn _ hm rfl
        rw [List.mem_singleton] at hm
        exact hmem (hm ▸ hn)
      have hfilter : (lastValues ms).filter (fun m => m.1 ∉ names acc ++ [name]) =
          ((lastValues ms).filter fun m => m.1 ≠ name).filter fun m => m.1 ∉ names acc := by
        rw [List.filter_filter]
        refine List.filter_congr fun m _ => ?_
        simp [not_or]
      have hmap : (acc.map fun m => (m.1, last m.1 m.2 ((name, x) :: ms))) =
          acc.map fun m => (m.1, last m.1 m.2 ms) := by
        refine List.map_congr_left fun m hm => ?_
        have hne : ¬name = m.1 := fun heq => hmem (heq ▸ mem_names hm)
        rw [last, if_neg hne]
      rw [ih _ (hnames ▸ hnodup), hnames, insert_of_notMem hmem, List.map_append, hfilter,
        hmap, lastValues, List.filter_cons_of_pos (by simpa using hmem), List.append_assoc]
      rfl

theorem ofList_eq_lastValues (ms : Members) : Members.ofList ms = lastValues ms := by
  rw [Members.ofList, foldl_insert ms [] List.nodup_nil]
  simp [names]

theorem last_mem (name : String) (x : Json) (ms : Members) :
    (name, last name x ms) ∈ (name, x) :: ms := by
  induction ms generalizing x with
  | nil => exact List.mem_cons_self
  | cons m ms ih =>
    obtain ⟨n, y⟩ := m
    rw [last]
    split
    · next hn =>
      subst hn
      exact List.mem_cons_of_mem _ (ih y)
    · rcases List.mem_cons.mp (ih x) with h | h
      · rw [h]
        exact List.mem_cons_self
      · exact List.mem_cons_of_mem _ (List.mem_cons_of_mem _ h)

theorem lastValues_subset (ms : Members) : lastValues ms ⊆ ms := by
  induction ms with
  | nil => exact List.Subset.refl _
  | cons m ms ih =>
    rw [lastValues, List.cons_subset]
    refine ⟨last_mem _ _ _, fun m' hm' => List.mem_cons_of_mem _ (ih ?_)⟩
    exact (List.mem_filter.mp hm').1

theorem head?_lastValues (ms : Members) :
    (lastValues ms).head?.map Prod.fst = ms.head?.map Prod.fst := by
  cases ms with
  | nil => rfl
  | cons m ms => rfl

theorem nodup_names_lastValues (ms : Members) : (names (lastValues ms)).Nodup := by
  induction ms with
  | nil => exact List.nodup_nil
  | cons m ms ih =>
    have hsub : (names ((lastValues ms).filter fun m' => m'.1 ≠ m.1)).Sublist
        (names (lastValues ms)) := List.filter_sublist.map _
    rw [lastValues, names, List.map_cons, List.nodup_cons]
    refine ⟨fun hmem => ?_, ih.sublist hsub⟩
    obtain ⟨m', hm', hname⟩ := List.mem_map.mp hmem
    simpa [hname] using (List.mem_filter.mp hm').2

theorem last_of_notMem {name : String} {x : Json} {ms : Members} (h : name ∉ names ms) :
    last name x ms = x := by
  induction ms with
  | nil => rfl
  | cons m ms ih =>
    rw [names, List.map_cons, List.mem_cons, not_or] at h
    rw [last, if_neg fun heq => h.1 heq.symm, ih h.2]

/-- Without repeated names nothing changes. -/
theorem lastValues_eq_self {ms : Members} (h : (names ms).Nodup) : lastValues ms = ms := by
  induction ms with
  | nil => rfl
  | cons m ms ih =>
    rw [names, List.map_cons, List.nodup_cons] at h
    have hfilter : (ms.filter fun m' => m'.1 ≠ m.1) = ms := by
      refine List.filter_eq_self.mpr fun m' hm' => ?_
      have hne : m'.1 ≠ m.1 := fun heq => h.1 (heq ▸ mem_names hm')
      simpa using hne
    rw [lastValues, ih h.2, last_of_notMem h.1, hfilter]

/-! ### Trees without repeated names -/

mutual

/-- A tree without repeated names. -/
def merged : Json → Json
  | .null => .null
  | .bool b => .bool b
  | .number n => .number n
  | .string s => .string s
  | .array items => .array (mergedItems items)
  | .object ms => .object (lastValues (mergedMembers ms))

/-- The items of a list without repeated names in them. -/
def mergedItems : List Json → List Json
  | [] => []
  | x :: xs => x.merged :: mergedItems xs

/-- The members of an object without repeated names in their values. -/
def mergedMembers : Members → Members
  | [] => []
  | (name, x) :: ms => (name, x.merged) :: mergedMembers ms

end

theorem mergedItems_eq_map (xs : List Json) : mergedItems xs = xs.map merged := by
  induction xs with
  | nil => rfl
  | cons x xs ih => rw [mergedItems, ih, List.map_cons]

theorem mergedMembers_eq_map (ms : Members) :
    mergedMembers ms = ms.map fun m => (m.1, m.2.merged) := by
  induction ms with
  | nil => rfl
  | cons m ms ih => rw [mergedMembers, ih, List.map_cons]

theorem head?_mergedMembers (ms : Members) :
    (mergedMembers ms).head?.map Prod.fst = ms.head?.map Prod.fst := by
  cases ms with
  | nil => rfl
  | cons m ms => rfl

/-! ### Trees that can be read back -/

/-- All numbers are whole and of 64 bits, and no more than `n` lists and objects are nested in one
another. -/
inductive Fits : Nat → Json → Prop
  | null {n : Nat} : Fits n .null
  | bool {n : Nat} (b : Bool) : Fits n (.bool b)
  | whole {n : Nat} {k : Int} (hk : isWhole k = true) : Fits n (.number (.whole k))
  | string {n : Nat} (s : String) : Fits n (.string s)
  | array {n : Nat} {items : List Json} (h : ∀ x ∈ items, Fits n x) : Fits (n + 1) (.array items)
  | object {n : Nat} {ms : Members} (h : ∀ m ∈ ms, Fits n m.2) : Fits (n + 1) (.object ms)

/-- No object begins with the name that marks an embedded document. -/
inductive Unreserved : Json → Prop
  | null : Unreserved .null
  | bool (b : Bool) : Unreserved (.bool b)
  | number (n : Number) : Unreserved (.number n)
  | string (s : String) : Unreserved (.string s)
  | array {items : List Json} (h : ∀ x ∈ items, Unreserved x) : Unreserved (.array items)
  | object {ms : Members} (hname : embeddedName ∉ ms.head?.map Prod.fst)
    (h : ∀ m ∈ ms, Unreserved m.2) : Unreserved (.object ms)

theorem forall_mergedItems {P : Json → Prop} {xs : List Json} (h : ∀ x ∈ xs, P x.merged) :
    ∀ x ∈ mergedItems xs, P x := by
  rw [mergedItems_eq_map]
  exact List.forall_mem_map.mpr h

theorem forall_lastValues {P : Json → Prop} {ms : Members} (h : ∀ m ∈ ms, P m.2.merged) :
    ∀ m ∈ lastValues (mergedMembers ms), P m.2 := by
  intro m hm
  have hmerged := lastValues_subset _ hm
  rw [mergedMembers_eq_map] at hmerged
  obtain ⟨m', hm', rfl⟩ := List.mem_map.mp hmerged
  exact h m' hm'

theorem Fits.merged {n : Nat} {x : Json} (h : Fits n x) : Fits n x.merged := by
  induction h with
  | null => exact .null
  | bool b => exact .bool b
  | whole hk => exact .whole hk
  | string s => exact .string s
  | array _ ih => exact .array (forall_mergedItems ih)
  | object _ ih => exact .object (forall_lastValues ih)

theorem Unreserved.merged {x : Json} (h : Unreserved x) : Unreserved x.merged := by
  induction h with
  | null => exact .null
  | bool b => exact .bool b
  | number n => exact .number n
  | string s => exact .string s
  | array _ ih => exact .array (forall_mergedItems ih)
  | object hname _ ih =>
    refine .object ?_ (forall_lastValues ih)
    rwa [head?_lastValues, head?_mergedMembers]

theorem Fits.merged_merged {n : Nat} {x : Json} (h : Fits n x) : x.merged.merged = x.merged := by
  induction h with
  | null => rfl
  | bool b => rfl
  | whole hk => rfl
  | string s => rfl
  | array _ ih =>
    rw [Json.merged, Json.merged, mergedItems_eq_map (mergedItems _),
      List.map_congr_left (g := id) (forall_mergedItems ih), List.map_id]
  | @object _ ms _ ih =>
    have hmembers : mergedMembers (lastValues (mergedMembers ms)) =
        lastValues (mergedMembers ms) := by
      rw [mergedMembers_eq_map (lastValues _), List.map_congr_left (g := id), List.map_id]
      intro m hm
      have hvalue := forall_lastValues (P := fun y => y.merged = y) ih m hm
      rw [hvalue]
      rfl
    rw [Json.merged, Json.merged, hmembers, lastValues_eq_self (nodup_names_lastValues _)]

end PgJson.Json
