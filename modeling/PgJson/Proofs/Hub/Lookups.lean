import PgJson.Hub
import PgJson.Proofs.Registration.Frame

/-!
# The connections of a hub, step by step

Of all operations only lookups ask a connection anything, and a lookup is made in two ways: by
itself, or by a registration without an oid. Every other operation leaves a connection as it is,
but for its own casters and for a status that is set from outside.

## Main definitions

* `PgJson.Hub.Operation.lookupOn` — what an operation looks up on a connection
* `PgJson.Hub.Operation.SetsStatus` — an operation sets the status of a connection
* `PgJson.Hub.Along` — a condition on every operation of a run

## Main results

* `PgJson.Hub.step_of_lookupOn`, `step_of_lookupOn_eq_none` — a connection after an operation
-/

namespace PgJson.Hub

/-- The name of the type that an operation looks up on connection `n`. -/
def Operation.lookupOn (n : Nat) : Operation → Option String
  | .findOids n? typeName => if n? = some n then some typeName else none
  | .register n? o => if n? = some n ∧ o.oid? = none then some o.typeName else none
  | _ => none

/-- The operation sets the status of connection `n` from outside. -/
def Operation.SetsStatus (n : Nat) : Operation → Prop
  | .setStatus m _ => m = n
  | _ => False

/-- Every operation of a run satisfies `P` at the hub that it finds. -/
def Along (P : Hub → Operation → Prop) : Hub → List Operation → Prop
  | _, [] => True
  | h, op :: ops => P h op ∧ Along P (h.step op).hub ops

theorem run_cons (h : Hub) (op : Operation) (ops : List Operation) :
    (h.run (op :: ops)).2 = ((h.step op).hub.run ops).2 := rfl

theorem run_append (h : Hub) (ops ops' : List Operation) : h.run (ops ++ ops') =
    ((h.run ops).1 ++ ((h.run ops).2.run ops').1, ((h.run ops).2.run ops').2) := by
  induction ops generalizing h with
  | nil => rfl
  | cons op ops ih =>
    rw [List.cons_append, run, ih]
    rfl

@[simp] theorem numbered_nil (n? : Option Nat) : numbered n? [] = [] := by
  cases n? with
  | none => rfl
  | some n => rfl

/-! ### Replacing a connection -/

variable {h : Hub} {n : Nat} {c : Connection}

theorem connections_setConnection_self (hc : h.connections[n]? = some c) (c' : Connection) :
    (h.setConnection (some n) (some c')).connections[n]? = some c' := by
  obtain ⟨hn, _⟩ := List.getElem?_eq_some_iff.mp hc
  exact List.getElem?_set_self hn

theorem connections_setConnection_of_ne {n? : Option Nat} (hne : n? ≠ some n)
    (c? : Option Connection) :
    (h.setConnection n? c?).connections[n]? = h.connections[n]? := by
  cases n? with
  | none => rfl
  | some m =>
    cases c? with
    | none => rfl
    | some c' => exact List.getElem?_set_ne fun hm => hne (congrArg some hm)

theorem connection?_some (hc : h.connections[n]? = some c) : h.connection? (some n) = some c := hc

/-! ### One operation -/

theorem step_of_lookupOn {op : Operation} {typeName : String} (hc : h.connections[n]? = some c)
    (hop : op.lookupOn n = some typeName) : ∃ t, (h.step op).hub.connections[n]? =
      some { (Catalog.findOn c typeName).exchange.connection with casters := t } := by
  cases op with
  | findOids n? name =>
    simp only [Operation.lookupOn, Option.ite_none_right_eq_some, Option.some.injEq] at hop
    obtain ⟨rfl, rfl⟩ := hop
    refine ⟨(Catalog.findOn c name).exchange.connection.casters, ?_⟩
    simp only [step, findOids, connection?_some hc]
    exact connections_setConnection_self hc _
  | register n? o =>
    simp only [Operation.lookupOn, Option.ite_none_right_eq_some, Option.some.injEq] at hop
    obtain ⟨⟨rfl, hoid⟩, rfl⟩ := hop
    obtain ⟨t, ht⟩ := Registration.ofOptions_connection?_of_lookup h.registry c hoid
    refine ⟨t, ?_⟩
    simp only [step, reporting, connection?_some hc, ht]
    exact connections_setConnection_self hc _
  | _ => cases hop

/-- A registration for which no oid is looked up changes no more than casters. -/
theorem connections_reporting (hc : h.connections[n]? = some c) {n? : Option Nat}
    {reg : Registration}
    (hreg : n? = some n → ∃ t, reg.connection? = some { c with casters := t }) :
    ∃ t, (h.reporting n? reg).hub.connections[n]? = some { c with casters := t } := by
  by_cases hn : n? = some n
  · obtain ⟨t, ht⟩ := hreg hn
    refine ⟨t, ?_⟩
    rw [reporting, hn, ht]
    exact connections_setConnection_self hc _
  · refine ⟨c.casters, ?_⟩
    rw [reporting]
    exact (connections_setConnection_of_ne hn _).trans hc

theorem step_of_lookupOn_eq_none {op : Operation} (hc : h.connections[n]? = some c)
    (hop : op.lookupOn n = none) (hset : ¬op.SetsStatus n) :
    ∃ t, (h.step op).hub.connections[n]? = some { c with casters := t } := by
  cases op with
  | register n? o =>
    refine connections_reporting hc fun hn => ?_
    subst hn
    have hoid : o.oid?.isSome := by
      simpa [Operation.lookupOn, Option.isSome_iff_ne_none] using hop
    rw [connection?_some hc]
    exact Registration.ofOptions_connection?_of_oid h.registry c hoid
  | registerBuiltin b n? globally decoder? =>
    refine connections_reporting hc fun hn => ?_
    subst hn
    rw [connection?_some hc]
    exact Registration.ofOids_connection? h.registry c _ _ _ _
  | findOids n? typeName =>
    have hne : n? ≠ some n := by
      simpa [Operation.lookupOn] using hop
    refine ⟨c.casters, ?_⟩
    simp only [step, findOids]
    cases h.connection? n? with
    | none => exact hc
    | some c' => exact (connections_setConnection_of_ne hne _).trans hc
  | install caster n? =>
    simp only [step, install]
    by_cases hn : n? = some n
    · subst hn
      rw [connection?_some hc]
      exact ⟨_, connections_setConnection_self hc _⟩
    · refine ⟨c.casters, ?_⟩
      cases h.connection? n? with
      | none => exact hc
      | some c' => exact (connections_setConnection_of_ne hn _).trans hc
  | removeOwn m oid =>
    simp only [step, removeOwn]
    by_cases hm : m = n
    · subst hm
      rw [hc]
      exact ⟨_, connections_setConnection_self hc _⟩
    · refine ⟨c.casters, ?_⟩
      cases h.connections[m]? with
      | none => exact hc
      | some c' =>
        exact (connections_setConnection_of_ne (fun hn => hm (Option.some.inj hn)) _).trans hc
  | setStatus m status =>
    refine ⟨c.casters, (connections_setConnection_of_ne ?_ _).trans hc⟩
    exact fun hm => hset (Option.some.inj hm)
  | _ => exact ⟨c.casters, hc⟩

end PgJson.Hub
