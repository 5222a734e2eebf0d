import PgJson.Proofs.Hub.Calls

/-!
# Ways to register that agree

A registration gets its oids in one of three ways: they are given, they are those of a built-in
type, or they are looked up. The ways differ in nothing but that. A registration that looks oids up
is a lookup and then, if that has found them, a registration with given oids on the connection that
the lookup has left; and a built-in type is registered as if its oids and its name had been given.
So an application can look oids up by itself, and nobody will notice.

Reports are compared as a whole: the answer with all casters and their decoders, or the error, the
tables of all connections, the calls and the events.

## Main definitions

* `PgJson.Registration.Options.given` — options with oids that have been found
* `PgJson.Hub.Report.withOids` — one operation and then another that uses the oids it has found
* `PgJson.Hub.spelledOut` — a program that makes all its lookups by itself

## Main results

* `PgJson.Hub.step_register_of_lookup` — looking up, and registering what has been found
* `PgJson.Hub.step_register_builtin` — registering a built-in type
* `PgJson.Hub.registrations_agree` — the three ways
* `PgJson.Hub.run_spelledOut` — programs that make their lookups by themselves
-/

namespace PgJson

open Catalog (findOn)
open Registration (Options after ofOids ofOptions)

/-- The options with oids that have been found. -/
def Registration.Options.given (o : Options) (oids : TypeOids) : Options :=
  { o with oid? := some oids.oid, arrayOid? := oids.arrayOid }

namespace Hub

/-- Go on with the oids that have been found, if any: what both operations have asked and logged,
and what the second has answered and left. -/
def Report.withOids (report : Report) (next : TypeOids → Operation) : Report :=
  match report.answer with
  | .ok (.oids oids) =>
    let second := report.hub.step (next oids)
    { second with calls := report.calls ++ second.calls, events := report.events ++ second.events }
  | _ => report

variable {h : Hub} {n : Nat} {c : Connection} {o : Options}

/-! ### Looked-up oids -/

theorem step_findOids (hn : h.connections[n]? = some c) (typeName : String) :
    h.step (.findOids (some n) typeName) =
      { answer := (findOn c typeName).result.map .oids
        hub := h.setConnection (some n) (some (findOn c typeName).exchange.connection)
        calls := numbered (some n) (findOn c typeName).exchange.calls
        events := (findOn c typeName).exchange.events } := by
  rw [step, findOids, connection?_some hn]

/-- What happens on a connection before a registration can be reported before it. -/
theorem reporting_after (h : Hub) (n : Nat) (x : Exchange) {reg : Registration} {c : Connection}
    (hreg : reg.connection? = some c) : h.reporting (some n) (after x reg) =
      let second := (h.setConnection (some n) (some x.connection)).reporting (some n) reg
      { second with
        calls := numbered (some n) x.calls ++ second.calls
        events := x.events ++ second.events } := by
  simp [reporting, after, hreg, setConnection, numbered]

/-- **A registration that looks oids up** is a lookup and, if that has found them, a registration
with the oids that it has found. -/
theorem step_register_of_lookup (h : Hub) (n? : Option Nat) (ho : o.oid? = none) :
    h.step (.register n? o) = (h.step (.findOids n? o.typeName)).withOids
      fun oids => .register n? (o.given oids) := by
  cases hc : h.connection? n? with
  | none =>
    simp only [step, findOids, hc, ofOptions, ho]
    cases n? <;> rfl
  | some c =>
    obtain ⟨n, rfl, hn⟩ := exists_of_connection?_eq_some hc
    rw [step_findOids hn, step, hc]
    simp only [ofOptions, ho]
    cases hresult : (findOn c o.typeName).result with
    | error e => simp [reporting, after, Registration.failed, Report.withOids, Except.map]
    | ok oids =>
      have hc' := connections_setConnection_self hn (findOn c o.typeName).exchange.connection
      simp only [Report.withOids, Except.map, step, connection?_some hc', registry_setConnection]
      obtain ⟨t, ht⟩ := Registration.ofOids_connection? h.registry
        (findOn c o.typeName).exchange.connection o.globally o.decoder? (Text.upper o.typeName) oids
      exact reporting_after h n _ ht

/-- The oid of the array type does not matter to a registration that looks oids up. -/
theorem step_register_arrayOid (h : Hub) (n? : Option Nat) (ho : o.oid? = none)
    (arrayOid? : Option Oid) :
    h.step (.register n? { o with arrayOid? := arrayOid? }) = h.step (.register n? o) := by
  simp only [step, ofOptions, ho]
  cases h.connection? n? with
  | none => rfl
  | some c => rfl

/-! ### Given and fixed oids -/

/-- A registration with given oids asks nothing. -/
theorem calls_step_register (h : Hub) (n? : Option Nat) (ho : o.oid? ≠ none) :
    (h.step (.register n? o)).calls = [] := by
  rw [step, reporting, calls_ofOptions, if_neg ho]
  cases h.connection? n? with
  | none => exact numbered_nil n?
  | some c => exact numbered_nil n?

/-- A built-in type whose casters are named for it is registered as if all that had been given. -/
theorem step_register_builtin (h : Hub) (n? : Option Nat) {b : Builtin}
    (hb : Text.upper b.typeName = b.casterName) (globally : Bool) (decoder? : Option Decoder) :
    h.step (.register n? (Options.given
        { globally := globally, decoder? := decoder?, typeName := b.typeName } b.oids)) =
      h.step (.registerBuiltin b n? globally decoder?) := by
  simp only [step, ofOptions, Options.given, hb, Registration.ofBuiltin, Builtin.oids]

/-- **The ways to register agree**, on every hub and for every connection of it, or for none. With
oids that are looked up a registration comes to the same as a lookup and then, if that has found
oids, a registration with these: the same answer, so the same casters or the same error, the same
tables, the same calls. The oid of the array type that was given does not count. With given oids a
registration makes no call, and it comes to the same as registering `json` or `jsonb` as a built-in
type, if the oids and the name are those. -/
theorem registrations_agree (h : Hub) (n? : Option Nat) (o : Options) :
    (o.oid? = none →
      h.step (.register n? o) = (h.step (.findOids n? o.typeName)).withOids
        (fun oids => .register n? (o.given oids)) ∧
      ∀ arrayOid?, h.step (.register n? { o with arrayOid? := arrayOid? }) =
        h.step (.register n? o)) ∧
    (o.oid? ≠ none → (h.step (.register n? o)).calls = []) ∧
    ∀ globally decoder?,
      h.step (.register n?
          { globally := globally, decoder? := decoder?, oid? := some 114, arrayOid? := some 199,
            typeName := "json" }) =
        h.step (.registerBuiltin .json n? globally decoder?) ∧
      h.step (.register n?
          { globally := globally, decoder? := decoder?, oid? := some 3802, arrayOid? := some 3807,
            typeName := "jsonb" }) =
        h.step (.registerBuiltin .jsonb n? globally decoder?) := by
  refine ⟨fun ho => ⟨step_register_of_lookup h n? ho, step_register_arrayOid h n? ho⟩,
    calls_step_register h n?, fun globally decoder? => ⟨?_, ?_⟩⟩
  · exact step_register_builtin h n? (b := .json) (by decide) globally decoder?
  · exact step_register_builtin h n? (b := .jsonb) (by decide) globally decoder?

/-- A hub with one connection, whose server knows the type that is asked for, with the oids 90 and
91. -/
def servedHub : Hub := ⟨.new, [{ script := [.answered [[some "90", some "91"]] none none] }]⟩

/-- A registration that finds two oids on its connection, with an array oid that does not count, and
one with a given oid, which asks its connection for nothing. -/
theorem registrations_agree_found :
    servedHub.step (.register (some 0) { arrayOid? := some 5 }) =
        (servedHub.step (.findOids (some 0) "json")).withOids
          (fun oids => .register (some 0) (Options.given { arrayOid? := some 5 } oids)) ∧
      (servedHub.step (.findOids (some 0) "json")).answer = .ok (.oids ⟨90, some 91⟩) ∧
      (servedHub.step (.register (some 0) { arrayOid? := some 5 })).answer =
        .ok (.casters ⟨"JSON", ⟨90, some 91⟩, .json⟩) ∧
      (servedHub.step (.register (some 0) { oid? := some 90 })).calls = [] ∧
      (servedHub.step (.register (some 0) { oid? := some 90 })).answer =
        .ok (.casters ⟨"JSON", ⟨90, none⟩, .json⟩) :=
  ⟨((registrations_agree servedHub (some 0) { arrayOid? := some 5 }).1 rfl).1, rfl, rfl,
    (registrations_agree servedHub (some 0) { oid? := some 90 }).2.1 (by simp), rfl⟩

/-! ### Programs -/

/-- What an operation stands for: a registration that looks oids up is a lookup, followed by a
registration with the oids if these are found. -/
def Operation.spelledOut (h : Hub) : Operation → List Operation
  | .register n? o =>
    if o.oid? = none then
      .findOids n? o.typeName :: match (h.step (.findOids n? o.typeName)).answer with
        | .ok (.oids oids) => [.register n? (o.given oids)]
        | _ => []
    else [.register n? o]
  | op => [op]

/-- A program that makes all its lookups by itself. -/
def spelledOut : Hub → List Operation → List Operation
  | _, [] => []
  | h, op :: ops => op.spelledOut h ++ spelledOut (h.step op).hub ops

theorem run_spelledOut_op (h : Hub) (op : Operation) :
    (h.run (op.spelledOut h)).2 = (h.step op).hub ∧
      (h.run (op.spelledOut h)).1.flatMap (·.calls) = (h.step op).calls ∧
      (h.run (op.spelledOut h)).1.flatMap (·.events) = (h.step op).events := by
  have hself (op : Operation) : (h.run [op]).2 = (h.step op).hub ∧
      (h.run [op]).1.flatMap (·.calls) = (h.step op).calls ∧
      (h.run [op]).1.flatMap (·.events) = (h.step op).events :=
    ⟨rfl, List.append_nil _, List.append_nil _⟩
  cases op with
  | register n? o =>
    by_cases ho : o.oid? = none
    · rw [Operation.spelledOut, if_pos ho, step_register_of_lookup h n? ho, Report.withOids]
      split
      · refine ⟨rfl, ?_, ?_⟩
        · exact congrArg (_ ++ ·) (List.append_nil _)
        · exact congrArg (_ ++ ·) (List.append_nil _)
      · exact hself _
    · rw [Operation.spelledOut, if_neg ho]
      exact hself _
  | _ => exact hself _

/-- **A program may make its lookups by itself**: it leaves the same hub, and it asks and logs the
same in the same order. -/
theorem run_spelledOut (h : Hub) (ops : List Operation) :
    (h.run (spelledOut h ops)).2 = (h.run ops).2 ∧
      (h.run (spelledOut h ops)).1.flatMap (·.calls) = (h.run ops).1.flatMap (·.calls) ∧
      (h.run (spelledOut h ops)).1.flatMap (·.events) = (h.run ops).1.flatMap (·.events) := by
  induction ops generalizing h with
  | nil => exact ⟨rfl, rfl, rfl⟩
  | cons op ops ih =>
    obtain ⟨hhub, hcalls, hevents⟩ := run_spelledOut_op h op
    obtain ⟨hhub', hcalls', hevents'⟩ := ih (h.step op).hub
    simp only [spelledOut, run_append, hhub, List.flatMap_append, hcalls, hevents, hhub', hcalls',
      hevents', run_cons, reports_cons, List.flatMap_cons]
    exact ⟨trivial, trivial, trivial⟩

end Hub

end PgJson
