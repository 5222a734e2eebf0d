import Mathlib.Data.List.Forall2
import PgJson.Proofs.Catalog.Statement
import PgJson.Proofs.Hub.Isolation
import PgJson.Proofs.Hub.TransactionStatus

/-!
# What connections are asked

A rollback ends whatever transaction its connection is in, so a lookup must not ask for one inside a
transaction of the caller. It goes by the status that it finds before it has asked anything, since
its own query may change that. What it finds depends on the whole run: on replies that earlier
lookups have left, on faults that are still pending, and on a transaction that an earlier lookup has
failed to end. So calls are told operation by operation, with the connection as each operation
finds it.

## Main definitions

* `PgJson.Hub.lookups` — the lookups of a run on one connection, operation by operation
* `PgJson.Hub.Asked` — the calls that belong to a lookup, or to none

## Main results

* `PgJson.Hub.asked_step`, `asked_run` — all calls are those of lookups
* `PgJson.Hub.run_of_spared` — connections on which no lookup needs a rollback are asked for none
* `PgJson.Hub.lookups_spare_transactions` — calls in a run, and the rollbacks that it never asks for
-/

namespace PgJson

open Catalog (findOn ends_findOn)

/-! ### One lookup -/

namespace Hub

/-- The calls that an operation makes on a connection, where `none` stands for an operation that
makes no lookup there, and otherwise the connection is as the lookup finds it. -/
inductive Asked : Option (Connection × String) → List Call → Prop
  | nothing : Asked none []
  | unsent {c : Connection} {typeName : String} (hname : '\x00' ∈ typeName.toList) :
    Asked (some (c, typeName)) []
  | refused {c : Connection} {typeName sql : String}
    (hsql : Catalog.query c.version typeName = .ok sql) (hexecute : ¬c.Executes) :
    Asked (some (c, typeName)) [.execute sql]
  | fetched {c : Connection} {typeName sql : String}
    (hsql : Catalog.query c.version typeName = .ok sql) (hexecute : c.Executes)
    (hkeep : ¬(c.Fetches ∧ c.NeedsRollback)) :
    Asked (some (c, typeName)) [.execute sql, .fetch]
  | rolledBack {c : Connection} {typeName sql : String}
    (hsql : Catalog.query c.version typeName = .ok sql) (hexecute : c.Executes)
    (hfetch : c.Fetches) (hroll : c.NeedsRollback) :
    Asked (some (c, typeName)) [.execute sql, .fetch, .rollback]

theorem asked_of_ends {c : Connection} {typeName : String} {l : Catalog.Lookup}
    (h : Catalog.Ends c typeName l) : Asked (some (c, typeName)) l.exchange.calls := by
  cases h with
  | unsent hsql => exact .unsent (Catalog.mem_of_query_eq_error hsql)
  | refused hsql hreply => exact .refused hsql (Connection.not_executes_of_refused hreply)
  | unfetched hsql hreply =>
    exact .fetched hsql (Connection.executes_of_answered hreply)
      fun h => Connection.not_fetches_of_answered hreply h.1
  | kept hsql hreply hkeep =>
    exact .fetched hsql (Connection.executes_of_answered hreply) fun h => hkeep h.2
  | stuck hsql hreply hroll | rolledBack hsql hreply hroll =>
    exact .rolledBack hsql (Connection.executes_of_answered hreply)
      (Connection.fetches_of_answered hreply) hroll

theorem Asked.rollback_notMem {lookup? : Option (Connection × String)} {calls : List Call}
    (h : Asked lookup? calls) (hkeep : ∀ l ∈ lookup?, ¬l.1.NeedsRollback) :
    Call.rollback ∉ calls := by
  cases h with
  | nothing => exact List.not_mem_nil
  | unsent _ => exact List.not_mem_nil
  | refused _ _ => simp
  | fetched _ _ _ => simp
  | rolledBack _ _ _ hroll => exact absurd hroll (hkeep _ rfl)

/-! ### One operation -/

/-- The lookup that an operation makes on connection `n`, with the connection as it finds it. -/
def lookup? (n : Nat) (h : Hub) (op : Operation) : Option (Connection × String) :=
  (h.connections[n]?).bind fun c => (op.lookupOn n).map (c, ·)

variable {h : Hub} {n : Nat} {c : Connection} {op : Operation}

/-- The calls of a lookup, or none if there is nothing to look up or no connection to ask. -/
def lookupCalls (c? : Option Connection) (typeName? : Option String) : List Call :=
  match c?, typeName? with
  | some c, some typeName => (findOn c typeName).exchange.calls
  | _, _ => []

theorem asked_lookupCalls (c? : Option Connection) (typeName? : Option String) :
    Asked (c?.bind fun c => typeName?.map (c, ·)) (lookupCalls c? typeName?) := by
  cases c? with
  | none => exact .nothing
  | some c =>
    cases typeName? with
    | none => exact .nothing
    | some typeName => exact asked_of_ends (ends_findOn c typeName)

/-- A registration makes the calls of its lookup, if it makes one. -/
theorem calls_ofOptions (r : Registry) (c? : Option Connection) (o : Registration.Options) :
    (Registration.ofOptions r c? o).calls =
      lookupCalls c? (if o.oid? = none then some o.typeName else none) := by
  simp only [Registration.ofOptions]
  cases o.oid? with
  | some oid =>
    rw [if_neg (Option.some_ne_none oid)]
    cases c? <;> exact Registration.ofOids_calls _ _ _ _ _ _
  | none =>
    rw [if_pos rfl]
    cases c? with
    | none => rfl
    | some c =>
      simp only [Registration.after, lookupCalls]
      cases (findOn c o.typeName).result with
      | ok oids => simp only [Registration.ofOids_calls, List.append_nil]
      | error e => simp only [Registration.failed, List.append_nil]

theorem lookup?_eq_none (hop : op.lookupOn n = none) : h.lookup? n op = none := by
  rw [lookup?, hop]
  cases h.connections[n]? with
  | none => rfl
  | some c => rfl

/-- An operation that has nothing to look up, and that makes no call. -/
theorem asked_of_silent (hop : op.lookupOn n = none) (hcalls : (h.step op).calls = []) :
    Asked (h.lookup? n op) ((h.step op).outcome.callsOn n) := by
  rw [lookup?_eq_none hop, Outcome.callsOn, Report.outcome, hcalls]
  exact .nothing

/-- An operation for one connection asks no other. -/
theorem asked_of_numbered (n? : Option Nat) (typeName? : Option String)
    (hop : op.lookupOn n = if n? = some n then typeName? else none)
    (hcalls : (h.step op).calls = numbered n? (lookupCalls (h.connection? n?) typeName?)) :
    Asked (h.lookup? n op) ((h.step op).outcome.callsOn n) := by
  by_cases hn : n? = some n
  · subst hn
    have hself : (h.step op).outcome.callsOn n =
        lookupCalls (h.connection? (some n)) typeName? := by
      simp [Outcome.callsOn, Report.outcome, hcalls, numbered]
    rw [lookup?, hop, if_pos rfl, hself]
    exact asked_lookupCalls _ _
  · have hother : (h.step op).outcome.callsOn n = [] := by
      rw [Outcome.callsOn, Report.outcome, hcalls]
      cases n? with
      | none => rfl
      | some m =>
        have hm : m ≠ n := fun heq => hn (congrArg some heq)
        simp [numbered, hm]
    rw [lookup?_eq_none (hop.trans (if_neg hn)), hother]
    exact .nothing

/-- The calls of an operation are those of its lookup. -/
theorem asked_step (n : Nat) (h : Hub) (op : Operation) :
    Asked (h.lookup? n op) ((h.step op).outcome.callsOn n) := by
  cases op with
  | findOids n? typeName =>
    refine asked_of_numbered n? (some typeName) rfl ?_
    rw [step, findOids]
    cases h.connection? n? with
    | none => cases n? <;> rfl
    | some c => rfl
  | register n? o =>
    refine asked_of_numbered n? (if o.oid? = none then some o.typeName else none) (ite_and ..) ?_
    rw [← calls_ofOptions]
    rfl
  | registerBuiltin type n? globally decoder? =>
    refine asked_of_silent rfl ?_
    rw [step, reporting, Registration.ofBuiltin, Registration.ofOids_calls, numbered_nil]
  | install caster n? =>
    refine asked_of_silent rfl ?_
    rw [step, install]
    split <;> rfl
  | removeOwn m oid =>
    refine asked_of_silent rfl ?_
    rw [step, removeOwn]
    split <;> rfl
  | _ => exact asked_of_silent rfl rfl

/-! ### Runs -/

/-- The lookups that a run makes on connection `n`, operation by operation. -/
def lookups (n : Nat) : Hub → List Operation → List (Option (Connection × String))
  | _, [] => []
  | h, op :: ops => h.lookup? n op :: lookups n (h.step op).hub ops

/-- The calls of a run are those of its lookups. -/
theorem asked_run (n : Nat) (h : Hub) (ops : List Operation) :
    List.Forall₂ Asked (lookups n h ops) ((h.run ops).1.map (·.outcome.callsOn n)) := by
  induction ops generalizing h with
  | nil => exact .nil
  | cons op ops ih => exact .cons (asked_step n h op) (ih (h.step op).hub)

/-- An operation asks for no rollback on a connection that needs none. -/
theorem rollback_notMem_step (hc : h.connections[n]? = some c) (hkeep : ¬c.NeedsRollback)
    (op : Operation) : Call.rollback ∉ (h.step op).outcome.callsOn n := by
  refine (asked_step n h op).rollback_notMem fun l hl => ?_
  rw [lookup?, hc, Option.bind_some, Option.mem_def, Option.map_eq_some_iff] at hl
  obtain ⟨typeName, -, rfl⟩ := hl
  exact hkeep

/-- A condition under which lookups need no rollback, and which operations keep, spares a
connection all rollbacks in a run. -/
theorem run_of_spared {P : Connection → Prop} {ops : List Operation}
    (hspared : ∀ c, P c → ¬c.NeedsRollback)
    (hstep : ∀ op ∈ ops, ∀ (h : Hub) (c : Connection), h.connections[n]? = some c → P c →
      ∃ c', (h.step op).hub.connections[n]? = some c' ∧ P c')
    (hc : h.connections[n]? = some c) (hP : P c) :
    Call.rollback ∉ callsOn n (h.run ops).1 ∧
      ∃ c', (h.run ops).2.connections[n]? = some c' ∧ P c' := by
  induction ops generalizing h c with
  | nil => exact ⟨List.not_mem_nil, c, hc, hP⟩
  | cons op ops ih =>
    rw [List.forall_mem_cons] at hstep
    obtain ⟨c', hc', hP'⟩ := hstep.1 h c hc hP
    obtain ⟨hcalls, hend⟩ := ih hstep.2 hc' hP'
    rw [reports_cons, callsOn_cons, run_cons, List.mem_append, not_or]
    exact ⟨⟨rollback_notMem_step hc (hspared c hP) op, hcalls⟩, hend⟩

/-! ### Autocommit -/

theorem autocommit_of_ends {typeName : String} {l : Catalog.Lookup}
    (h : Catalog.Ends c typeName l) : l.exchange.connection.autocommit = c.autocommit := by
  cases h <;> rfl

/-- No operation changes whether a connection commits by itself. -/
theorem step_of_autocommit (hc : h.connections[n]? = some c) (hauto : c.autocommit = true)
    (op : Operation) :
    ∃ c', (h.step op).hub.connections[n]? = some c' ∧ c'.autocommit = true := by
  cases hop : op.lookupOn n with
  | some typeName =>
    obtain ⟨t, ht⟩ := step_of_lookupOn hc hop
    exact ⟨_, ht, (autocommit_of_ends (ends_findOn c typeName)).trans hauto⟩
  | none =>
    by_cases hset : op.SetsStatus n
    · cases op with
      | setStatus m status =>
        obtain rfl : m = n := hset
        refine ⟨{ c with status := status }, ?_, hauto⟩
        rw [step, connection?_some hc]
        exact connections_setConnection_self hc _
      | _ => exact hset.elim
    · obtain ⟨t, ht⟩ := step_of_lookupOn_eq_none hc hop hset
      exact ⟨_, ht, hauto⟩

/-! ### Rollbacks that are never asked for -/

/-- **Lookups spare the transactions of the caller**, in every run of a hub. Connections are asked
for nothing but the calls of lookups: none for a name with a NUL character, and otherwise one
statement, a fetch if that has not been refused, and a rollback exactly if the fetch has succeeded
and the lookup has found the connection neither inside a transaction nor committing by itself. So
no operation asks for a rollback inside a transaction, which stays open until the status is set from
outside, and none at all on a connection that commits by itself. -/
theorem lookups_spare_transactions (h : Hub) (n : Nat) (ops : List Operation) :
    List.Forall₂ Asked (lookups n h ops) ((h.run ops).1.map (·.outcome.callsOn n)) ∧
    ∀ c, h.connections[n]? = some c →
      (c.status = .inBlock → (∀ op ∈ ops, ¬op.SetsStatus n) →
        Call.rollback ∉ callsOn n (h.run ops).1 ∧
          ∃ c', (h.run ops).2.connections[n]? = some c' ∧ c'.status = .inBlock) ∧
      (c.autocommit = true → Call.rollback ∉ callsOn n (h.run ops).1) := by
  refine ⟨asked_run n h ops, fun c hc => ⟨fun hs hset => ?_, fun hauto => ?_⟩⟩
  · exact run_of_spared (P := fun c => c.status = .inBlock) (fun c hs hroll => hroll.1 hs)
      (fun op hop h c hc hs => step_of_inBlock hc hs (hset op hop)) hc hs
  · have hkeep : ∀ c : Connection, c.autocommit = true → ¬c.NeedsRollback := by
      intro c hauto hroll
      rw [hroll.2] at hauto
      cases hauto
    exact (run_of_spared hkeep (fun op _ h c hc hauto => step_of_autocommit hc hauto op) hc
      hauto).1

/-- Two lookups inside a transaction of the caller, the first of which fails to fetch, and a
registration on a connection that commits by itself. -/
theorem lookups_spare_transactions_failed_fetch :
    Call.rollback ∉ callsOn 0 ((Hub.mk .new
        [{ status := .inBlock, script := [.answered [] (some "lost") none] },
          { autocommit := true, script := [.answered [[some "90"]] none none] }]).run
      [.findOids (some 0) "json", .register (some 1) {}, .register (some 0) {}]).1 ∧
    Call.rollback ∉ callsOn 1 ((Hub.mk .new
        [{ status := .inBlock, script := [.answered [] (some "lost") none] },
          { autocommit := true, script := [.answered [[some "90"]] none none] }]).run
      [.findOids (some 0) "json", .register (some 1) {}, .register (some 0) {}]).1 :=
  ⟨(((lookups_spare_transactions _ 0 _).2 _ rfl).1 rfl (by simp [Operation.SetsStatus])).1,
    ((lookups_spare_transactions _ 1 _).2 _ rfl).2 rfl⟩

end Hub

end PgJson
