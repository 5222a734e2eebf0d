import PgJson.Proofs.Catalog.TransactionStatus
import PgJson.Proofs.Hub.Lookups

/-!
# Transactions that lookups leave open

A lookup whose fetch fails leaves its transaction open, and the next lookup takes that transaction
for one of the caller. So a single failing fetch decides about the rest of a run: an idle connection
is idle again at the end exactly when no fetch has failed in a transaction of a lookup, whatever
else the application has done in between.

## Main definitions

* `PgJson.Hub.LooksUp` — an operation makes a lookup with some property

## Main results

* `PgJson.Hub.run_of_inBlock` — a transaction of the caller stays open
* `PgJson.Hub.run_status_eq_iff` — when a connection has its first status again after a run
* `PgJson.Hub.lookups_restore_status_iff` — when lookups restore the status
-/

namespace PgJson.Hub

open Catalog (Lookup FetchFailed RollbackFailed Leaks findOn ends_findOn)

/-- The operation makes a lookup on connection `n`, of which `P` holds. -/
def LooksUp (n : Nat) (P : Connection → Lookup → Prop) (h : Hub) (op : Operation) : Prop :=
  ∃ c typeName, h.connections[n]? = some c ∧ op.lookupOn n = some typeName ∧
    P c (findOn c typeName)

variable {h : Hub} {n : Nat} {c : Connection}

/-! ### One operation -/

theorem looksUp_iff {P : Connection → Lookup → Prop} {op : Operation} {typeName : String}
    (hc : h.connections[n]? = some c) (hop : op.lookupOn n = some typeName) :
    LooksUp n P h op ↔ P c (findOn c typeName) := by
  constructor
  · rintro ⟨c', typeName', hc', hop', hP⟩
    rw [hc, Option.some.injEq] at hc'
    rw [hop, Option.some.injEq] at hop'
    subst hc' hop'
    exact hP
  · exact fun hP => ⟨c, typeName, hc, hop, hP⟩

theorem not_looksUp {P : Connection → Lookup → Prop} {op : Operation}
    (hop : op.lookupOn n = none) : ¬LooksUp n P h op := by
  rintro ⟨_, _, _, hop', _⟩
  rw [hop] at hop'
  cases hop'

theorem step_of_inBlock {op : Operation} (hc : h.connections[n]? = some c)
    (hs : c.status = .inBlock) (hset : ¬op.SetsStatus n) :
    ∃ c', (h.step op).hub.connections[n]? = some c' ∧ c'.status = .inBlock := by
  cases hop : op.lookupOn n with
  | none =>
    obtain ⟨t, ht⟩ := step_of_lookupOn_eq_none hc hop hset
    exact ⟨_, ht, hs⟩
  | some typeName =>
    obtain ⟨t, ht⟩ := step_of_lookupOn hc hop
    exact ⟨_, ht, (ends_findOn c typeName).inBlock hs⟩

/-- A lookup leaks only on an idle connection, and leaves it inside a transaction. -/
theorem step_of_leak {op : Operation} (hc : h.connections[n]? = some c)
    (hleak : LooksUp n Leaks h op) : c.status = .idle ∧
      ∃ c', (h.step op).hub.connections[n]? = some c' ∧ c'.status = .inBlock := by
  cases hop : op.lookupOn n with
  | none => exact absurd hleak (not_looksUp hop)
  | some typeName =>
    rw [looksUp_iff hc hop] at hleak
    obtain ⟨t, ht⟩ := step_of_lookupOn hc hop
    exact ⟨hleak.1, _, ht, (ends_findOn c typeName).status_of_leak hleak⟩

theorem step_of_not_leak {op : Operation} (hc : h.connections[n]? = some c)
    (hs : c.status ≠ .failed) (hset : ¬op.SetsStatus n) (hroll : ¬LooksUp n RollbackFailed h op)
    (hleak : ¬LooksUp n Leaks h op) :
    ∃ c', (h.step op).hub.connections[n]? = some c' ∧ c'.status = c.status := by
  cases hop : op.lookupOn n with
  | none =>
    obtain ⟨t, ht⟩ := step_of_lookupOn_eq_none hc hop hset
    exact ⟨_, ht, rfl⟩
  | some typeName =>
    rw [looksUp_iff hc hop] at hroll hleak
    obtain ⟨t, ht⟩ := step_of_lookupOn hc hop
    exact ⟨_, ht, (ends_findOn c typeName).status_of_not_leak hs hroll hleak⟩

/-! ### Runs -/

theorem run_of_inBlock {ops : List Operation} (hc : h.connections[n]? = some c)
    (hs : c.status = .inBlock) (hset : ∀ op ∈ ops, ¬op.SetsStatus n) :
    ∃ c', (h.run ops).2.connections[n]? = some c' ∧ c'.status = .inBlock := by
  induction ops generalizing h c with
  | nil => exact ⟨c, hc, hs⟩
  | cons op ops ih =>
    rw [List.forall_mem_cons] at hset
    obtain ⟨c', hc', hs'⟩ := step_of_inBlock hc hs hset.1
    rw [run_cons]
    exact ih hc' hs' hset.2

/-- Once a lookup has leaked, all later ones find a transaction that they do not end. -/
theorem run_status_eq_iff {ops : List Operation} (hc : h.connections[n]? = some c)
    (hs : c.status ≠ .failed) (hset : ∀ op ∈ ops, ¬op.SetsStatus n)
    (hroll : Along (fun h op => ¬LooksUp n RollbackFailed h op) h ops) :
    ∃ c', (h.run ops).2.connections[n]? = some c' ∧
      (c'.status = c.status ↔ Along (fun h op => ¬LooksUp n Leaks h op) h ops) := by
  induction ops generalizing h c with
  | nil => exact ⟨c, hc, iff_of_true rfl trivial⟩
  | cons op ops ih =>
    rw [List.forall_mem_cons] at hset
    rw [run_cons]
    by_cases hleak : LooksUp n Leaks h op
    · obtain ⟨hidle, c', hc', hs'⟩ := step_of_leak hc hleak
      obtain ⟨c'', hc'', hs''⟩ := run_of_inBlock hc' hs' hset.2
      refine ⟨c'', hc'', iff_of_false ?_ fun halong => halong.1 hleak⟩
      rw [hs'', hidle]
      decide
    · obtain ⟨c', hc', hs'⟩ := step_of_not_leak hc hs hset.1 hroll.1 hleak
      rw [← hs'] at hs ⊢
      obtain ⟨c'', hc'', hs''⟩ := ih hc' hs hset.2 hroll.2
      exact ⟨c'', hc'', hs''.trans ⟨fun halong => ⟨hleak, halong⟩, And.right⟩⟩

/-! ### When lookups restore the status -/

/-- **Lookups restore the transaction status exactly when no fetch fails in a transaction that they
have opened themselves**, as long as no rollback fails: a lookup by itself, a lookup by a
registration, and all lookups of a run. So an idle connection is idle at the end of a run exactly
when no lookup of the run has leaked. -/
theorem lookups_restore_status_iff (h : Hub) (n : Nat) (c : Connection)
    (hc : h.connections[n]? = some c) (hs : c.status ≠ .failed) :
    (∀ typeName, ¬RollbackFailed c (findOn c typeName) →
      ((findOn c typeName).exchange.connection.status = c.status ↔
        ¬Leaks c (findOn c typeName))) ∧
    (∀ o : Registration.Options, o.oid? = none → ¬RollbackFailed c (findOn c o.typeName) →
      ∃ c', (Registration.ofOptions h.registry (some c) o).connection? = some c' ∧
        (c'.status = c.status ↔ ¬Leaks c (findOn c o.typeName))) ∧
    (∀ ops : List Operation, (∀ op ∈ ops, ¬op.SetsStatus n) →
      Along (fun h op => ¬LooksUp n RollbackFailed h op) h ops →
      ∃ c', (h.run ops).2.connections[n]? = some c' ∧
        (c'.status = c.status ↔ Along (fun h op => ¬LooksUp n Leaks h op) h ops)) := by
  refine ⟨fun typeName hroll => ?_, fun o hoid hroll => ?_, fun ops hset hroll => ?_⟩
  · exact (ends_findOn c typeName).status_eq_iff hs hroll
  · obtain ⟨t, ht⟩ := Registration.ofOptions_connection?_of_lookup h.registry c hoid
    exact ⟨_, ht, (ends_findOn c o.typeName).status_eq_iff hs hroll⟩
  · exact run_status_eq_iff hc hs hset hroll

/-- A server that answers every query with no rows: a lookup, a registration, and both in a row
leave the connection idle. -/
theorem lookups_restore_status_unknown_type :
    (findOn {} "hstore").exchange.connection.status = .idle ∧
      (∃ c', (Registration.ofOptions .new (some {}) {}).connection? = some c' ∧
        c'.status = .idle) ∧
      ∃ c', ((Hub.mk .new [{}]).run
        [.findOids (some 0) "hstore", .register (some 0) {}]).2.connections[0]? = some c' ∧
        c'.status = .idle := by
  obtain ⟨hlookup, hregistration, hrun⟩ :=
    lookups_restore_status_iff (Hub.mk .new [{}]) 0 {} rfl (by decide)
  refine ⟨?_, ?_, ?_⟩
  · exact (hlookup "hstore" (by decide)).mpr (by decide)
  · obtain ⟨c', hc', hs⟩ := hregistration {} rfl (by decide)
    exact ⟨c', hc', hs.mpr (by decide)⟩
  · obtain ⟨c', hc', hs⟩ := hrun [.findOids (some 0) "hstore", .register (some 0) {}]
      (by simp [Operation.SetsStatus])
      ⟨fun hroll => absurd ((looksUp_iff rfl rfl).mp hroll) (by decide),
        fun hroll => absurd ((looksUp_iff rfl rfl).mp hroll) (by decide), trivial⟩
    exact ⟨c', hc', hs.mpr ⟨fun hleak => absurd ((looksUp_iff rfl rfl).mp hleak) (by decide),
      fun hleak => absurd ((looksUp_iff rfl rfl).mp hleak) (by decide), trivial⟩⟩

/-- An idle connection that is lost after its server has accepted the query of a lookup, before a
row is fetched. -/
def lostConnection : Connection := { script := [.answered [] (some "connection lost") none] }

/-- A fetch that fails on an idle connection: the lookup has asked for no rollback, and the
connection stays inside a transaction. -/
theorem idle_connection_left_inBlock :
    lostConnection.status = .idle ∧ lostConnection.autocommit = false ∧
      (findOn lostConnection "json").result = .error (Connection.failure "connection lost") ∧
      ¬RollbackFailed lostConnection (findOn lostConnection "json") ∧
      Call.rollback ∉ (findOn lostConnection "json").exchange.calls ∧
      (findOn lostConnection "json").exchange.connection.status = .inBlock :=
  ⟨rfl, rfl, rfl, by decide⟩

end PgJson.Hub
