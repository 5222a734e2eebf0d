import Mathlib.Logic.Function.Basic
import PgJson.Proofs.Hub.Tables

/-!
# Clients do not see each other

A client owns a connection and does all its work for that connection alone. Several clients share
a registry, and their work can be interleaved in any way. The argument that they do not see each
other has two parts: work for a connection depends on nothing but the registry and that connection,
and it changes nothing but that connection. So a client cannot tell a hub in which others are
working from one in which it is alone.

## What is left out

Work for all connections is not isolated and is not meant to be: casters that are installed
globally, and the defaults, are there to be shared. Whatever the registry has of them at the
beginning is seen by every client, and is still there at the end.

Decoders are functions of the text (see `PgJson.Caster.Basic`), so that two clients who share one
share no state. A decoder that remembers its calls could tell one client of the other; nothing is
said about such decoders here.

## Main definitions

* `PgJson.Hub.Operation.owner?` — the connection that an operation works for alone
* `PgJson.Hub.Work` — all that such work amounts to
* `PgJson.Hub.Alike` — a client cannot tell two hubs apart
* `PgJson.Hub.outcomes`, `callsOn` — what a client is told, and what its connection is asked
* `PgJson.Hub.Clients`, `Interleaving` — several clients, and their work in some order

## Main results

* `PgJson.Hub.exists_work` — work for a connection is local to it
* `PgJson.Hub.Alike.step_own`, `step_other` — two hubs, step by step
* `PgJson.Hub.Alike.run` — a run, as one client sees it
* `PgJson.Hub.clients_isolated` — clients get what they get alone
-/

namespace PgJson.Hub

open Registration (Entry)

/-- The connection that an operation works for alone. Making casters and changing what is shared
is work for none. -/
def Operation.owner? : Operation → Option Nat
  | .register n? o => if o.globally then none else n?
  | .registerBuiltin _ n? globally _ => if globally then none else n?
  | .findOids n? _ => n?
  | .install _ n? => n?
  | .removeOwn n _ => some n
  | .findCaster n? _ => n?
  | .typecast n? _ _ => n?
  | .setStatus n _ => some n
  | _ => none

/-- What an operation tells its client. -/
structure Outcome where
  answer : Except Error Answer
  calls : List (Nat × Call)
  events : List Event

/-- The calls on connection `n`. -/
def Outcome.callsOn (n : Nat) (o : Outcome) : List Call :=
  o.calls.filterMap fun call => if call.1 = n then some call.2 else none

/-- A report without the hub. -/
def Report.outcome (report : Report) : Outcome := ⟨report.answer, report.calls, report.events⟩

/-- All that work for a connection amounts to, with what it leaves of the connection. -/
structure Work where
  answer : Except Error Answer
  connection : Connection
  calls : List Call := []
  events : List Event := []

/-- The report of work for connection `n`. -/
def Work.report (w : Work) (n : Nat) (h : Hub) : Report where
  answer := w.answer
  hub := h.setConnection (some n) (some w.connection)
  calls := numbered (some n) w.calls
  events := w.events

variable {h h' : Hub} {n m : Nat} {c : Connection} {op : Operation}

/-! ### One operation -/

theorem setConnection_self (hc : h.connections[n]? = some c) :
    h.setConnection (some n) (some c) = h := by
  obtain ⟨hn, rfl⟩ := List.getElem?_eq_some_iff.mp hc
  rw [setConnection, List.set_getElem_self]

theorem answering_eq_report (hc : h.connections[n]? = some c) (answer : Except Error Answer) :
    h.answering answer = Work.report ⟨answer, c, [], []⟩ n h := by
  rw [Work.report, setConnection_self hc]
  rfl

theorem exists_work_operation {e : Entry} (he : e.globally = false) (r : Registry)
    (c : Connection) : ∃ w : Work, ∀ h : Hub, h.registry = r → h.connections[n]? = some c →
      h.step (e.operation (some n)) = w.report n h := by
  obtain ⟨hregistry, c', hconnection⟩ := e.register_of_connection he r c
  let reg := e.register r (some c)
  refine ⟨⟨reg.result.map .casters, c', reg.calls, reg.events⟩, fun h hr hc => ?_⟩
  have hsame : { h with registry := r } = h := by rw [← hr]
  rw [step_operation, hr, connection?_some hc, reporting, hregistry, hconnection, hsame]
  rfl

/-- **Work for a connection is local to it**: it depends on the registry and the connection, but
not on the hub that they are part of, and it leaves all the rest of the hub as it is. -/
theorem exists_work (hop : op.owner? = some n) (r : Registry) (c : Connection) :
    ∃ w : Work, ∀ h : Hub, h.registry = r → h.connections[n]? = some c →
      h.step op = w.report n h := by
  cases op with
  | register n? o =>
    obtain ⟨hglobally, rfl⟩ : o.globally = false ∧ n? = some n := by
      simpa [Operation.owner?] using hop
    exact exists_work_operation (e := .options o) hglobally r c
  | registerBuiltin type n? globally decoder? =>
    obtain ⟨rfl, rfl⟩ : globally = false ∧ n? = some n := by
      simpa [Operation.owner?] using hop
    exact exists_work_operation (e := .builtin type false decoder?) rfl r c
  | findOids n? typeName =>
    obtain rfl : n? = some n := hop
    let lookup := Catalog.findOn c typeName
    refine ⟨⟨lookup.result.map .oids, lookup.exchange.connection, lookup.exchange.calls,
      lookup.exchange.events⟩, fun h _ hc => ?_⟩
    rw [step, findOids, connection?_some hc]
    rfl
  | install caster n? =>
    obtain rfl : n? = some n := hop
    refine ⟨⟨.ok .done, c.install caster, [], [caster.registration .connection]⟩,
      fun h _ hc => ?_⟩
    rw [step, install, connection?_some hc]
    rfl
  | removeOwn m oid =>
    obtain rfl : m = n := Option.some.inj hop
    refine ⟨⟨.ok (.removed (c.casters.get? oid) (c.remove oid).casters.isEmpty), c.remove oid,
      [], []⟩, fun h _ hc => ?_⟩
    rw [step, removeOwn, hc]
    rfl
  | findCaster n? oid =>
    obtain rfl : n? = some n := hop
    refine ⟨⟨.ok (.caster (r.find? (some c.casters) oid)), c, [], []⟩, fun h hr hc => ?_⟩
    rw [step, ownCasters?, connection?_some hc, hr]
    exact answering_eq_report hc _
  | typecast n? oid raw =>
    obtain rfl : n? = some n := hop
    refine ⟨⟨(r.typecast (some c.casters) oid raw).map .value, c, [], []⟩, fun h hr hc => ?_⟩
    rw [step, ownCasters?, connection?_some hc, hr]
    exact answering_eq_report hc _
  | setStatus m status =>
    obtain rfl : m = n := Option.some.inj hop
    refine ⟨⟨.ok .done, { c with status := status }, [], []⟩, fun h _ hc => ?_⟩
    rw [step, connection?_some hc]
    rfl
  | _ => cases hop

/-! ### What a client sees -/

/-- The client of connection `n` cannot tell the hubs apart. -/
structure Alike (n : Nat) (h h' : Hub) : Prop where
  registry : h'.registry = h.registry
  connection : h'.connections[n]? = h.connections[n]?

/-- The calls on connection `n` in a run. -/
def callsOn (n : Nat) (reports : List Report) : List Call :=
  reports.flatMap (·.outcome.callsOn n)

/-- What the client of connection `n` is told in a run of operations. -/
def outcomes (n : Nat) (ops : List Operation) (reports : List Report) : List Outcome :=
  ((ops.zip reports).filter (·.1.owner? = some n)).map (·.2.outcome)

theorem length_connections_setConnection (h : Hub) (n? : Option Nat) (c? : Option Connection) :
    (h.setConnection n? c?).connections.length = h.connections.length := by
  unfold setConnection
  split
  · exact List.length_set
  · rfl

/-- A client that works on two hubs that it cannot tell apart is told the same on both, and cannot
tell apart what it leaves of them. -/
theorem Alike.step_own (hs : Alike n h h') (hop : op.owner? = some n)
    (hn : n < h.connections.length) :
    (h'.step op).outcome = (h.step op).outcome ∧ Alike n (h.step op).hub (h'.step op).hub := by
  have hc := List.getElem?_eq_getElem hn
  obtain ⟨w, hw⟩ := exists_work hop h.registry h.connections[n]
  have hc' := hs.connection.trans hc
  rw [hw h rfl hc, hw h' hs.registry hc']
  refine ⟨rfl, ?_, ?_⟩
  · exact (registry_setConnection _ _ _).trans
      (hs.registry.trans (registry_setConnection _ _ _).symm)
  · exact (connections_setConnection_self hc' _).trans (connections_setConnection_self hc _).symm

/-- A client does not notice the work of another one. -/
theorem Alike.step_other (hs : Alike n h h') (hop : op.owner? = some m) (hne : m ≠ n)
    (hm : m < h.connections.length) :
    (h.step op).outcome.callsOn n = [] ∧ Alike n (h.step op).hub h' := by
  obtain ⟨w, hw⟩ := exists_work hop h.registry h.connections[m]
  rw [hw h rfl (List.getElem?_eq_getElem hm)]
  refine ⟨?_, ?_, ?_⟩
  · simp [Outcome.callsOn, Report.outcome, Work.report, numbered, hne]
  · exact hs.registry.trans (registry_setConnection _ _ _).symm
  · have hne' : some m ≠ some n := fun heq => hne (Option.some.inj heq)
    exact hs.connection.trans (connections_setConnection_of_ne hne' _).symm

/-- Work for a connection leaves the registry alone, and removes no connection. -/
theorem step_of_owner (hop : op.owner? = some m) (hm : m < h.connections.length) :
    (h.step op).hub.registry = h.registry ∧
      (h.step op).hub.connections.length = h.connections.length := by
  obtain ⟨w, hw⟩ := exists_work hop h.registry h.connections[m]
  rw [hw h rfl (List.getElem?_eq_getElem hm)]
  exact ⟨registry_setConnection _ _ _, length_connections_setConnection _ _ _⟩

/-! ### Runs -/

/-- All operations work for connections that exist. -/
def Owned (h : Hub) (ops : List Operation) : Prop :=
  ∀ op ∈ ops, ∃ m < h.connections.length, op.owner? = some m

theorem reports_cons (h : Hub) (op : Operation) (ops : List Operation) :
    (h.run (op :: ops)).1 = h.step op :: ((h.step op).hub.run ops).1 := rfl

theorem callsOn_cons (n : Nat) (report : Report) (reports : List Report) :
    callsOn n (report :: reports) = report.outcome.callsOn n ++ callsOn n reports := rfl

theorem outcomes_cons_of_owner (hop : op.owner? = some n) (ops : List Operation)
    (report : Report) (reports : List Report) :
    outcomes n (op :: ops) (report :: reports) = report.outcome :: outcomes n ops reports := by
  rw [outcomes, List.zip_cons_cons, List.filter_cons_of_pos (by simpa using hop)]
  rfl

theorem outcomes_cons_of_ne (hop : op.owner? ≠ some n) (ops : List Operation)
    (report : Report) (reports : List Report) :
    outcomes n (op :: ops) (report :: reports) = outcomes n ops reports := by
  rw [outcomes, List.zip_cons_cons, List.filter_cons_of_neg (by simpa using hop)]
  rfl

theorem Owned.of_cons {ops : List Operation} (hops : Owned h (op :: ops)) :
    (h.step op).hub.registry = h.registry ∧ Owned (h.step op).hub ops := by
  obtain ⟨⟨m, hm, hop⟩, hrest⟩ := List.forall_mem_cons.mp hops
  obtain ⟨hregistry, hlength⟩ := step_of_owner hop hm
  exact ⟨hregistry, by rwa [Owned, hlength]⟩

theorem Owned.registry_run {ops : List Operation} (hops : Owned h ops) :
    (h.run ops).2.registry = h.registry := by
  induction ops generalizing h with
  | nil => rfl
  | cons op ops ih =>
    obtain ⟨hregistry, hrest⟩ := hops.of_cons
    rw [run_cons, ih hrest, hregistry]

/-- **A run of several clients, as one of them sees it**, is a run of its own operations. -/
theorem Alike.run {ops : List Operation} (hs : Alike n h h') (hops : Owned h ops) :
    outcomes n ops (h.run ops).1 =
        (h'.run (ops.filter (·.owner? = some n))).1.map Report.outcome ∧
      callsOn n (h.run ops).1 = callsOn n (h'.run (ops.filter (·.owner? = some n))).1 ∧
      Alike n (h.run ops).2 (h'.run (ops.filter (·.owner? = some n))).2 := by
  induction ops generalizing h h' with
  | nil => exact ⟨rfl, rfl, hs⟩
  | cons op ops ih =>
    obtain ⟨m, hm, hop⟩ := hops op List.mem_cons_self
    obtain ⟨-, hrest⟩ := hops.of_cons
    rw [reports_cons, run_cons, callsOn_cons]
    by_cases hn : m = n
    · subst hn
      obtain ⟨houtcome, hs'⟩ := hs.step_own hop hm
      obtain ⟨houtcomes, hcalls, hend⟩ := ih hs' hrest
      rw [List.filter_cons_of_pos (by simpa using hop), reports_cons, run_cons, callsOn_cons,
        outcomes_cons_of_owner hop, List.map_cons, houtcome, houtcomes, hcalls]
      exact ⟨rfl, rfl, hend⟩
    · have hop' : op.owner? ≠ some n := fun h => hn (Option.some.inj (hop.symm.trans h))
      obtain ⟨hcall, hs'⟩ := hs.step_other hop hn hm
      rw [List.filter_cons_of_neg (by simpa using hop'), outcomes_cons_of_ne hop', hcall,
        List.nil_append]
      exact ih hs' hrest

/-! ### Several clients -/

/-- The operations are those of the programs of all clients, each of them in its order. -/
inductive Interleaving : (Nat → List Operation) → List Operation → Prop
  | done {programs : Nat → List Operation} (hdone : ∀ n, programs n = []) :
    Interleaving programs []
  | turn {programs : Nat → List Operation} {op : Operation} {rest ops : List Operation} (n : Nat)
    (hturn : programs n = op :: rest) (hrest : Interleaving (Function.update programs n rest) ops) :
    Interleaving programs (op :: ops)

/-- Every program is for one connection, which exists if anything is to be done. -/
structure Clients (h : Hub) (programs : Nat → List Operation) : Prop where
  owner (n : Nat) : ∀ op ∈ programs n, op.owner? = some n
  connected (n : Nat) : programs n ≠ [] → n < h.connections.length

variable {programs : Nat → List Operation} {rest ops : List Operation}

theorem Clients.turn (hclients : Clients h programs) (hturn : programs n = op :: rest) :
    op.owner? = some n ∧ n < h.connections.length ∧
      Clients h (Function.update programs n rest) := by
  have howner := hclients.owner n
  have hconnected := hclients.connected n (by simp [hturn])
  rw [hturn, List.forall_mem_cons] at howner
  refine ⟨howner.1, hconnected, fun m => ?_, fun m => ?_⟩
  · rcases eq_or_ne m n with rfl | hm
    · rw [Function.update_self]
      exact howner.2
    · rw [Function.update_of_ne hm]
      exact hclients.owner m
  · rcases eq_or_ne m n with rfl | hm
    · exact fun _ => hconnected
    · rw [Function.update_of_ne hm]
      exact hclients.connected m

theorem Interleaving.owned (hops : Interleaving programs ops) (hclients : Clients h programs) :
    Owned h ops := by
  induction hops with
  | done _ => exact fun _ hop => absurd hop List.not_mem_nil
  | turn n hturn _ ih =>
    obtain ⟨hop, hn, hrest⟩ := hclients.turn hturn
    exact List.forall_mem_cons.mpr ⟨⟨n, hn, hop⟩, ih hrest⟩

/-- The program of a client is what the interleaving has of its operations. -/
theorem Interleaving.filter_owner (hops : Interleaving programs ops)
    (hclients : Clients h programs) (n : Nat) :
    ops.filter (·.owner? = some n) = programs n := by
  induction hops with
  | done hdone => exact (hdone n).symm
  | turn m hturn _ ih =>
    obtain ⟨hop, -, hrest⟩ := hclients.turn hturn
    rcases eq_or_ne n m with rfl | hn
    · rw [List.filter_cons_of_pos (by simpa using hop), ih hrest, Function.update_self, hturn]
    · have hop' : some m ≠ some n := fun heq => hn (Option.some.inj heq).symm
      rw [List.filter_cons_of_neg (by simpa [hop] using hop'), ih hrest, Function.update_of_ne hn]

/-- **Clients get what they get alone**, in whatever way their work is interleaved: every client is
told the same, its connection is asked the same, and its connection is the same in the end, as when
it performs its program on any hub with the same registry and the same connection. The registry
ends as it began. -/
theorem clients_isolated (h : Hub) (programs : Nat → List Operation) (hclients : Clients h programs)
    (ops : List Operation) (hops : Interleaving programs ops) :
    (h.run ops).2.registry = h.registry ∧ ∀ n alone, Alike n h alone →
      outcomes n ops (h.run ops).1 = (alone.run (programs n)).1.map Report.outcome ∧
      callsOn n (h.run ops).1 = callsOn n (alone.run (programs n)).1 ∧
      (h.run ops).2.connections[n]? = (alone.run (programs n)).2.connections[n]? := by
  have howned := hops.owned hclients
  refine ⟨howned.registry_run, fun n alone hs => ?_⟩
  obtain ⟨houtcomes, hcalls, hend⟩ := hs.run howned
  rw [hops.filter_owner hclients n] at houtcomes hcalls hend
  exact ⟨houtcomes, hcalls, hend.connection.symm⟩

/-- A connection whose server knows the type that is asked for, with the oids 90 and 91. -/
def servedConnection : Connection := { script := [.answered [[some "90", some "91"]] none none] }

/-- What two clients do: one registers a type that it looks up and reads a column of it, the other
one registers the built-in type and looks up a type that its server does not know. -/
def pairPrograms : Nat → List Operation
  | 0 => [.register (some 0) {}, .typecast (some 0) 90 (some "[]")]
  | 1 => [.registerBuiltin .json (some 1) false none, .findOids (some 1) "hstore"]
  | _ => []

/-- What two clients do, each in its turn. -/
def pairInTurns : List Operation :=
  [.registerBuiltin .json (some 1) false none, .register (some 0) {},
    .findOids (some 1) "hstore", .typecast (some 0) 90 (some "[]")]

/-- The client that looks its oids up is told what it is told on a hub without the other client:
its casters, and the value of its column. -/
theorem clients_isolated_pair :
    Clients ⟨.new, [servedConnection, {}]⟩ pairPrograms ∧
      Interleaving pairPrograms pairInTurns ∧
      outcomes 0 pairInTurns ((Hub.mk .new [servedConnection, {}]).run pairInTurns).1 =
        ((Hub.mk .new [servedConnection]).run (pairPrograms 0)).1.map Report.outcome ∧
      (outcomes 0 pairInTurns ((Hub.mk .new [servedConnection, {}]).run pairInTurns).1).map
          Outcome.answer =
        [.ok (.casters ⟨"JSON", ⟨90, some 91⟩, .json⟩), .ok (.value (.array []))] := by
  have hclients : Clients ⟨.new, [servedConnection, {}]⟩ pairPrograms := by
    refine ⟨fun n => ?_, fun n hn => ?_⟩
    · match n with
      | 0 => simp [pairPrograms, Operation.owner?]
      | 1 => simp [pairPrograms, Operation.owner?]
      | n + 2 => simp [pairPrograms]
    · match n with
      | 0 => exact Nat.zero_lt_two
      | 1 => exact Nat.one_lt_two
      | n + 2 => exact absurd rfl hn
  have hturns : Interleaving pairPrograms pairInTurns :=
    .turn 1 rfl <| .turn 0 rfl <| .turn 1 rfl <| .turn 0 rfl <| .done fun n => match n with
      | 0 => rfl
      | 1 => rfl
      | _ + 2 => rfl
  exact ⟨hclients, hturns, ((clients_isolated _ pairPrograms hclients _ hturns).2 0
    ⟨.new, [servedConnection]⟩ ⟨rfl, rfl⟩).1, rfl⟩

end PgJson.Hub
