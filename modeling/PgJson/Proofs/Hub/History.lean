import Mathlib.Data.List.Induction
import PgJson.Proofs.Hub.Tables

/-!
# The history of a hub

What a column gets depends on everything that has been installed and removed before, at two
places. `history` is the list of these changes, read off from the operations of a run and from
their answers, and the tables are nothing but a summary of it: under an oid a table finds the
caster of the last change that concerns the oid, if that was an installation.

## What a history does not say

Operations that fail, lookups, casts and changes of the defaults leave no trace in it. The
decoders are bound early instead: a caster that is made without a decoder keeps the default of
that moment, so the default matters when casters are made and never again.

## Main definitions

* `PgJson.Hub.Change`, `Hub.history` — what installing and removing casters amounts to
* `PgJson.Hub.Stands`, `InForce` — the caster that a place has for an oid, and that a column gets
* `PgJson.Hub.defaultDecoder` — the default decoder after some operations

## Main results

* `PgJson.Hub.found_step`, `found_run` — tables follow the history
* `PgJson.Hub.foldl_effect_eq_some_iff` — the last change decides
* `PgJson.Hub.exists_of_mem_history`, `Makes.decoder` — where casters come from, and their decoders
* `PgJson.Hub.typecast_refines_history` — what columns get after a run
-/

namespace PgJson.Hub

open Registration (Entry)

/-- A change of one table. -/
inductive Change where
  | install (p : Option Nat) (caster : Caster)
  | remove (p : Option Nat) (oid : Oid)

/-- The change is about what the place `p` has for an oid. -/
def Change.Concerns (p : Option Nat) (oid : Oid) : Change → Prop
  | .install q caster => q = p ∧ oid ∈ caster.oids
  | .remove q o => q = p ∧ o = oid

instance (p : Option Nat) (oid : Oid) : DecidablePred (Change.Concerns p oid)
  | .install _ _ => inferInstanceAs (Decidable (_ ∧ _))
  | .remove _ _ => inferInstanceAs (Decidable (_ ∧ _))

/-- What a place has for an oid after a change, if it has had `found?` before. -/
def Change.effect (p : Option Nat) (oid : Oid) (found? : Option Caster) : Change → Option Caster
  | .install q caster => if q = p ∧ oid ∈ caster.oids then some caster else found?
  | .remove q o => if q = p ∧ o = oid then none else found?

/-- What a registration with the given answer has installed. -/
def installed (p : Option Nat) : Except Error Answer → List Change
  | .ok (.casters cs) => cs.all.map (.install p)
  | _ => []

/-- The changes that an operation makes. Whether a registration makes any, and which, is told by
its answer. -/
def changes (h : Hub) (op : Operation) : List Change :=
  match op with
  | .register n? o => installed (h.place n? o.globally) (h.step op).answer
  | .registerBuiltin _ n? globally _ => installed (h.place n? globally) (h.step op).answer
  | .install caster n? => [.install (h.place n? false) caster]
  | .unregister oid => [.remove none oid]
  | .removeOwn n oid => [.remove (some n) oid]
  | _ => []

/-- The changes that operations make, one after the other. -/
def history (h : Hub) : List Operation → List Change
  | [] => []
  | op :: ops => h.changes op ++ (h.step op).hub.history ops

/-- What a place has for an oid. -/
def found (h : Hub) (p : Option Nat) (oid : Oid) : Option Caster := (h.table? p).bind (·.get? oid)

/-! ### Tables -/

variable {h h' : Hub} {p : Option Nat} {oid : Oid}

theorem found_congr (ht : h'.table? p = h.table? p) : h'.found p oid = h.found p oid := by
  rw [found, found, ht]

theorem find?_eq_found (h : Hub) (n? : Option Nat) (oid : Oid) :
    h.registry.find? (h.ownCasters? n?) oid = (h.found n? oid).or (h.found none oid) := by
  cases n? with
  | none => exact (Option.or_self (o := h.registry.casters.get? oid)).symm
  | some n => rfl

theorem Untouched.found (hu : Untouched h h') : h'.found p oid = h.found p oid := by
  refine found_congr ?_
  cases p with
  | none => exact congrArg (fun r => some r.casters) hu.registry
  | some n => exact hu.own n

/-- Installing in a table is what installing at its place amounts to. -/
theorem get?_foldl_insert (casters : List Caster) (t : Caster.Table) :
    (casters.foldl Caster.Table.insert t).get? oid =
      (casters.map (.install p)).foldl (Change.effect p oid) (t.get? oid) := by
  induction casters generalizing t with
  | nil => rfl
  | cons caster casters ih =>
    rw [List.foldl_cons, ih, Caster.Table.get?_insert, List.map_cons, List.foldl_cons,
      Change.effect]
    simp only [true_and]

theorem foldl_effect_of_ne {q : Option Nat} (hq : q ≠ p) (casters : List Caster)
    (found? : Option Caster) :
    (casters.map (.install q)).foldl (Change.effect p oid) found? = found? := by
  induction casters with
  | nil => rfl
  | cons caster casters ih =>
    rw [List.map_cons, List.foldl_cons, Change.effect, if_neg fun hqp => hq hqp.1, ih]

theorem Installed.found {cs : TypeCasters} {q : Option Nat} (hi : Installed cs q h h') :
    h'.found p oid = (cs.all.map (.install q)).foldl (Change.effect p oid) (h.found p oid) := by
  rcases eq_or_ne q p with rfl | hq
  · obtain ⟨t, t', ht, ht', hget⟩ := hi.here
    rw [Hub.found, Hub.found, ht, ht', Option.bind_some, Option.bind_some, hget,
      ← get?_foldl_insert, cs.get?_foldl_insert]
  · rw [foldl_effect_of_ne hq]
    exact found_congr (hi.elsewhere p hq.symm)

theorem found_setConnection {n : Nat} {c : Connection} (hc : h.connections[n]? = some c)
    (c' : Connection) : (h.setConnection (some n) (some c')).found p oid =
      if p = some n then c'.casters.get? oid else h.found p oid := by
  cases p with
  | none => rfl
  | some m =>
    rw [found, table?, ownCasters?_setConnection hc]
    by_cases hm : m = n
    · rw [if_pos hm, if_pos (congrArg some hm)]
      rfl
    · rw [if_neg hm, if_neg fun heq => hm (Option.some.inj heq)]
      rfl

theorem found_setConnection_of_casters {n? : Option Nat} {c? : Option Connection}
    (hc? : c?.map (·.casters) = (h.connection? n?).map (·.casters)) :
    (h.setConnection n? c?).found p oid = h.found p oid := by
  refine found_congr ?_
  cases p with
  | none => exact congrArg (fun r => some r.casters) (registry_setConnection h n? c?)
  | some m => exact ownCasters?_setConnection_of_casters hc? m

theorem found_none {n : Nat} (hc : h.connections[n]? = none) : h.found (some n) oid = none := by
  rw [found, table?, ownCasters?, connection?, Option.bind_some, hc]
  rfl

theorem found_some {n : Nat} {c : Connection} (hc : h.connections[n]? = some c) :
    h.found (some n) oid = c.casters.get? oid := by
  rw [found, table?_some hc, Option.bind_some]

/-! ### One operation -/

theorem changes_operation (h : Hub) (n? : Option Nat) (e : Entry) : h.changes (e.operation n?) =
    installed (h.place n? e.globally) (h.step (e.operation n?)).answer := by
  cases e with
  | builtin type globally decoder? => rfl
  | options o => rfl

theorem found_step_operation (h : Hub) (n? : Option Nat) (e : Entry) :
    (h.step (e.operation n?)).hub.found p oid =
      (h.changes (e.operation n?)).foldl (Change.effect p oid) (h.found p oid) := by
  rw [changes_operation, answer_operation]
  cases hresult : (e.register h.registry (h.connection? n?)).result with
  | error error => exact (untouched_of_error hresult).found
  | ok cs => exact (installed_of_ok hresult).found

theorem found_step_install (h : Hub) (caster : Caster) (n? : Option Nat) :
    (h.step (.install caster n?)).hub.found p oid =
      Change.effect p oid (h.found p oid) (.install (h.place n? false) caster) := by
  rw [step, install, place]
  cases hc : h.connection? n? with
  | none =>
    cases p with
    | none =>
      have hscope : Registration.scope none false = .global := rfl
      simp only [hscope, Change.effect, true_and]
      exact Caster.Table.get?_insert h.registry.casters caster oid
    | some m => rfl
  | some c =>
    obtain ⟨n, rfl, hn⟩ := exists_of_connection?_eq_some hc
    simp only [found_setConnection hn, Registration.scope, Change.effect]
    rcases eq_or_ne p (some n) with rfl | hp
    · rw [if_pos rfl, found_some hn, Connection.install, Caster.Table.get?_insert]
      simp
    · rw [if_neg hp]
      simp [hp.symm]

theorem found_step_unregister (h : Hub) (o : Oid) : (h.step (.unregister o)).hub.found p oid =
    Change.effect p oid (h.found p oid) (.remove none o) := by
  cases p with
  | none =>
    simp only [Change.effect, true_and, @eq_comm _ o]
    exact Caster.Table.get?_erase h.registry.casters o oid
  | some m => rfl

/-- On a connection that does not exist there is nothing to remove, and nothing is found. -/
theorem found_step_removeOwn (h : Hub) (n : Nat) (o : Oid) :
    (h.step (.removeOwn n o)).hub.found p oid =
      Change.effect p oid (h.found p oid) (.remove (some n) o) := by
  rw [step, removeOwn]
  cases hc : h.connections[n]? with
  | none =>
    by_cases hp : some n = p ∧ o = oid
    · rw [Change.effect, if_pos hp, ← hp.1]
      exact found_none hc
    · rw [Change.effect, if_neg hp]
      rfl
  | some c =>
    simp only [found_setConnection hc, Change.effect]
    rcases eq_or_ne p (some n) with rfl | hp
    · rw [if_pos rfl, found_some hc, Connection.remove, Caster.Table.get?_erase]
      simp [eq_comm]
    · rw [if_neg hp]
      simp [hp.symm]

/-- **Tables follow the history**, one operation at a time. -/
theorem found_step (h : Hub) (op : Operation) : (h.step op).hub.found p oid =
    (h.changes op).foldl (Change.effect p oid) (h.found p oid) := by
  cases op with
  | register n? o => exact found_step_operation h n? (.options o)
  | registerBuiltin type n? globally decoder? =>
    exact found_step_operation h n? (.builtin type globally decoder?)
  | findOids n? typeName =>
    rw [step, findOids]
    cases hc : h.connection? n? with
    | none => rfl
    | some c =>
      refine found_setConnection_of_casters ?_
      rw [hc]
      exact congrArg some (Catalog.ends_findOn c typeName).casters
  | install caster n? => exact found_step_install h caster n?
  | unregister o => exact found_step_unregister h o
  | removeOwn n o => exact found_step_removeOwn h n o
  | setStatus n status =>
    refine found_setConnection_of_casters ?_
    rw [Option.map_map]
    rfl
  | _ => rfl

/-- **Tables follow the history** of a whole run. -/
theorem found_run (h : Hub) (ops : List Operation) : (h.run ops).2.found p oid =
    (h.history ops).foldl (Change.effect p oid) (h.found p oid) := by
  induction ops generalizing h with
  | nil => rfl
  | cons op ops ih => rw [run_cons, ih, found_step, history, List.foldl_append]

/-! ### The last change decides -/

/-- The caster is what the place `p` has for an oid: it has been installed there, and no later
change concerns the oid. -/
def Stands (changes : List Change) (p : Option Nat) (oid : Oid) (caster : Caster) : Prop :=
  ∃ before after, changes = before ++ .install p caster :: after ∧ oid ∈ caster.oids ∧
    ∀ change ∈ after, ¬change.Concerns p oid

/-- The caster is what a column on connection `n?` gets for an oid: that of the connection, and
the global one only if the connection has none. -/
def InForce (changes : List Change) (n? : Option Nat) (oid : Oid) (caster : Caster) : Prop :=
  Stands changes n? oid caster ∨
    (∀ own, ¬Stands changes n? oid own) ∧ Stands changes none oid caster

theorem effect_of_not_concerns {change : Change} (hchange : ¬change.Concerns p oid)
    (found? : Option Caster) : Change.effect p oid found? change = found? := by
  cases change with
  | install q caster => exact if_neg hchange
  | remove q o => exact if_neg hchange

theorem stands_concat {changes : List Change} {change : Change} {caster : Caster} :
    Stands (changes ++ [change]) p oid caster ↔
      (change = .install p caster ∧ oid ∈ caster.oids) ∨
        ¬change.Concerns p oid ∧ Stands changes p oid caster := by
  constructor
  · rintro ⟨before, after, heq, hmem, hafter⟩
    rcases List.eq_nil_or_concat after with rfl | ⟨after, last, rfl⟩
    · obtain ⟨-, hchange⟩ := List.append_inj' heq rfl
      exact .inl ⟨List.singleton_inj.mp hchange, hmem⟩
    · rw [List.concat_eq_append, ← List.cons_append, ← List.append_assoc] at heq
      obtain ⟨rfl, hlast⟩ := List.append_inj' heq rfl
      obtain rfl := List.singleton_inj.mp hlast
      rw [List.concat_eq_append, List.forall_mem_append] at hafter
      exact .inr ⟨hafter.2 _ List.mem_cons_self, before, after, rfl, hmem, hafter.1⟩
  · rintro (⟨rfl, hmem⟩ | ⟨hchange, before, after, rfl, hmem, hafter⟩)
    · exact ⟨changes, [], rfl, hmem, fun _ h => absurd h List.not_mem_nil⟩
    · refine ⟨before, after ++ [change], by simp, hmem, ?_⟩
      rw [List.forall_mem_append, List.forall_mem_singleton]
      exact ⟨hafter, hchange⟩

theorem foldl_effect_eq_some_iff {changes : List Change} {caster : Caster} :
    changes.foldl (Change.effect p oid) none = some caster ↔ Stands changes p oid caster := by
  induction changes using List.reverseRecOn with
  | nil =>
    constructor
    · intro h
      cases h
    · rintro ⟨before, after, h, -⟩
      simp at h
  | append_singleton changes change ih =>
    rw [List.foldl_append, List.foldl_cons, List.foldl_nil, stands_concat, ← ih]
    by_cases hchange : change.Concerns p oid
    · cases change with
      | install q c =>
        obtain ⟨rfl, hmem⟩ := hchange
        rw [Change.effect, if_pos ⟨rfl, hmem⟩]
        constructor
        · intro heq
          obtain rfl := Option.some.inj heq
          exact .inl ⟨rfl, hmem⟩
        · rintro (⟨heq, -⟩ | ⟨hnot, -⟩)
          · obtain ⟨-, rfl⟩ := Change.install.inj heq
            rfl
          · exact absurd ⟨rfl, hmem⟩ hnot
      | remove q o =>
        have heffect (found? : Option Caster) :
            Change.effect p oid found? (.remove q o) = none := if_pos hchange
        rw [heffect]
        constructor
        · intro heq
          cases heq
        · rintro (⟨heq, -⟩ | ⟨hnot, -⟩)
          · cases heq
          · exact absurd hchange hnot
    · rw [effect_of_not_concerns hchange]
      refine ⟨fun h => .inr ⟨hchange, h⟩, ?_⟩
      rintro (⟨rfl, hmem⟩ | ⟨-, h⟩)
      · exact absurd ⟨rfl, hmem⟩ hchange
      · exact h

/-! ### Where casters come from

A caster that is installed by itself is what the application makes of it. All others are made for
a type, with a decoder that is settled at that moment. -/

/-- The decoder that is given to an operation that makes casters, if any is. -/
def Operation.givenDecoder? : Operation → Option (Option Decoder)
  | .register _ o => some o.decoder?
  | .registerBuiltin _ _ _ decoder? => some decoder?
  | .makeCasters _ decoder? _ => some decoder?
  | _ => none

/-- The default decoder that an operation leaves, if it changes the default. -/
def Operation.newDefault? : Operation → Option (Option Decoder)
  | .setDecoder decoder? => some decoder?
  | .clearDefaults => some none
  | _ => none

/-- The default decoder after operations: the last one that was set, or the first one. -/
def defaultDecoder (h : Hub) (ops : List Operation) : Option Decoder :=
  (ops.filterMap Operation.newDefault?).getLast?.getD h.registry.decoder?

theorem decoder_step (h : Hub) (op : Operation) :
    (h.step op).hub.registry.decoder? = op.newDefault?.getD h.registry.decoder? := by
  have hregistration (n? : Option Nat) (e : Entry) :
      (h.step (e.operation n?)).hub.registry.decoder? = h.registry.decoder? := by
    cases hresult : (e.register h.registry (h.connection? n?)).result with
    | error error => rw [(untouched_of_error hresult).registry]
    | ok cs => exact (installed_of_ok hresult).decoder
  cases op with
  | register n? o => exact hregistration n? (.options o)
  | registerBuiltin type n? globally decoder? =>
    exact hregistration n? (.builtin type globally decoder?)
  | findOids n? typeName =>
    rw [step, findOids]
    cases h.connection? n? with
    | none => rfl
    | some c => exact congrArg Registry.decoder? (registry_setConnection h n? _)
  | install caster n? =>
    rw [step, install]
    cases h.connection? n? with
    | none => rfl
    | some c => exact congrArg Registry.decoder? (registry_setConnection h n? _)
  | removeOwn n oid =>
    rw [step, removeOwn]
    cases h.connections[n]? with
    | none => rfl
    | some c => rfl
  | setStatus n status => exact congrArg Registry.decoder? (registry_setConnection h (some n) _)
  | _ => rfl

theorem defaultDecoder_concat (h : Hub) (ops : List Operation) (op : Operation) :
    h.defaultDecoder (ops ++ [op]) = op.newDefault?.getD (h.defaultDecoder ops) := by
  rw [defaultDecoder, List.filterMap_append]
  cases hop : op.newDefault? with
  | none => simp [hop, defaultDecoder]
  | some decoder? => simp [hop]

theorem decoder_run (h : Hub) (ops : List Operation) :
    (h.run ops).2.registry.decoder? = h.defaultDecoder ops := by
  induction ops using List.reverseRecOn with
  | nil => rfl
  | append_singleton ops op ih =>
    rw [run_append, run_cons, defaultDecoder_concat, ← ih]
    exact decoder_step _ op

theorem casters_of_map_eq_ok {result : Except Error TypeCasters} {cs : TypeCasters}
    (h : result.map Answer.casters = .ok (.casters cs)) : result = .ok cs := by
  cases result with
  | error error => cases h
  | ok cs' =>
    obtain rfl := Answer.casters.inj (Except.ok.inj h)
    rfl

/-- Casters get the decoder that is given, or the default decoder that the registry has. -/
theorem decoder_of_answer {op : Operation} {decoder? : Option Decoder} {cs : TypeCasters}
    (hop : op.givenDecoder? = some decoder?) (hanswer : (h.step op).answer = .ok (.casters cs)) :
    decoder?.or h.registry.decoder? = some cs.decoder := by
  have hregistration (n? : Option Nat) (e : Entry)
      (hanswer : (h.step (e.operation n?)).answer = .ok (.casters cs)) :
      e.decoder?.or h.registry.decoder? = some cs.decoder := by
    rw [answer_operation] at hanswer
    exact (e.register_of_ok (casters_of_map_eq_ok hanswer)).2.1
  cases op with
  | register n? o =>
    obtain rfl := Option.some.inj hop
    exact hregistration n? (.options o) hanswer
  | registerBuiltin type n? globally d? =>
    obtain rfl := Option.some.inj hop
    exact hregistration n? (.builtin type globally d?) hanswer
  | makeCasters oids d? name =>
    obtain rfl := Option.some.inj hop
    exact (TypeCasters.make_eq_ok.mp (casters_of_map_eq_ok hanswer)).1
  | _ => cases hop

/-- An operation of a run has made the casters of a type, when it was given `decoder?` and the
default decoder was `default?`. -/
def Makes (h : Hub) (ops : List Operation) (cs : TypeCasters)
    (decoder? default? : Option Decoder) : Prop :=
  ∃ before op after, ops = before ++ op :: after ∧ op.givenDecoder? = some decoder? ∧
    h.defaultDecoder before = default? ∧ ((h.run before).2.step op).answer = .ok (.casters cs)

theorem Makes.decoder {ops : List Operation} {cs : TypeCasters} {decoder? default? : Option Decoder}
    (hm : Makes h ops cs decoder? default?) : decoder?.or default? = some cs.decoder := by
  obtain ⟨before, op, after, -, hop, rfl, hanswer⟩ := hm
  rw [← decoder_run]
  exact decoder_of_answer hop hanswer

theorem Makes.concat {ops : List Operation} {cs : TypeCasters} {decoder? default? : Option Decoder}
    (hm : Makes h ops cs decoder? default?) (last : Operation) :
    Makes h (ops ++ [last]) cs decoder? default? := by
  obtain ⟨before, op, after, rfl, hmakes⟩ := hm
  exact ⟨before, op, after ++ [last], by simp, hmakes⟩

theorem exists_of_mem_installed {q : Option Nat} {answer : Except Error Answer} {caster : Caster}
    (hmem : .install p caster ∈ installed q answer) :
    ∃ cs, answer = .ok (.casters cs) ∧ caster ∈ cs.all := by
  unfold installed at hmem
  split at hmem
  · next cs =>
    obtain ⟨caster', hcaster, heq⟩ := List.mem_map.mp hmem
    obtain ⟨-, rfl⟩ := Change.install.inj heq
    exact ⟨cs, rfl, hcaster⟩
  · exact absurd hmem List.not_mem_nil

theorem exists_of_mem_changes {op : Operation} {caster : Caster}
    (hmem : .install p caster ∈ h.changes op) : (∃ n?, op = .install caster n?) ∨
      ∃ cs decoder?, op.givenDecoder? = some decoder? ∧
        (h.step op).answer = .ok (.casters cs) ∧ caster ∈ cs.all := by
  cases op with
  | register n? o =>
    obtain ⟨cs, hanswer, hcaster⟩ := exists_of_mem_installed hmem
    exact .inr ⟨cs, o.decoder?, rfl, hanswer, hcaster⟩
  | registerBuiltin type n? globally decoder? =>
    obtain ⟨cs, hanswer, hcaster⟩ := exists_of_mem_installed hmem
    exact .inr ⟨cs, decoder?, rfl, hanswer, hcaster⟩
  | install caster' n? =>
    obtain ⟨-, rfl⟩ := Change.install.inj (List.mem_singleton.mp hmem)
    exact .inl ⟨n?, rfl⟩
  | unregister oid => cases List.mem_singleton.mp hmem
  | removeOwn n oid => cases List.mem_singleton.mp hmem
  | _ => exact absurd hmem List.not_mem_nil

theorem history_append (h : Hub) (ops ops' : List Operation) :
    h.history (ops ++ ops') = h.history ops ++ (h.run ops).2.history ops' := by
  induction ops generalizing h with
  | nil => rfl
  | cons op ops ih => rw [List.cons_append, history, history, ih, run_cons, List.append_assoc]

/-- Every caster of a history has been installed by itself, or has been made. -/
theorem exists_of_mem_history {ops : List Operation} {caster : Caster}
    (hmem : .install p caster ∈ h.history ops) : (∃ n?, .install caster n? ∈ ops) ∨
      ∃ cs decoder? default?, Makes h ops cs decoder? default? ∧ caster ∈ cs.all := by
  induction ops using List.reverseRecOn with
  | nil => exact absurd hmem List.not_mem_nil
  | append_singleton ops op ih =>
    rw [history_append, history, history, List.append_nil, List.mem_append] at hmem
    rcases hmem with hbefore | hlast
    · rcases ih hbefore with ⟨n?, hop⟩ | ⟨cs, decoder?, default?, hmakes, hcaster⟩
      · exact .inl ⟨n?, List.mem_append_left _ hop⟩
      · exact .inr ⟨cs, decoder?, default?, hmakes.concat op, hcaster⟩
    · rcases exists_of_mem_changes hlast with ⟨n?, rfl⟩ | ⟨cs, decoder?, hop, hanswer, hcaster⟩
      · exact .inl ⟨n?, List.mem_append_right _ List.mem_cons_self⟩
      · exact .inr ⟨cs, decoder?, _, ⟨ops, op, [], rfl, hop, rfl, hanswer⟩, hcaster⟩

/-! ### What columns get -/

/-- No table has a caster. -/
structure NoCasters (h : Hub) : Prop where
  shared : h.registry.casters = .empty
  own : ∀ c ∈ h.connections, c.casters = .empty

theorem NoCasters.found (hempty : h.NoCasters) (p : Option Nat) (oid : Oid) :
    h.found p oid = none := by
  cases p with
  | none =>
    rw [Hub.found, table?, hempty.shared]
    rfl
  | some n =>
    cases hc : h.connections[n]? with
    | none => exact found_none hc
    | some c =>
      rw [found_some hc, hempty.own c (List.mem_of_getElem? hc)]
      rfl

theorem NoCasters.found_run (hempty : h.NoCasters) {ops : List Operation} {caster : Caster} :
    (h.run ops).2.found p oid = some caster ↔ Stands (h.history ops) p oid caster := by
  rw [Hub.found_run, hempty.found, foldl_effect_eq_some_iff]

theorem NoCasters.find?_run (hempty : h.NoCasters) {ops : List Operation} {n? : Option Nat}
    {caster : Caster} :
    (h.run ops).2.registry.find? ((h.run ops).2.ownCasters? n?) oid = some caster ↔
      InForce (h.history ops) n? oid caster := by
  rw [find?_eq_found, Option.or_eq_some_iff, Option.eq_none_iff_forall_ne_some, InForce]
  simp only [ne_eq, hempty.found_run]

/-- The table of casters for all counts the oids for which one of them stands. -/
theorem NoCasters.size_run (hempty : h.NoCasters) (ops : List Operation) : ∃ oids : List Oid,
    oids.Nodup ∧ (h.run ops).2.registry.casters.size = oids.length ∧
      ∀ oid, oid ∈ oids ↔ ∃ caster, Stands (h.history ops) none oid caster := by
  let t := (h.run ops).2.registry.casters
  refine ⟨t.entries.map Prod.fst, t.distinct, List.length_map _ |>.symm, fun oid => ?_⟩
  rw [Caster.Table.mem_entries_iff]
  exact exists_congr fun caster => hempty.found_run (p := none)

/-- The casters of a type apply one decoder: the scalar caster to the whole text, the array caster
to every element. -/
theorem decode_of_decoder (cs : TypeCasters) :
    (∀ text, cs.scalar.decode text = cs.decoder text) ∧
      ∀ array, cs.array? = some array → ∀ text, array.decode text = do
        let items ← ArrayLiteral.ofText text
        return .array (← ArrayLiteral.Element.decodeAll cs.decoder items) := by
  refine ⟨fun _ => rfl, fun array harray text => ?_⟩
  obtain ⟨oid, -, rfl⟩ := Option.map_eq_some_iff.mp harray
  rfl

/-- **What a column gets is told by the history** of a run of any operations that starts without
casters. The last installation for the connection decides if its oid has not been removed there
since; otherwise the last one for all, if it has not been removed there since; otherwise the column
is a string. All casters of the history were installed by themselves or made in the run, and those
that were made apply the decoder that was given or, without one, the default decoder of that
moment, whatever has become of the defaults. What is counted for all are the oids that have a
caster there. -/
theorem typecast_refines_history (h : Hub) (hempty : h.NoCasters) (ops : List Operation) :
    (∀ n? oid, ∃ caster?,
      (∀ caster, caster? = some caster ↔ InForce (h.history ops) n? oid caster) ∧
      ((h.run ops).2.step (.findCaster n? oid)).answer = .ok (.caster caster?) ∧
      ((h.run ops).2.step (.typecast n? oid none)).answer = .ok (.value .null) ∧
      ∀ text, ((h.run ops).2.step (.typecast n? oid (some text))).answer =
        match caster? with
        | none => .ok (.value (.string text))
        | some caster => (caster.decode text).map .value) ∧
    (∀ p caster, .install p caster ∈ h.history ops → (∃ n?, .install caster n? ∈ ops) ∨
      ∃ cs decoder? default?, Makes h ops cs decoder? default? ∧ caster ∈ cs.all) ∧
    (∃ oids : List Oid, oids.Nodup ∧ (h.run ops).2.registry.casters.size = oids.length ∧
      ∀ oid, oid ∈ oids ↔ ∃ caster, Stands (h.history ops) none oid caster) ∧
    ∀ cs decoder? default?, Makes h ops cs decoder? default? →
      ∃ decoder, decoder?.or default? = some decoder ∧
        (∀ text, cs.scalar.decode text = decoder text) ∧
        ∀ array, cs.array? = some array → ∀ text, array.decode text = do
          let items ← ArrayLiteral.ofText text
          return .array (← ArrayLiteral.Element.decodeAll decoder items) := by
  refine ⟨fun n? oid => ⟨_, fun caster => hempty.find?_run, rfl, ?_, fun text => ?_⟩,
    fun p caster => exists_of_mem_history, hempty.size_run ops,
    fun cs decoder? default? hmakes => ?_⟩
  · rw [step, answering, Registry.typecast]
    cases (h.run ops).2.registry.find? ((h.run ops).2.ownCasters? n?) oid with
    | none => rfl
    | some caster => rfl
  · rw [step, answering, Registry.typecast]
    cases (h.run ops).2.registry.find? ((h.run ops).2.ownCasters? n?) oid with
    | none => rfl
    | some caster => rfl
  · exact ⟨cs.decoder, hmakes.decoder, decode_of_decoder cs⟩

/-- A connection that has lost its own caster gets the one for all again, which reads JSON although
there is no default decoder any more. -/
theorem typecast_refines_history_shared_again :
    NoCasters ⟨.new, [{}]⟩ ∧
      (((Hub.mk .new [{}]).run [.registerBuiltin .json none true none, .setDecoder none,
        .registerBuiltin .json (some 0) false (some fun text => .ok (.string text)),
        .removeOwn 0 114]).2.step (.typecast (some 0) 114 (some "null"))).answer =
          .ok (.value .null) := by
  have hempty : NoCasters ⟨.new, [{}]⟩ := ⟨rfl, by simp⟩
  refine ⟨hempty, ?_⟩
  obtain ⟨caster?, hcaster, -, -, hcast⟩ := (typecast_refines_history ⟨.new, [{}]⟩ hempty
    [.registerBuiltin .json none true none, .setDecoder none,
      .registerBuiltin .json (some 0) false (some fun text => .ok (.string text)),
      .removeOwn 0 114]).1 (some 0) 114
  have hshared : caster? = some (.scalar [114] "JSON" .json) := by
    refine (hcaster _).mpr (.inr ⟨fun own hown => ?_, foldl_effect_eq_some_iff.mp rfl⟩)
    cases foldl_effect_eq_some_iff.mpr hown
  rw [hcast, hshared]
  cbv

end PgJson.Hub
