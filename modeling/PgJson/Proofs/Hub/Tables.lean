import Mathlib.Logic.Basic
import PgJson.Proofs.Hub.Lookups
import PgJson.Proofs.Registration.Entry

/-!
# Registrations and the tables of a hub

A hub has one table for all connections and one for each of them, so it takes a place to say which
table is meant. A registration concerns a single place, which is the connection that it is given,
unless it is given none or is meant for all. It fills the table there with all casters of the type,
or, if anything at all fails on the way, changes no table and no default.

The connections themselves are not part of this: a lookup consumes what its server has to say,
whether the registration succeeds or not.

## Main definitions

* `PgJson.Hub.place`, `table?` — where casters are installed, and the table there
* `PgJson.Registration.Entry.operation` — a registration as an operation on a hub
* `PgJson.Hub.Untouched`, `Installed` — the two outcomes of a registration

## Main results

* `PgJson.Hub.untouched_of_error`, `installed_of_ok` — a registration has one of two outcomes
* `PgJson.Hub.registration_all_or_nothing` — the outcome goes by the answer
-/

namespace PgJson

open Registration (Entry install scope scope_eq_connection_iff install_of_scope_global
  install_of_scope_connection)

/-- The operation of registering for the connection with the given number. -/
def Registration.Entry.operation (n? : Option Nat) : Entry → Hub.Operation
  | .builtin type globally decoder? => .registerBuiltin type n? globally decoder?
  | .options o => .register n? o

namespace Hub

/-- Where casters for the connection with the given number are installed: at that number or, under
`none`, for all. -/
def place (h : Hub) (n? : Option Nat) (globally : Bool) : Option Nat :=
  match scope (h.connection? n?) globally with
  | .connection => n?
  | .global => none

/-- The table at a place. -/
def table? (h : Hub) : Option Nat → Option Caster.Table
  | none => some h.registry.casters
  | some n => h.ownCasters? (some n)

/-! ### Tables and connections -/

section

variable {h : Hub} {n : Nat} {c : Connection}

theorem table?_some (hc : h.connections[n]? = some c) : h.table? (some n) = some c.casters := by
  rw [table?, ownCasters?, connection?_some hc]
  rfl

theorem ownCasters?_setConnection (hc : h.connections[n]? = some c) (c' : Connection) (m : Nat) :
    (h.setConnection (some n) (some c')).ownCasters? (some m) =
      if m = n then some c'.casters else h.ownCasters? (some m) := by
  rcases eq_or_ne m n with rfl | hm
  · rw [if_pos rfl, ownCasters?, connection?_some (connections_setConnection_self hc c')]
    rfl
  · have hne : some n ≠ some m := fun heq => hm (Option.some.inj heq).symm
    rw [if_neg hm]
    exact congrArg (Option.map _) (connections_setConnection_of_ne hne (some c'))

theorem registry_setConnection (h : Hub) (n? : Option Nat) (c? : Option Connection) :
    (h.setConnection n? c?).registry = h.registry := by
  cases n? with
  | none => rfl
  | some n =>
    cases c? with
    | none => rfl
    | some c => rfl

theorem exists_of_connection?_eq_some {n? : Option Nat} (hc : h.connection? n? = some c) :
    ∃ n, n? = some n ∧ h.connections[n]? = some c := by
  cases n? with
  | none => cases hc
  | some n => exact ⟨n, rfl, hc⟩

/-- A connection that is replaced by one with the same casters changes no table. -/
theorem ownCasters?_setConnection_of_casters {n? : Option Nat} {c? : Option Connection}
    (hc? : c?.map (·.casters) = (h.connection? n?).map (·.casters)) (m : Nat) :
    (h.setConnection n? c?).ownCasters? (some m) = h.ownCasters? (some m) := by
  cases hc : h.connection? n? with
  | none =>
    rw [hc, Option.map_none, Option.map_eq_none_iff] at hc?
    rw [hc?, setConnection]
    simp
  | some c =>
    obtain ⟨n, rfl, hn⟩ := exists_of_connection?_eq_some hc
    rw [hc, Option.map_some, Option.map_eq_some_iff] at hc?
    obtain ⟨c', rfl, hcasters⟩ := hc?
    rw [ownCasters?_setConnection hn, hcasters]
    split
    · next hm => rw [hm, ownCasters?, hc, Option.map_some]
    · rfl

end

/-! ### What a registration can do -/

/-- No table and no default differs. -/
structure Untouched (h h' : Hub) : Prop where
  registry : h'.registry = h.registry
  own (n : Nat) : h'.ownCasters? (some n) = h.ownCasters? (some n)

/-- The casters of a type have been installed at a place, and no other table and no default
differs. The array caster wins if the oids are equal. -/
structure Installed (cs : TypeCasters) (p : Option Nat) (h h' : Hub) : Prop where
  encoder : h'.registry.encoder? = h.registry.encoder?
  decoder : h'.registry.decoder? = h.registry.decoder?
  here : ∃ t t', h.table? p = some t ∧ h'.table? p = some t' ∧ ∀ oid, t'.get? oid =
    if cs.oids.arrayOid = some oid then cs.array?
    else if oid = cs.oids.oid then some cs.scalar
    else t.get? oid
  elsewhere (q : Option Nat) : q ≠ p → h'.table? q = h.table? q

variable {h h' : Hub} {cs : TypeCasters}

theorem Installed.global (hregistry : h'.registry = cs.all.foldl Registry.install h.registry)
    (hown : ∀ n, h'.ownCasters? (some n) = h.ownCasters? (some n)) :
    Installed cs none h h' := by
  rw [Registry.foldl_install] at hregistry
  refine ⟨by rw [hregistry], by rw [hregistry], ⟨h.registry.casters, _, rfl, rfl, fun oid => ?_⟩,
    fun q hq => ?_⟩
  · rw [hregistry]
    exact cs.get?_foldl_insert _ _
  · cases q with
    | none => exact absurd rfl hq
    | some m => exact hown m

theorem Installed.own {n : Nat} {c : Connection} (hc : h.connections[n]? = some c)
    (hregistry : h'.registry = h.registry)
    (hown : ∀ m, h'.ownCasters? (some m) =
      if m = n then some (cs.all.foldl Caster.Table.insert c.casters)
      else h.ownCasters? (some m)) :
    Installed cs (some n) h h' := by
  refine ⟨by rw [hregistry], by rw [hregistry], ⟨c.casters, _, table?_some hc,
    (hown n).trans (if_pos rfl), fun oid => cs.get?_foldl_insert _ _⟩, fun q hq => ?_⟩
  cases q with
  | none => exact congrArg (fun r => some r.casters) hregistry
  | some m => exact (hown m).trans (if_neg fun hm => hq (congrArg some hm))

/-! ### Registering

Whether a table changes is decided by the connection that a registration returns. -/

section

variable {n? : Option Nat} {reg : Registration}

theorem registry_reporting : (h.reporting n? reg).hub.registry = reg.registry := by
  rw [reporting]
  exact registry_setConnection _ _ _

theorem ownCasters?_reporting {n : Nat} {c c' : Connection} (hc : h.connections[n]? = some c)
    (hreg : reg.connection? = some c') (m : Nat) :
    (h.reporting (some n) reg).hub.ownCasters? (some m) =
      if m = n then some c'.casters else h.ownCasters? (some m) := by
  rw [reporting, hreg]
  exact ownCasters?_setConnection (h := { h with registry := reg.registry }) hc c' m

end

section

variable (h : Hub) (n? : Option Nat) (e : Entry)

theorem step_operation : h.step (e.operation n?) =
    h.reporting n? (e.register h.registry (h.connection? n?)) := by
  cases e with
  | builtin type globally decoder? => rfl
  | options o => rfl

theorem answer_operation : (h.step (e.operation n?)).answer =
    (e.register h.registry (h.connection? n?)).result.map .casters := by
  rw [step_operation, reporting]

variable {h n? e}

theorem untouched_of_error {error : Error}
    (herror : (e.register h.registry (h.connection? n?)).result = .error error) :
    Untouched h (h.step (e.operation n?)).hub := by
  obtain ⟨hregistry, hconnection⟩ := e.register_of_error herror
  rw [step_operation]
  refine ⟨registry_reporting.trans hregistry, ?_⟩
  refine ownCasters?_setConnection_of_casters ?_
  rw [hconnection, e.casters_asked]
  rfl

theorem installed_of_ok
    (hok : (e.register h.registry (h.connection? n?)).result = .ok cs) :
    Installed cs (h.place n? e.globally) h (h.step (e.operation n?)).hub := by
  obtain ⟨-, -, hregistry, hconnection⟩ := e.register_of_ok hok
  rw [step_operation, place]
  cases hscope : scope (h.connection? n?) e.globally with
  | global =>
    obtain ⟨hinstalled, hleft⟩ :=
      install_of_scope_global ((e.scope_asked _ _).trans hscope) h.registry cs
    refine .global ?_ (ownCasters?_setConnection_of_casters ?_)
    · rw [registry_reporting, hregistry, hinstalled]
    · rw [hconnection, hleft, e.casters_asked]
      rfl
  | connection =>
    obtain ⟨⟨c, hc⟩, -⟩ := scope_eq_connection_iff.mp hscope
    obtain ⟨n, rfl, hn⟩ := exists_of_connection?_eq_some hc
    obtain ⟨c', hasked, hcasters⟩ := e.exists_asked_some c
    rw [← e.scope_asked, hc, hasked] at hscope
    obtain ⟨hinstalled, hleft⟩ := install_of_scope_connection hscope h.registry cs
    rw [hc, hasked] at hregistry hconnection
    refine .own hn ?_ fun m => ?_
    · rw [registry_reporting, hc, hregistry, hinstalled]
    · rw [hc, ownCasters?_reporting hn (hconnection.trans hleft), hcasters]

end

/-- **A registration installs all casters of its type in one table, or changes nothing**, whatever
fails on the way: for every way to register, every registry, any number of connections and whatever
their servers answer. The table is that of the connection, if there is one and registration is not
meant for all, and the global one otherwise; in it the oids that were given, fixed or looked up
find the new casters, and every other oid what it has found before. -/
theorem registration_all_or_nothing (h : Hub) (n? : Option Nat) (e : Entry) :
    (∀ error, (h.step (e.operation n?)).answer = .error error →
      Untouched h (h.step (e.operation n?)).hub) ∧
    ∀ answer, (h.step (e.operation n?)).answer = .ok answer →
      ∃ cs, answer = .casters cs ∧ e.oids (h.connection? n?) = .ok cs.oids ∧
        Installed cs (h.place n? e.globally) h (h.step (e.operation n?)).hub := by
  rw [answer_operation]
  cases hresult : (e.register h.registry (h.connection? n?)).result with
  | error error =>
    refine ⟨fun _ _ => untouched_of_error hresult, fun answer hok => ?_⟩
    cases hok
  | ok cs =>
    refine ⟨fun error herror => ?_, fun answer hok => ?_⟩
    · cases herror
    · obtain rfl := Except.ok.inj hok
      exact ⟨cs, rfl, (e.register_of_ok hresult).1, installed_of_ok hresult⟩

/-- On a server without the type nothing changes; its built-in oids are installed on the
connection. -/
theorem registration_all_or_nothing_unknown_type :
    Untouched ⟨.new, [{}]⟩ ((Hub.mk .new [{}]).step (.register (some 0) {})).hub ∧
      Installed ⟨"JSON", ⟨114, some 199⟩, .json⟩ (some 0) ⟨.new, [{}]⟩
        ((Hub.mk .new [{}]).step (.registerBuiltin .json (some 0) false none)).hub := by
  constructor
  · exact (registration_all_or_nothing ⟨.new, [{}]⟩ (some 0) (.options {})).1
      (.notFound (.dataType "json")) rfl
  · obtain ⟨cs, hcs, -, hinstalled⟩ :=
      (registration_all_or_nothing ⟨.new, [{}]⟩ (some 0) (.builtin .json false none)).2
        (.casters ⟨"JSON", ⟨114, some 199⟩, .json⟩) rfl
    obtain rfl := Answer.casters.inj hcs
    exact hinstalled

end Hub

end PgJson
