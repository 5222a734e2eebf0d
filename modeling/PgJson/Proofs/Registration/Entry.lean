import PgJson.Proofs.Catalog.Endings
import PgJson.Proofs.Registration.Frame

/-!
# Where registered casters are found

There are two ways to register, by a built-in type and by options, and both end in the same
installation, if they do not fail: `Entry.oids` says which oids are registered, `Entry.asked` what
a lookup has left of the connection, and the rest is `install`. What an application sees of it are
columns: a column is dispatched through the table that the registration has installed in if that
is the table that is asked first, or if the table that is asked first leaves the oid to it.

## Main definitions

* `PgJson.Registration.Entry` — the ways to register
* `PgJson.Registration.Entry.oids`, `asked` — what a registration finds out, and at what price
* `PgJson.Registration.Dispatches` — a column is dispatched through the table installed in

## Main results

* `PgJson.TypeCasters.make_eq_ok` — casters have the decoder that is given, or the default one
* `PgJson.TypeCasters.get?_foldl_insert` — a table after an installation
* `PgJson.Registration.Entry.register_of_ok`, `register_of_error` — all that a registration leaves
* `PgJson.Registration.Entry.find?_oid`, `find?_arrayOid` — the casters that columns get
-/

namespace PgJson

/-! ### Making and installing the casters of a type -/

theorem TypeCasters.make_eq_ok {r : Registry} {oids : TypeOids} {decoder? : Option Decoder}
    {name : String} {cs : TypeCasters} : make r oids decoder? name = .ok cs ↔
      decoder?.or r.decoder? = some cs.decoder ∧ cs.oids = oids ∧ cs.name = name := by
  rw [make]
  constructor
  · intro h
    split at h
    · next hdecoder =>
      obtain rfl := Except.ok.inj h
      exact ⟨hdecoder, rfl, rfl⟩
    · cases h
  · rintro ⟨hdecoder, rfl, rfl⟩
    rw [hdecoder]

theorem TypeCasters.get?_foldl_insert (cs : TypeCasters) (t : Caster.Table) (oid : Oid) :
    (cs.all.foldl Caster.Table.insert t).get? oid =
      if cs.oids.arrayOid = some oid then cs.array?
      else if oid = cs.oids.oid then some cs.scalar
      else t.get? oid := by
  cases harray : cs.oids.arrayOid with
  | none => simp [all, array?, harray, scalar, Caster.oids]
  | some a =>
    by_cases ha : a = oid
    · simp [all, array?, harray, Caster.oids, ha]
    · have ha' : oid ≠ a := fun h => ha h.symm
      simp [all, array?, harray, scalar, Caster.oids, ha, ha']

namespace Registration

/-- The ways to register. -/
inductive Entry where
  | builtin (type : Builtin) (globally : Bool) (decoder? : Option Decoder)
  | options (o : Options)

namespace Entry

/-- Whether casters are installed for all connections, even if one is given. -/
def globally : Entry → Bool
  | .builtin _ globally _ => globally
  | .options o => o.globally

/-- The decoder that is given, if any. -/
def decoder? : Entry → Option Decoder
  | .builtin _ _ decoder? => decoder?
  | .options o => o.decoder?

/-- What the scalar caster is called. -/
def casterName : Entry → String
  | .builtin type _ _ => type.casterName
  | .options o => Text.upper o.typeName

/-- The oids that are registered: fixed, given, or looked up. -/
def oids (c? : Option Connection) : Entry → Except Error TypeOids
  | .builtin type _ _ => .ok type.oids
  | .options o =>
    match o.oid?, c? with
    | some oid, _ => .ok ⟨oid, o.arrayOid?⟩
    | none, some c => (Catalog.findOn c o.typeName).result
    | none, none => .error (.configuration (.connectionRequired o.typeName))

/-- What is left of the connection once the oids are known, or turn out not to be. -/
def asked (c? : Option Connection) : Entry → Option Connection
  | .builtin _ _ _ => c?
  | .options o =>
    match o.oid? with
    | some _ => c?
    | none => c?.map fun c => (Catalog.findOn c o.typeName).exchange.connection

/-- What comes of registering. -/
def register (r : Registry) (c? : Option Connection) : Entry → Registration
  | .builtin type globally decoder? => ofBuiltin r c? globally decoder? type
  | .options o => ofOptions r c? o

/-- What comes of registering once the oids are known, or turn out not to be. -/
def conclude (r : Registry) (c? : Option Connection) (e : Entry) : Registration :=
  match e.oids c? with
  | .ok oids => ofOids r (e.asked c?) e.globally e.decoder? e.casterName oids
  | .error error => failed r (e.asked c?) error

/-- A lookup asks about everything on a connection but its casters. -/
theorem casters_asked (e : Entry) (c? : Option Connection) :
    (e.asked c?).map (·.casters) = c?.map (·.casters) := by
  cases e with
  | builtin type globally decoder? => rfl
  | options o =>
    rw [asked]
    split
    · rfl
    · rw [Option.map_map]
      exact congrArg (c?.map ·) (funext fun c => (Catalog.ends_findOn c o.typeName).casters)

theorem exists_asked_some (e : Entry) (c : Connection) :
    ∃ c', e.asked (some c) = some c' ∧ c'.casters = c.casters :=
  Option.map_eq_some_iff.mp (e.casters_asked (some c))

theorem scope_asked (e : Entry) (c? : Option Connection) (globally : Bool) :
    scope (e.asked c?) globally = scope c? globally := by
  have hsome : (e.asked c?).isSome = c?.isSome := by
    simpa using congrArg Option.isSome (e.casters_asked c?)
  rw [scope, scope, hsome]

end Entry

theorem scope_eq_connection_iff {c? : Option Connection} {globally : Bool} :
    scope c? globally = .connection ↔ (∃ c, c? = some c) ∧ globally = false := by
  rw [← Option.isSome_iff_exists, scope]
  cases c? <;> cases globally <;> simp

/-- Where a registration has installed, columns of type `oid` are dispatched, if `own?` is asked
first. -/
def Dispatches (reg : Registration) (own? : Option Caster.Table) (oid : Oid) : Scope → Prop
  | .connection => own? = reg.connection?.map (·.casters)
  | .global => own?.bind (·.get? oid) = none

/-! ### All ways end in one installation -/

variable {r : Registry} {c? : Option Connection} {cs : TypeCasters}

@[simp] theorem result_install (globally : Bool) : (install r c? globally cs).result = .ok cs := by
  unfold install
  split
  · rfl
  · rfl

theorem install_of_scope_global {globally : Bool} (h : scope c? globally = .global)
    (r : Registry) (cs : TypeCasters) :
    (install r c? globally cs).registry = cs.all.foldl Registry.install r ∧
      (install r c? globally cs).connection? = c? := by
  cases c? with
  | none => exact ⟨rfl, rfl⟩
  | some c =>
    cases globally with
    | true => exact ⟨rfl, rfl⟩
    | false => cases h

theorem install_of_scope_connection {c : Connection} {globally : Bool}
    (h : scope (some c) globally = .connection) (r : Registry) (cs : TypeCasters) :
    (install r (some c) globally cs).registry = r ∧
      (install r (some c) globally cs).connection? =
        some { c with casters := cs.all.foldl Caster.Table.insert c.casters } := by
  obtain ⟨-, rfl⟩ := scope_eq_connection_iff.mp h
  exact ⟨rfl, congrArg some (Connection.foldl_install cs.all c)⟩

theorem ofOids_of_ok {globally : Bool} {decoder? : Option Decoder} {name : String}
    {oids : TypeOids} (h : (ofOids r c? globally decoder? name oids).result = .ok cs) :
    TypeCasters.make r oids decoder? name = .ok cs ∧
      ofOids r c? globally decoder? name oids = install r c? globally cs := by
  rw [ofOids] at h ⊢
  cases hmake : TypeCasters.make r oids decoder? name with
  | error e =>
    rw [hmake] at h
    cases h
  | ok cs' =>
    rw [hmake] at h
    obtain rfl : cs' = cs := Except.ok.inj ((result_install globally).symm.trans h)
    exact ⟨rfl, rfl⟩

theorem ofOids_of_error {globally : Bool} {decoder? : Option Decoder} {name : String}
    {oids : TypeOids} {e : Error}
    (h : (ofOids r c? globally decoder? name oids).result = .error e) :
    ofOids r c? globally decoder? name oids = failed r c? e := by
  rw [ofOids] at h ⊢
  cases hmake : TypeCasters.make r oids decoder? name with
  | error e' =>
    rw [hmake] at h
    rw [Except.error.inj h]
  | ok cs' =>
    rw [hmake] at h
    cases (result_install globally).symm.trans h

/-- Calls and events apart, what comes of a registration is what comes of its conclusion. -/
theorem Entry.register_eq_conclude (e : Entry) (r : Registry) (c? : Option Connection) :
    e.register r c? = { e.conclude r c? with
      calls := (e.register r c?).calls
      events := (e.register r c?).events } := by
  cases e with
  | builtin type globally decoder? => rfl
  | options o =>
    simp only [register, conclude, ofOptions, oids, asked]
    cases o.oid? with
    | some oid => rfl
    | none =>
      cases c? with
      | none => rfl
      | some c =>
        simp only [after]
        cases (Catalog.findOn c o.typeName).result with
        | ok oids => rfl
        | error error => rfl

/-- A registration that succeeds has found its oids, has made the casters for them, and installs
these on its connection, or on what a lookup has left of it. -/
theorem Entry.register_of_ok {e : Entry} (h : (e.register r c?).result = .ok cs) :
    e.oids c? = .ok cs.oids ∧ e.decoder?.or r.decoder? = some cs.decoder ∧
      (e.register r c?).registry = (install r (e.asked c?) e.globally cs).registry ∧
      (e.register r c?).connection? = (install r (e.asked c?) e.globally cs).connection? := by
  rw [e.register_eq_conclude] at h ⊢
  cases hoids : e.oids c? with
  | error error =>
    simp only [conclude, hoids] at h
    cases h
  | ok oids =>
    simp only [conclude, hoids] at h ⊢
    obtain ⟨hmake, hinstall⟩ := ofOids_of_ok h
    obtain ⟨hdecoder, rfl, -⟩ := TypeCasters.make_eq_ok.mp hmake
    rw [hinstall]
    exact ⟨rfl, hdecoder, rfl, rfl⟩

/-- A registration that fails leaves the registry alone, and of its connection what a lookup has
left of it. -/
theorem Entry.register_of_error {e : Entry} {error : Error}
    (h : (e.register r c?).result = .error error) :
    (e.register r c?).registry = r ∧ (e.register r c?).connection? = e.asked c? := by
  rw [e.register_eq_conclude] at h ⊢
  cases hoids : e.oids c? with
  | error _ =>
    simp only [conclude, hoids]
    exact ⟨rfl, rfl⟩
  | ok oids =>
    simp only [conclude, hoids] at h ⊢
    rw [ofOids_of_error h]
    exact ⟨rfl, rfl⟩

/-- A registration for a connection alone leaves the registry alone, whether it succeeds or not. -/
theorem Entry.register_of_connection {e : Entry} (he : e.globally = false) (r : Registry)
    (c : Connection) : (e.register r (some c)).registry = r ∧
      ∃ c', (e.register r (some c)).connection? = some c' := by
  obtain ⟨c₁, hasked, -⟩ := e.exists_asked_some c
  cases hresult : (e.register r (some c)).result with
  | error error =>
    obtain ⟨hregistry, hconnection⟩ := e.register_of_error hresult
    exact ⟨hregistry, c₁, hconnection.trans hasked⟩
  | ok cs =>
    obtain ⟨-, -, hregistry, hconnection⟩ := e.register_of_ok hresult
    rw [hasked] at hregistry hconnection
    obtain ⟨hinstalled, hleft⟩ :=
      install_of_scope_connection (scope_eq_connection_iff.mpr ⟨⟨c₁, rfl⟩, he⟩) r cs
    exact ⟨hregistry.trans hinstalled, _, hconnection.trans hleft⟩

/-! ### What columns find -/

theorem find?_install {own? : Option Caster.Table} {oid : Oid} {globally : Bool} {caster : Caster}
    (hown : (install r c? globally cs).Dispatches own? oid (scope c? globally))
    (hcaster : ∀ t : Caster.Table,
      (cs.all.foldl Caster.Table.insert t).get? oid = some caster) :
    (install r c? globally cs).registry.find? own? oid = some caster := by
  cases hs : scope c? globally with
  | global =>
    rw [hs, Dispatches] at hown
    rw [(install_of_scope_global hs r cs).1, Registry.find?, hown, Option.none_or,
      Registry.foldl_install]
    exact hcaster r.casters
  | connection =>
    obtain ⟨⟨c, rfl⟩, -⟩ := scope_eq_connection_iff.mp hs
    rw [hs, Dispatches, (install_of_scope_connection hs r cs).2] at hown
    rw [Registry.find?, hown, Option.map_some, Option.bind_some, hcaster, Option.some_or]

variable {e : Entry} {own? : Option Caster.Table}

theorem Entry.find? {oid : Oid} {caster : Caster} (h : (e.register r c?).result = .ok cs)
    (hown : (e.register r c?).Dispatches own? oid (scope c? e.globally))
    (hcaster : ∀ t : Caster.Table,
      (cs.all.foldl Caster.Table.insert t).get? oid = some caster) :
    (e.register r c?).registry.find? own? oid = some caster := by
  obtain ⟨-, -, hregistry, hconnection⟩ := e.register_of_ok h
  rw [hregistry]
  refine find?_install ?_ hcaster
  rw [e.scope_asked]
  cases hs : scope c? e.globally with
  | connection =>
    rw [hs] at hown
    rw [Dispatches, ← hconnection]
    exact hown
  | global =>
    rw [hs] at hown
    exact hown

/-- Columns of the type get its scalar caster, unless the type is its own array type. -/
theorem Entry.find?_oid (h : (e.register r c?).result = .ok cs)
    (hne : cs.oids.arrayOid ≠ some cs.oids.oid)
    (hown : (e.register r c?).Dispatches own? cs.oids.oid (scope c? e.globally)) :
    (e.register r c?).registry.find? own? cs.oids.oid = some cs.scalar :=
  e.find? h hown fun t => by rw [cs.get?_foldl_insert, if_neg hne, if_pos rfl]

/-- Columns of the array type get the array caster. -/
theorem Entry.find?_arrayOid {a : Oid} (h : (e.register r c?).result = .ok cs)
    (ha : cs.oids.arrayOid = some a)
    (hown : (e.register r c?).Dispatches own? a (scope c? e.globally)) :
    (e.register r c?).registry.find? own? a =
      some (.array [a] (cs.name ++ "ARRAY") cs.scalar) :=
  e.find? h hown fun t => by
    rw [cs.get?_foldl_insert, if_pos ha, TypeCasters.array?, ha]
    rfl

end Registration

end PgJson
