import PgJson.Registration

/-!
# What a registration leaves alone

A registration changes at most the casters of its connection; the rest of the connection is as the
lookup left it, or as it was if the oids were given. With given oids it asks the connection nothing.

## Main results

* `PgJson.Registration.ofOids_connection?` — with given oids only the casters can change
* `PgJson.Registration.ofOids_calls` — with given oids nothing is asked
* `PgJson.Registration.ofOptions_connection?_of_oid`, `ofOptions_connection?_of_lookup` — the
  connection after a registration, with given and with looked-up oids
-/

namespace PgJson

theorem Connection.foldl_install (cs : List Caster) (c : Connection) :
    cs.foldl Connection.install c =
      { c with casters := cs.foldl Caster.Table.insert c.casters } := by
  induction cs generalizing c with
  | nil => rfl
  | cons x cs ih => rw [List.foldl_cons, ih, List.foldl_cons, Connection.install]

theorem Registry.foldl_install (cs : List Caster) (r : Registry) :
    cs.foldl Registry.install r = { r with casters := cs.foldl Caster.Table.insert r.casters } := by
  induction cs generalizing r with
  | nil => rfl
  | cons x cs ih => rw [List.foldl_cons, ih, List.foldl_cons, Registry.install]

namespace Registration

variable (r : Registry) (c : Connection)

theorem install_connection? (globally : Bool) (cs : TypeCasters) :
    ∃ t, (install r (some c) globally cs).connection? = some { c with casters := t } := by
  cases globally with
  | false => exact ⟨_, congrArg some (Connection.foldl_install cs.all c)⟩
  | true => exact ⟨c.casters, rfl⟩

theorem ofOids_connection? (globally : Bool) (decoder? : Option Decoder) (name : String)
    (oids : TypeOids) : ∃ t, (ofOids r (some c) globally decoder? name oids).connection? =
      some { c with casters := t } := by
  rw [ofOids]
  cases TypeCasters.make r oids decoder? name with
  | ok cs => exact install_connection? r c globally cs
  | error e => exact ⟨c.casters, rfl⟩

theorem ofOids_calls (c? : Option Connection) (globally : Bool) (decoder? : Option Decoder)
    (name : String) (oids : TypeOids) : (ofOids r c? globally decoder? name oids).calls = [] := by
  rw [ofOids]
  cases TypeCasters.make r oids decoder? name with
  | error e => rfl
  | ok cs =>
    simp only [install]
    split <;> rfl

theorem ofOptions_connection?_of_oid {o : Options} (h : o.oid?.isSome) : ∃ t,
    (ofOptions r (some c) o).connection? = some { c with casters := t } := by
  obtain ⟨oid, hoid⟩ := Option.isSome_iff_exists.mp h
  simp only [ofOptions, hoid]
  exact ofOids_connection? r c _ _ _ _

/-- A looked-up registration installs on the connection that the lookup has left. -/
theorem ofOptions_connection?_of_lookup {o : Options} (h : o.oid? = none) : ∃ t,
    (ofOptions r (some c) o).connection? =
      some { (Catalog.findOn c o.typeName).exchange.connection with casters := t } := by
  simp only [ofOptions, h, after]
  cases (Catalog.findOn c o.typeName).result with
  | ok oids => exact ofOids_connection? r _ _ _ _ _
  | error e => exact ⟨_, rfl⟩

end Registration

end PgJson
