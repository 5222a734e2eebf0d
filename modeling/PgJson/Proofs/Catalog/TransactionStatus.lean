import PgJson.Proofs.Catalog.Endings

/-!
# The transaction status after a lookup

A lookup on an idle connection opens a transaction and rolls it back once the first row has been
fetched. Inside a transaction of the caller, and on a connection that commits by itself, it leaves
the status alone. The fetch itself is not guarded: when it fails, the lookup stops at once, and a
transaction that it has opened stays open. That is the only way, a failing rollback apart, in which
a lookup changes the status.

## Main definitions

* `PgJson.Catalog.FetchFailed`, `RollbackFailed` — a call of a lookup failed
* `PgJson.Catalog.Leaks` — a fetch fails in a transaction that the lookup has opened

## Main results

* `PgJson.Catalog.Ends.status_eq_iff` — the status is restored exactly when nothing leaks
* `PgJson.Catalog.Ends.status_of_leak` — a leak leaves the connection inside a transaction
* `PgJson.Catalog.Ends.inBlock` — a transaction of the caller stays open
-/

namespace PgJson

/-- The failure that a reply prepares for fetching from it. -/
def Reply.fetchFault? : Reply → Option String
  | .refused _ => none
  | .answered _ f? _ => f?

/-- The failure that a reply prepares for rolling back. -/
def Reply.rollbackFault? : Reply → Option String
  | .refused _ => none
  | .answered _ _ r? => r?

namespace Connection

theorem opened_of_not_needsRollback {c : Connection} (h : ¬c.NeedsRollback) :
    c.opened = c.status := by
  rw [opened]
  refine if_neg fun hopen => h ?_
  simp only [Bool.and_eq_true, Bool.not_eq_true', decide_eq_true_eq] at hopen
  exact ⟨by rw [hopen.2]; decide, hopen.1⟩

theorem opened_of_inBlock {c : Connection} (h : c.status = .inBlock) : c.opened = .inBlock := by
  simp [opened, h]

end Connection

namespace Catalog

/-- A lookup on `c` fetched, and the fetch failed. -/
def FetchFailed (c : Connection) (l : Lookup) : Prop :=
  Call.fetch ∈ l.exchange.calls ∧ c.reply.fetchFault?.isSome

/-- A lookup on `c` rolled back, and the rollback failed. -/
def RollbackFailed (c : Connection) (l : Lookup) : Prop :=
  Call.rollback ∈ l.exchange.calls ∧ c.reply.rollbackFault?.isSome

/-- A lookup on `c` failed to fetch in a transaction that it had opened itself. -/
def Leaks (c : Connection) (l : Lookup) : Prop :=
  c.status = .idle ∧ c.autocommit = false ∧ FetchFailed c l

instance (c : Connection) (l : Lookup) : Decidable (FetchFailed c l) :=
  inferInstanceAs (Decidable (_ ∧ _))

instance (c : Connection) (l : Lookup) : Decidable (RollbackFailed c l) :=
  inferInstanceAs (Decidable (_ ∧ _))

instance (c : Connection) (l : Lookup) : Decidable (Leaks c l) :=
  inferInstanceAs (Decidable (_ ∧ _ ∧ _))

variable {c : Connection} {typeName : String} {l : Lookup}

theorem Ends.status_of_leak (h : Ends c typeName l) (hleak : Leaks c l) :
    l.exchange.connection.status = .inBlock := by
  obtain ⟨hidle, hauto, hfetch, hfault⟩ := hleak
  cases h with
  | unsent _ => simp at hfetch
  | refused _ _ => simp at hfetch
  | unfetched _ _ => simp [Connection.opened, hidle, hauto]
  | kept _ hreply _ => simp [hreply, Reply.fetchFault?] at hfault
  | stuck _ hreply _ => simp [hreply, Reply.fetchFault?] at hfault
  | rolledBack _ hreply _ => simp [hreply, Reply.fetchFault?] at hfault

theorem Ends.status_of_not_leak (h : Ends c typeName l) (hs : c.status ≠ .failed)
    (hroll : ¬RollbackFailed c l) (hleak : ¬Leaks c l) :
    l.exchange.connection.status = c.status := by
  cases h with
  | unsent _ => rfl
  | refused _ _ => rfl
  | unfetched _ hreply =>
    refine if_neg fun hopen => hleak ?_
    simp only [Bool.and_eq_true, Bool.not_eq_true', decide_eq_true_eq] at hopen
    exact ⟨hopen.2, hopen.1, by simp, by simp [hreply, Reply.fetchFault?]⟩
  | kept _ _ hkeep => exact Connection.opened_of_not_needsRollback hkeep
  | stuck _ hreply _ => exact absurd ⟨by simp, by simp [hreply, Reply.rollbackFault?]⟩ hroll
  | rolledBack _ _ hneeds =>
    cases hstatus : c.status with
    | idle => rfl
    | inBlock => exact absurd hstatus hneeds.1
    | failed => exact absurd hstatus hs

theorem Ends.status_eq_iff (h : Ends c typeName l) (hs : c.status ≠ .failed)
    (hroll : ¬RollbackFailed c l) : l.exchange.connection.status = c.status ↔ ¬Leaks c l := by
  constructor
  · intro hstatus hleak
    rw [h.status_of_leak hleak, hleak.1] at hstatus
    cases hstatus
  · exact h.status_of_not_leak hs hroll

/-- Inside a transaction of the caller nothing can go wrong: a lookup does not even roll back. -/
theorem Ends.inBlock (h : Ends c typeName l) (hs : c.status = .inBlock) :
    l.exchange.connection.status = .inBlock := by
  cases h with
  | unsent _ => exact hs
  | refused _ _ => exact hs
  | unfetched _ _ => exact Connection.opened_of_inBlock hs
  | kept _ _ _ => exact Connection.opened_of_inBlock hs
  | stuck _ _ hneeds => exact absurd hs hneeds.1
  | rolledBack _ _ hneeds => exact absurd hs hneeds.1

end Catalog

end PgJson
