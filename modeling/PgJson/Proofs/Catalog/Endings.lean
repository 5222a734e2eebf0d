import PgJson.Catalog

/-!
# How a catalog lookup ends

A lookup asks a connection at most three things, and stops at the first that fails. There are six
ways in which it can end, and each determines the result, the calls, the events and the connection
that is left. Everything else about lookups is read off from them, without opening the dialogue.

## Main definitions

* `PgJson.Connection.reply`, `opened` — the reply to the next statement, and the status after it
* `PgJson.Connection.NeedsRollback` — a lookup has to end the transaction that it is in
* `PgJson.Connection.Executes`, `Fetches` — the first two calls of a lookup succeed
* `PgJson.Catalog.Ends` — the six ways in which a lookup ends

## Main results

* `PgJson.Catalog.ends_findOn` — every lookup ends in one of them
* `PgJson.Catalog.Ends.casters` — no lookup changes a caster
-/

namespace PgJson

namespace Connection

/-- The reply to the next statement. -/
def reply (c : Connection) : Reply := c.script.headD .silent

/-- A lookup is neither inside a transaction of the caller nor committed by itself, so that it has
to end the transaction that it is in. -/
def NeedsRollback (c : Connection) : Prop := c.status ≠ .inBlock ∧ c.autocommit = false

instance (c : Connection) : Decidable c.NeedsRollback :=
  inferInstanceAs (Decidable (c.status ≠ .inBlock ∧ c.autocommit = false))

/-- The status after a statement that is not refused. -/
def opened (c : Connection) : TransactionStatus :=
  if !c.autocommit && c.status = .idle then .inBlock else c.status

theorem execute_of_refused {c : Connection} {m : String} (h : c.reply = .refused m) :
    c.execute = (.error (failure m), { c with script := c.script.tail }) := by
  rw [reply] at h
  rw [execute, h]

theorem execute_of_answered {c : Connection} {rows : List Row} {f? r? : Option String}
    (h : c.reply = .answered rows f? r?) :
    c.execute = (.ok (), { c with
      status := c.opened
      script := c.script.tail
      rows := rows
      fetchFault? := f?
      rollbackFault? := r? }) := by
  rw [reply] at h
  rw [execute, h]
  rfl

/-- The next statement is not refused. -/
def Executes (c : Connection) : Prop := c.execute.1 = .ok ()

/-- The first row that the next statement leaves can be fetched, or there is none. -/
def Fetches (c : Connection) : Prop := ∃ row?, c.execute.2.fetch.1 = .ok row?

variable {c : Connection} {rows : List Row} {f? r? : Option String}

theorem executes_of_answered (h : c.reply = .answered rows f? r?) : c.Executes := by
  rw [Executes, execute_of_answered h]

theorem not_executes_of_refused {m : String} (h : c.reply = .refused m) : ¬c.Executes := by
  rw [Executes, execute_of_refused h]
  exact fun herror => by cases herror

theorem fetches_of_answered (h : c.reply = .answered rows none r?) : c.Fetches := by
  rw [Fetches, execute_of_answered h]
  exact ⟨_, rfl⟩

theorem not_fetches_of_answered {m : String} (h : c.reply = .answered rows (some m) r?) :
    ¬c.Fetches := by
  rw [Fetches, execute_of_answered h]
  rintro ⟨row?, hrow⟩
  cases hrow

end Connection

namespace Catalog

/-- The event of an answer that was understood. -/
def answerEvents (typeName : String) : Except Error TypeOids → List Event
  | .ok oids => [.found typeName oids]
  | .error _ => []

/-- The six ways in which a lookup ends. -/
inductive Ends (c : Connection) (typeName : String) : Lookup → Prop
  | unsent {e : Error} (hsql : query c.version typeName = .error e) :
    Ends c typeName ⟨.error e, { connection := c }⟩
  | refused {sql m : String} (hsql : query c.version typeName = .ok sql)
    (hreply : c.reply = .refused m) :
    Ends c typeName ⟨.error (Connection.failure m),
      { connection := { c with script := c.script.tail }
        calls := [.execute sql]
        events := [.lookingUp typeName] }⟩
  | unfetched {sql m : String} {rows : List Row} {r? : Option String}
    (hsql : query c.version typeName = .ok sql) (hreply : c.reply = .answered rows (some m) r?) :
    Ends c typeName ⟨.error (Connection.failure m),
      { connection := { c with
          status := c.opened
          script := c.script.tail
          rows := rows
          fetchFault? := none
          rollbackFault? := r? }
        calls := [.execute sql, .fetch]
        events := [.lookingUp typeName] }⟩
  /-- The lookup was made inside a transaction of the caller, or committed by itself. -/
  | kept {sql : String} {rows : List Row} {r? : Option String}
    (hsql : query c.version typeName = .ok sql) (hreply : c.reply = .answered rows none r?)
    (hkeep : ¬c.NeedsRollback) :
    Ends c typeName ⟨readAnswer typeName rows.head?,
      { connection := { c with
          status := c.opened
          script := c.script.tail
          rows := rows.tail
          fetchFault? := none
          rollbackFault? := r? }
        calls := [.execute sql, .fetch]
        events := .lookingUp typeName :: answerEvents typeName (readAnswer typeName rows.head?) }⟩
  | stuck {sql m : String} {rows : List Row} (hsql : query c.version typeName = .ok sql)
    (hreply : c.reply = .answered rows none (some m)) (hroll : c.NeedsRollback) :
    Ends c typeName ⟨.error (Connection.failure m),
      { connection := { c with
          status := c.opened
          script := c.script.tail
          rows := rows.tail
          fetchFault? := none
          rollbackFault? := none }
        calls := [.execute sql, .fetch, .rollback]
        events := [.lookingUp typeName, .rollingBack] }⟩
  | rolledBack {sql : String} {rows : List Row} (hsql : query c.version typeName = .ok sql)
    (hreply : c.reply = .answered rows none none) (hroll : c.NeedsRollback) :
    Ends c typeName ⟨readAnswer typeName rows.head?,
      { connection := { c with
          status := .idle
          script := c.script.tail
          rows := rows.tail
          fetchFault? := none
          rollbackFault? := none }
        calls := [.execute sql, .fetch, .rollback]
        events := .lookingUp typeName :: .rollingBack ::
          answerEvents typeName (readAnswer typeName rows.head?) }⟩

/-- Every lookup ends in one of the six ways. -/
theorem ends_findOn (c : Connection) (typeName : String) : Ends c typeName (findOn c typeName) := by
  cases hsql : query c.version typeName with
  | error e =>
    have h : findOn c typeName = ⟨.error e, { connection := c }⟩ := by
      simp only [findOn, find, EStateM.run, bind, EStateM.bind, Dialogue.connection,
        Dialogue.settle, hsql]
    rw [h]
    exact .unsent hsql
  | ok sql =>
    simp only [findOn, find, EStateM.run, bind, EStateM.bind, Dialogue.connection, Dialogue.settle,
      Dialogue.log, Dialogue.ask, hsql]
    cases hreply : c.reply with
    | refused m =>
      simp only [Connection.execute_of_refused hreply]
      exact .refused hsql hreply
    | answered rows f? r? =>
      simp only [Connection.execute_of_answered hreply]
      cases f? with
      | some m => exact .unfetched hsql hreply
      | none =>
        by_cases hroll : c.NeedsRollback
        · have hcond : (decide (c.status ≠ .inBlock) && !c.autocommit) = true := by
            simpa [Connection.NeedsRollback] using hroll
          simp only [Connection.fetch, if_pos hcond]
          cases r? with
          | some m => exact .stuck hsql hreply hroll
          | none =>
            have h := Ends.rolledBack hsql hreply hroll
            cases hanswer : readAnswer typeName rows.head? with
            | ok oids =>
              rw [hanswer] at h
              exact h
            | error e =>
              rw [hanswer] at h
              exact h
        · have hcond : ¬(decide (c.status ≠ .inBlock) && !c.autocommit) = true := by
            simpa [Connection.NeedsRollback] using hroll
          simp only [Connection.fetch, if_neg hcond]
          have h := Ends.kept hsql hreply hroll
          cases hanswer : readAnswer typeName rows.head? with
          | ok oids =>
            rw [hanswer] at h
            exact h
          | error e =>
            rw [hanswer] at h
            exact h

/-- A lookup leaves the casters of its connection alone. -/
theorem Ends.casters {c : Connection} {typeName : String} {l : Lookup} (h : Ends c typeName l) :
    l.exchange.connection.casters = c.casters := by
  cases h <;> rfl

end Catalog

end PgJson
