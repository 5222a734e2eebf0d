import PgJson.Proofs.Catalog.Endings
import PgJson.Proofs.Sql.Constant

/-!
# The statement of a lookup

The name of a type comes from the application and may be any text. It reaches the server in one
place only, as a string constant at the end of the query, so what has to be shown is that no server
sees anything there but that constant: not a longer one, not a shorter one with statements of the
caller behind it, and none at all for a name that cannot be sent.

## Main definitions

* `PgJson.Call.statement?` — the statement that a call has executed

## Main results

* `PgJson.Catalog.pieces_queryText` — the query, taken apart by a server
* `PgJson.Catalog.quote_injection_free` — quoting, and the statements of lookups, for all servers
-/

namespace PgJson

open Sql (quoteChars Server)
open Sql.Server (Piece openers)

/-- The statement that a call has executed. -/
def Call.statement? : Call → Option String
  | .execute sql => some sql
  | .fetch => none
  | .rollback => none

namespace Catalog

/-! ### The query -/

/-- The query up to the blank before the name. -/
def queryHead (version : Nat) : String :=
  "SELECT t.oid::text, " ++ arrayColumn version ++ " FROM pg_type t WHERE t.typname ="

theorem queryText_eq (version : Nat) (literal : String) :
    queryText version literal = queryHead version ++ " " ++ literal ++ ";" := by
  have hblank : " FROM pg_type t WHERE t.typname = " =
      " FROM pg_type t WHERE t.typname =" ++ " " := by decide +kernel
  unfold queryText queryHead
  rw [hblank, ← String.append_assoc]

/-- Stated for any texts, since the characters of the query itself only slow the rewriting. -/
theorem toList_statement (head literal : String) :
    (head ++ " " ++ literal ++ ";").toList =
      head.toList ++ ' ' :: (literal.toList ++ [';']) := by
  simp

theorem queryHead_openers (version : Nat) :
    ∀ ch ∈ (queryHead version).toList ++ [' '], ch ∉ openers := by
  have hcolumn : ∀ ch ∈ (arrayColumn version).toList, ch ∉ openers := by
    unfold arrayColumn
    split
    · simp [openers]
    · simp [openers]
  have hselect : ∀ ch ∈ "SELECT t.oid::text, ".toList, ch ∉ openers := by simp [openers]
  have hfrom : ∀ ch ∈ " FROM pg_type t WHERE t.typname =".toList ++ [' '], ch ∉ openers := by
    simp [openers]
  unfold queryHead
  rw [String.toList_append, String.toList_append, List.append_assoc, List.forall_mem_append,
    List.forall_mem_append]
  exact ⟨⟨hselect, hcolumn⟩, hfrom⟩

/-- A server finds one constant in the query, the name, and a semicolon behind it. -/
theorem pieces_queryText (server : Server) (version : Nat) (name : List Char) :
    server.pieces false (queryText version (String.ofList (quoteChars name))).toList =
      some (((queryHead version).toList ++ [' ']).map .other ++
        [.constant name, .other ';']) := by
  have hhead : '\'' ∉ (queryHead version).toList := fun h =>
    queryHead_openers version _ (List.mem_append_left _ h) (by simp [openers])
  have hend : server.pieces false [';'] = some [.other ';'] := by
    rw [Server.pieces_of_not_opens rfl, Server.pieces_nil]
    rfl
  rw [queryText_eq, toList_statement, Server.pieces_append hhead, String.toList_ofList,
    Server.pieces_quoteChars _ (by simp), hend]
  rfl

/-! ### What a lookup executes -/

/-- Only a name with a NUL character cannot be put into a query. -/
theorem mem_of_query_eq_error {version : Nat} {typeName : String} {e : Error}
    (h : query version typeName = .error e) : '\x00' ∈ typeName.toList := by
  refine Decidable.byContradiction fun hname => ?_
  rw [query, Sql.quote_of_notMem hname] at h
  cases h

variable {c : Connection} {typeName : String} {l : Lookup}

theorem Ends.calls_of_error (h : Ends c typeName l) {e : Error}
    (hsql : query c.version typeName = .error e) : l.exchange.calls = [] := by
  cases h with
  | unsent _ => rfl
  | refused h _ | unfetched h _ | kept h _ _ | stuck h _ _ | rolledBack h _ _ =>
    rw [hsql] at h
    cases h

theorem Ends.statements_of_ok (h : Ends c typeName l) {sql : String}
    (hsql : query c.version typeName = .ok sql) :
    l.exchange.calls.filterMap Call.statement? = [sql] := by
  cases h with
  | unsent h =>
    rw [hsql] at h
    cases h
  | refused h _ | unfetched h _ | kept h _ _ | stuck h _ _ | rolledBack h _ _ =>
    obtain rfl := Except.ok.inj (h.symm.trans hsql)
    rfl

/-- **Quoting keeps texts inside their constants.** The texts with a NUL character are refused, and
every other text becomes a literal that every server, with either setting of
`standard_conforming_strings`, reads as that text, up to its last character and no further. So a
lookup executes nothing for a name with a NUL character, and for every other name one statement,
in which the name is the only constant, with a semicolon and nothing else behind it. -/
theorem quote_injection_free (text : String) :
    (Sql.quote text = .error .nullByte ↔ '\x00' ∈ text.toList) ∧
    ('\x00' ∉ text.toList → ∃ literal, Sql.quote text = .ok literal ∧
      ∀ (server : Server) (suffix : List Char), suffix.head? ≠ some '\'' →
        server.readConstant (literal.toList ++ suffix) = some (text.toList, suffix)) ∧
    ∀ c : Connection,
      ('\x00' ∈ text.toList → (findOn c text).exchange.calls = []) ∧
      ('\x00' ∉ text.toList → ∃ (sql : String) (before : List Char),
        (findOn c text).exchange.calls.filterMap Call.statement? = [sql] ∧
        (∀ ch ∈ before, ch ∉ openers) ∧
        ∀ server : Server, server.pieces false sql.toList =
          some (before.map .other ++ [.constant text.toList, .other ';'])) := by
  refine ⟨Sql.quote_eq_error_iff, fun h => ?_, fun c => ⟨fun h => ?_, fun h => ?_⟩⟩
  · refine ⟨_, Sql.quote_of_notMem h, fun server suffix hsuffix => ?_⟩
    rw [String.toList_ofList]
    exact Server.readConstant_quoteChars server _ hsuffix
  · have hsql : query c.version text = .error .nullByte := by
      rw [query, Sql.quote_of_mem h]
      rfl
    exact (ends_findOn c text).calls_of_error hsql
  · have hsql : query c.version text =
        .ok (queryText c.version (String.ofList (quoteChars text.toList))) := by
      rw [query, Sql.quote_of_notMem h]
      rfl
    exact ⟨_, _, (ends_findOn c text).statements_of_ok hsql, queryHead_openers c.version,
      fun server => pieces_queryText server c.version text.toList⟩

/-- A name that tries to close its constant by an escaped quote, and a name that cannot be sent. -/
theorem quote_injection_free_backslash :
    Sql.quote "\\'; DROP" = .ok "E'\\\\''; DROP'" ∧
    (∀ server : Server, server.readConstant ("E'\\\\''; DROP'".toList ++ [';']) =
      some ("\\'; DROP".toList, [';'])) ∧
    (findOn {} "a\x00b").exchange.calls = [] ∧
    ∃ sql before, (findOn {} "\\'; DROP").exchange.calls.filterMap Call.statement? = [sql] ∧
      ∀ server : Server, server.pieces false sql.toList =
        some (List.map .other before ++ [.constant "\\'; DROP".toList, .other ';']) := by
  obtain ⟨-, hliteral, hlookup⟩ := quote_injection_free "\\'; DROP"
  obtain ⟨-, -, hnul⟩ := quote_injection_free "a\x00b"
  have hquoted : Sql.quote "\\'; DROP" = .ok "E'\\\\''; DROP'" := rfl
  refine ⟨hquoted, ?_, (hnul {}).1 (by decide), ?_⟩
  · obtain ⟨literal, hquote, hread⟩ := hliteral (by decide)
    obtain rfl := Except.ok.inj (hquoted.symm.trans hquote)
    exact fun server => hread server [';'] (by decide)
  · obtain ⟨sql, before, hsql, -, hpieces⟩ := (hlookup {}).2 (by decide)
    exact ⟨sql, before, hsql, hpieces⟩

end Catalog

end PgJson
