import PgJson.Sql.Quote

/-!
# String constants as a server reads them

Quoting is judged by the reader on the other side, which is a server that scans a statement from
left to right. A quote opens a constant and the first quote that is not doubled closes it. Whether
a backslash means anything depends on how the constant was opened: behind `E'` it always starts an
escape, behind a bare quote only while `standard_conforming_strings` is off.

## What is left open

Servers know many escapes. Only two of them occur in what `quote` writes, the doubled backslash and
the escaped quote, so what any other escape stands for is a parameter of the server. The same goes
for the setting. Every statement below is about all servers, hence about both settings.

A constant ends with its closing quote. That servers go on with a further constant after a line
break is not part of this reading.

A statement may also hold quoted names, comments and dollar quotes. `pieces` does not know them;
`openers` names the characters that they start with, so that a statement about a text without
such characters loses nothing.

## Main definitions

* `PgJson.Sql.Server` — how a server reads constants
* `PgJson.Sql.Server.readConstant` — the constant at the head of a text
* `PgJson.Sql.Server.pieces` — the constants of a statement, and its other characters

## Main results

* `PgJson.Sql.quote_eq_error_iff` — the only texts that cannot be quoted
* `PgJson.Sql.Server.readConstant_quoteChars` — a quoted text is read back, and nothing behind it
* `PgJson.Sql.Server.pieces_append` — what stands before a constant is not part of one
-/

namespace PgJson.Sql

/-! ### Texts that can be quoted -/

theorem quote_of_mem {text : String} (h : '\x00' ∈ text.toList) :
    quote text = .error .nullByte := by
  rw [quote, if_pos (by simpa using h)]

theorem quote_of_notMem {text : String} (h : '\x00' ∉ text.toList) :
    quote text = .ok (String.ofList (quoteChars text.toList)) := by
  rw [quote, if_neg (by simpa using h)]

/-- A text cannot be quoted exactly if it has a NUL character. -/
theorem quote_eq_error_iff {text : String} :
    quote text = .error .nullByte ↔ '\x00' ∈ text.toList := by
  refine ⟨fun herror => Decidable.byContradiction fun h => ?_, quote_of_mem⟩
  rw [quote_of_notMem h] at herror
  cases herror

/-! ### Servers -/

/-- How a server reads string constants. -/
structure Server where
  /-- The setting `standard_conforming_strings`. -/
  standard : Bool
  /-- What an escape stands for, other than a doubled backslash and an escaped quote. Given the
  text behind the backslash: the characters meant, and how many characters the escape takes. -/
  escape : List Char → Option (List Char × Nat)

namespace Server

variable (server : Server)

/-! ### Reading one constant -/

/-- More text in front of what has been read. -/
def prepend (t : List Char) (x : List Char × List Char) : List Char × List Char := (t ++ x.1, x.2)

/-- What an escape stands for, given the text behind its backslash, and how many characters of
that text it takes. -/
def readEscape : List Char → Option (List Char × Nat)
  | [] => none
  | c :: cs => if c = '\'' || c = '\\' then some ([c], 1) else server.escape (c :: cs)

/-- Read a constant from behind its opening quote: its text, and what is behind its closing
quote. -/
def readBody (escapes : Bool) : List Char → Option (List Char × List Char)
  | [] => none
  | '\'' :: '\'' :: cs => (readBody escapes cs).map (prepend ['\''])
  | '\'' :: cs => some ([], cs)
  | c :: cs =>
    if escapes && c = '\\' then
      match server.readEscape cs with
      | none => none
      | some (t, n) => (readBody escapes (cs.drop n)).map (prepend t)
    else (readBody escapes cs).map (prepend [c])
termination_by cs => cs.length
decreasing_by all_goals simp only [List.length_cons, List.length_drop]; omega

/-- Read the constant at the head of a text: its text, and what is behind it. -/
def readConstant : List Char → Option (List Char × List Char)
  | '\'' :: cs => server.readBody (!server.standard) cs
  | 'E' :: '\'' :: cs => server.readBody true cs
  | 'e' :: '\'' :: cs => server.readBody true cs
  | _ => none

variable {server}

theorem readBody_quote {escapes : Bool} {cs : List Char} (h : cs.head? ≠ some '\'') :
    server.readBody escapes ('\'' :: cs) = some ([], cs) := by
  cases cs with
  | nil => simp [readBody]
  | cons c cs =>
    have hc : c ≠ '\'' := by simpa using h
    rw [readBody]
    intro ds hds
    exact hc (List.cons.inj hds).1

/-- What is written for a character is read as that character. A backslash is written twice, so
that needs escapes. -/
theorem readBody_quoteChar {escapes : Bool} {c : Char} (hc : c = '\\' → escapes = true)
    (cs : List Char) : server.readBody escapes (quoteChar c ++ cs) =
      (server.readBody escapes cs).map (prepend [c]) := by
  by_cases hquote : c = '\''
  · subst hquote
    simp [quoteChar, readBody]
  · by_cases hback : c = '\\'
    · subst hback
      simp [quoteChar, readBody, readEscape, hc rfl]
    · rw [show quoteChar c = [c] by simp [quoteChar, hquote, hback], List.singleton_append,
        readBody]
      · simp [hback]
      · exact fun ds hds _ => hquote hds
      · exact hquote

theorem readBody_flatMap_quoteChar {escapes : Bool} {s : List Char}
    (hs : '\\' ∈ s → escapes = true) {cs : List Char} (hcs : cs.head? ≠ some '\'') :
    server.readBody escapes (s.flatMap quoteChar ++ '\'' :: cs) = some (s, cs) := by
  induction s with
  | nil => exact readBody_quote hcs
  | cons c s ih =>
    have hc : c = '\\' → escapes = true := fun h => hs (h ▸ List.mem_cons_self)
    rw [List.flatMap_cons, List.append_assoc, readBody_quoteChar hc,
      ih fun h => hs (List.mem_cons_of_mem _ h)]
    rfl

/-- **A quoted text is read back**, whatever the server and its setting, and nothing of what is
behind it is read, as long as that does not start with a quote. -/
theorem readConstant_quoteChars (server : Server) (s : List Char) {cs : List Char}
    (hcs : cs.head? ≠ some '\'') : server.readConstant (quoteChars s ++ cs) = some (s, cs) := by
  by_cases hback : '\\' ∈ s
  · simpa [quoteChars, hback, readConstant] using readBody_flatMap_quoteChar (fun _ => rfl) hcs
  · simpa [quoteChars, hback, readConstant] using
      readBody_flatMap_quoteChar (fun h => absurd h hback) hcs

/-- Between bare quotes, what a backslash does to the closing quote depends on the setting. -/
example : (Server.mk true fun _ => none).readConstant ['\'', '\\', '\''] = some (['\\'], []) ∧
    (Server.mk false fun _ => none).readConstant ['\'', '\\', '\''] = none :=
  ⟨by cbv, by cbv⟩

/-! ### Taking a statement apart

A constant is shorter than the text it is read from, so that a scan of a whole statement ends. -/

theorem exists_of_map_prepend {o : Option (List Char × List Char)} {t s rest : List Char}
    (h : o.map (prepend t) = some (s, rest)) : ∃ s', o = some (s', rest) := by
  obtain ⟨⟨s', rest'⟩, ho, heq⟩ := Option.map_eq_some_iff.mp h
  obtain ⟨-, rfl⟩ := Prod.mk.inj heq
  exact ⟨s', ho⟩

theorem length_readBody {escapes : Bool} {cs s rest : List Char}
    (h : server.readBody escapes cs = some (s, rest)) : rest.length < cs.length := by
  fun_induction readBody server escapes cs generalizing s with
  | case1 => cases h
  | case2 cs ih =>
    obtain ⟨s', hs'⟩ := exists_of_map_prepend h
    exact Nat.lt_trans (ih hs') (by simp only [List.length_cons]; omega)
  | case3 cs _ =>
    obtain ⟨rfl, rfl⟩ := Prod.mk.inj (Option.some.inj h)
    exact Nat.lt_succ_self _
  | case4 => cases h
  | case5 c cs t n _ _ _ _ ih =>
    obtain ⟨s', hs'⟩ := exists_of_map_prepend h
    have hrest := ih hs'
    rw [List.length_drop] at hrest
    rw [List.length_cons]
    omega
  | case6 c cs _ _ _ ih =>
    obtain ⟨s', hs'⟩ := exists_of_map_prepend h
    exact Nat.lt_trans (ih hs') (Nat.lt_succ_self _)

theorem length_readConstant {cs s rest : List Char}
    (h : server.readConstant cs = some (s, rest)) : rest.length < cs.length := by
  unfold readConstant at h
  split at h
  case h_4 => cases h
  all_goals
    have hrest := length_readBody h
    simp only [List.length_cons]
    omega

/-- A part of a statement, as far as constants are concerned. -/
inductive Piece where
  | constant (text : List Char)
  | other (c : Char)
deriving DecidableEq, Repr

/-- A character that goes on with a word. -/
def isWord (c : Char) : Bool := c.isAlphanum || c = '_' || c = '$' || 128 ≤ c.toNat

/-- Whether a constant starts at the head of a text. The last letter of a word opens nothing. -/
def opens (inWord : Bool) : List Char → Bool
  | '\'' :: _ => true
  | 'E' :: '\'' :: _ => !inWord
  | 'e' :: '\'' :: _ => !inWord
  | _ => false

/-- The characters that constants, quoted names, dollar quotes and comments start with. -/
def openers : List Char := ['\'', '"', '$', '-', '/']

/-- Take a statement apart. There are no pieces if a constant is not closed. -/
def pieces (server : Server) (inWord : Bool) : List Char → Option (List Piece)
  | [] => some []
  | c :: cs =>
    if opens inWord (c :: cs) then
      match _h : server.readConstant (c :: cs) with
      | none => none
      | some (s, rest) => (pieces server false rest).map (.constant s :: ·)
    else (pieces server (isWord c) cs).map (.other c :: ·)
termination_by cs => cs.length
decreasing_by
  · exact length_readConstant _h
  · exact Nat.lt_succ_self _

@[simp] theorem pieces_nil (inWord : Bool) : server.pieces inWord [] = some [] := by rw [pieces]

theorem pieces_of_opens {inWord : Bool} {cs s rest : List Char} (h : opens inWord cs = true)
    (hs : server.readConstant cs = some (s, rest)) :
    server.pieces inWord cs = (server.pieces false rest).map (.constant s :: ·) := by
  cases cs with
  | nil => cases h
  | cons c cs =>
    rw [pieces, if_pos h]
    split
    · next hnone =>
      rw [hnone] at hs
      cases hs
    · next hsome =>
      rw [hsome] at hs
      cases hs
      rfl

theorem pieces_of_not_opens {inWord : Bool} {c : Char} {cs : List Char}
    (h : opens inWord (c :: cs) = false) :
    server.pieces inWord (c :: cs) = (server.pieces (isWord c) cs).map (.other c :: ·) := by
  rw [pieces, if_neg (by simp [h])]

theorem opens_eq_false {inWord : Bool} {c : Char} {cs : List Char} (hc : c ≠ '\'')
    (hcs : cs.head? ≠ some '\'') : opens inWord (c :: cs) = false := by
  rw [opens]
  · intro ds hds
    exact hc (List.cons.inj hds).1
  · intro ds hds
    exact hcs (by rw [(List.cons.inj hds).2]; rfl)
  · intro ds hds
    exact hcs (by rw [(List.cons.inj hds).2]; rfl)

/-- What stands before a blank and holds no quote holds no constant. The blank keeps an `E` from
meeting a quote behind it. -/
theorem pieces_append {before : List Char} (h : '\'' ∉ before) (inWord : Bool) (cs : List Char) :
    server.pieces inWord (before ++ ' ' :: cs) =
      (server.pieces false cs).map ((before ++ [' ']).map .other ++ ·) := by
  induction before generalizing inWord with
  | nil =>
    have hblank : opens inWord (' ' :: cs) = false := rfl
    rw [List.nil_append, pieces_of_not_opens hblank]
    rfl
  | cons c before ih =>
    rw [List.mem_cons, not_or] at h
    have hhead : (before ++ ' ' :: cs).head? ≠ some '\'' := by
      cases before with
      | nil => simp
      | cons d before =>
        intro hd
        exact h.2 (Option.some.inj hd ▸ List.mem_cons_self)
    rw [List.cons_append, pieces_of_not_opens (opens_eq_false (Ne.symm h.1) hhead), ih h.2,
      Option.map_map]
    rfl

/-- A quoted text in the place of a constant is one constant, which ends with the quoted text. -/
theorem pieces_quoteChars (s : List Char) {cs : List Char} (hcs : cs.head? ≠ some '\'') :
    server.pieces false (quoteChars s ++ cs) = (server.pieces false cs).map (.constant s :: ·) := by
  refine pieces_of_opens ?_ (readConstant_quoteChars server s hcs)
  by_cases hback : '\\' ∈ s
  · simp [quoteChars, hback, opens]
  · simp [quoteChars, hback, opens]

end Server

end PgJson.Sql
