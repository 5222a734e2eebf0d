import PgJson.Oid
import PgJson.Text.Numeral

/-!
# Command line arguments

The command line has options of its own, then a command with options and texts. Options that are
meant for every command may stand before or after the name of the command. A long option takes its
value after an equals sign or from the next argument, a short one also without anything between,
and short options may share a dash. After two dashes everything is text.

Arguments are read from left to right. The first one that does not fit decides: an unknown option,
an option that is repeated, a value that its option does not take, a text for which there is no
room. Asking for the version or for help is answered as soon as it is read, so that only what
stands before it is judged. What is missing shows at the end.

## Main definitions

* `PgJson.Cli.Command`, `Invocation` — what is to be done
* `PgJson.Cli.Stop` — why nothing is to be done
* `PgJson.Cli.Arguments.parse` — the meaning of the arguments
-/

namespace PgJson.Cli

/-- What is to be done. -/
inductive Command where
  /-- Look up the oids of a type. -/
  | oids (typeName? : Option String)
  /-- Write a JSON document as a string constant. -/
  | quote (json : String) (pretty : Bool)
  /-- Decode the text of a column. -/
  | decode (oid : Oid) (text : String)
deriving DecidableEq, Repr

/-- A command with the options that are meant for every command. -/
structure Invocation where
  databaseUrl? : Option String
  verbose : Bool
  command : Command
deriving DecidableEq, Repr

/-- Why nothing is to be done. -/
inductive Stop where
  | version
  | help
  | misuse
deriving DecidableEq, Repr

/-- The options of the command line. -/
inductive Flag where
  | databaseUrl
  | verbose
  | version
  | help
  | typeName
  | pretty
  | oid
deriving DecidableEq, Repr

/-- How an option is written and whether it takes a value. -/
structure Flag.Form where
  flag : Flag
  long : String
  short? : Option Char
  takesValue : Bool

/-- The options that are meant for every command. -/
def Flag.shared : List Flag.Form :=
  [⟨.databaseUrl, "database-url", none, true⟩, ⟨.verbose, "verbose", some 'v', false⟩,
    ⟨.help, "help", some 'h', false⟩]

/-- Where arguments stand: which options fit there and how many texts. Without a number of texts
the place ends before the first one. -/
structure Place where
  forms : List Flag.Form
  room? : Option Nat

/-- The place before the name of a command. -/
def Place.leading : Place := ⟨⟨.version, "version", some 'V', false⟩ :: Flag.shared, none⟩

/-- The place after the name of a command. -/
def Place.ofCommand? : String → Option Place
  | "oids" => some ⟨⟨.typeName, "type-name", some 't', true⟩ :: Flag.shared, some 0⟩
  | "quote" => some ⟨⟨.pretty, "pretty", some 'p', false⟩ :: Flag.shared, some 1⟩
  | "decode" => some ⟨⟨.oid, "oid", some 'o', true⟩ :: Flag.shared, some 1⟩
  | _ => none

/-- What has been given in one place: the values of its options, and its texts. -/
structure Given where
  databaseUrl? : Option String := none
  verbose : Bool := false
  typeName? : Option String := none
  pretty : Bool := false
  oid? : Option Oid := none
  texts : List String := []

namespace Arguments

/-- The greatest number that is read as an option value. -/
def greatestNumber : Nat := Text.greatestSigned 64

/-- An oid given as a number. -/
def readOid (text : String) : Option Oid :=
  match Text.readInt greatestNumber text.toList with
  | .ok n => if 0 ≤ n && n ≤ greatestOid then some (UInt32.ofNat n.toNat) else none
  | .error _ => none

/-- Give an option its value, which may be done once. -/
def giveOnce (before? : Option α) (value : α) : Except Stop (Option α) :=
  if before?.isSome then .error .misuse else .ok (some value)

/-- Set an option without a value, which may be done once. -/
def setOnce (before : Bool) : Except Stop Bool := if before then .error .misuse else .ok true

/-- Take an option that has been read. Asking for the version or for help is answered at once, no
option may be repeated in the same place, and an oid must be a number. -/
def take (flag : Flag) (value : String) (g : Given) : Except Stop Given :=
  match flag with
  | .version => .error .version
  | .help => .error .help
  | .databaseUrl => do return { g with databaseUrl? := ← giveOnce g.databaseUrl? value }
  | .verbose => do return { g with verbose := ← setOnce g.verbose }
  | .typeName => do return { g with typeName? := ← giveOnce g.typeName? value }
  | .pretty => do return { g with pretty := ← setOnce g.pretty }
  | .oid => match readOid value with
    | some oid => do return { g with oid? := ← giveOnce g.oid? oid }
    | none => .error .misuse

/-- Take texts that have been read, if there is room for them. -/
def takeTexts (room : Nat) (texts : List String) (g : Given) : Except Stop Given :=
  let texts := g.texts ++ texts
  if texts.length ≤ room then .ok { g with texts := texts } else .error .misuse

/-- Whether an argument can be the value of the option before it: it must not look like an
option, which a single dash does not. -/
def isValue (arg : String) : Bool := arg == "-" || arg.toList.head? != some '-'

/-- What is left to do after an argument: nothing, or to read the value of an option. -/
inductive Pending where
  | nothing
  | value (flag : Flag)

/-- Read a long option, after its dashes. -/
def readLong (forms : List Flag.Form) (body : List Char) (g : Given) :
    Except Stop (Given × Pending) :=
  let name := body.takeWhile (· != '=')
  match forms.find? (·.long.toList == name), body.drop name.length with
  | some form, [] =>
    if form.takesValue then .ok (g, .value form.flag)
    else do return (← take form.flag "" g, .nothing)
  | some form, _ :: value =>
    if form.takesValue then do return (← take form.flag (String.ofList value) g, .nothing)
    else .error .misuse
  | none, _ => .error .misuse

/-- Read short options that share a dash, after it. What follows an option that takes a value is
its value, without an equals sign in front. -/
def readShort (forms : List Flag.Form) : List Char → Given → Except Stop (Given × Pending)
  | [], g => .ok (g, .nothing)
  | c :: r, g => match forms.find? (·.short? == some c) with
    | none => .error .misuse
    | some form =>
      if form.takesValue then match r with
        | [] => .ok (g, .value form.flag)
        | '=' :: value => do return (← take form.flag (String.ofList value) g, .nothing)
        | value => do return (← take form.flag (String.ofList value) g, .nothing)
      else do readShort forms r (← take form.flag "" g)

/-- Read arguments in one place, and what is left when the place ends before a text. -/
def readPlace (place : Place) :
    Pending → List String → Given → Except Stop (Given × List String)
  | .nothing, [], g => .ok (g, [])
  | .value _, [], _ => .error .misuse
  | .value flag, arg :: args, g =>
    if isValue arg then do readPlace place .nothing args (← take flag arg g)
    else .error .misuse
  | .nothing, arg :: args, g =>
    match arg.toList with
    | ['-', '-'] => match place.room? with
      | none => .error .misuse
      | some room => do return (← takeTexts room args g, [])
    | '-' :: '-' :: body => do
      let (g, pending) ← readLong place.forms body g
      readPlace place pending args g
    | '-' :: c :: body => do
      let (g, pending) ← readShort place.forms (c :: body) g
      readPlace place pending args g
    | _ => match place.room? with
      | none => .ok (g, arg :: args)
      | some room => do readPlace place .nothing args (← takeTexts room [arg] g)

/-- The command with the given name, options and texts, if no text is missing. -/
def command? (name : String) (g : Given) : Option Command :=
  match name, g.texts with
  | "oids", [] => some (.oids g.typeName?)
  | "quote", [json] => some (.quote json g.pretty)
  | "decode", [text] => some (.decode (g.oid?.getD Builtin.json.oid) text)
  | _, _ => none

/-- Whether there is help on what is named: on the program, on a command, or on help itself. No
option is read there. -/
def isTopic : List String → Bool
  | [] => true
  | [name] => name == "help" || (Place.ofCommand? name).isSome
  | _ => false

/-- The meaning of the arguments. A shared option that is given before and after the name of the
command counts as it is given after it. -/
def parse (args : List String) : Except Stop Invocation := do
  let (leading, rest) ← readPlace Place.leading .nothing args {}
  match rest with
  | [] => .error .misuse
  | "help" :: topic => .error (if isTopic topic then .help else .misuse)
  | name :: args => match Place.ofCommand? name with
    | none => .error .misuse
    | some place => do
      let (given, _) ← readPlace place .nothing args {}
      match command? name given with
      | none => .error .misuse
      | some command =>
        return {
          databaseUrl? := given.databaseUrl?.or leading.databaseUrl?
          verbose := given.verbose || leading.verbose
          command := command }

end Arguments

end PgJson.Cli
