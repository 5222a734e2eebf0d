import PgJson.ArrayLiteral.Basic
import PgJson.Json.Error

/-!
# Errors

Everything that can go wrong between an application and the JSON columns of a database is one of
seven kinds. Each kind says what is wrong by a fault of its own, and `Error.message` has the
wording.

## Main definitions

* `PgJson.ConfigurationFault`, `CatalogFault`, `DriverFault` — what is wrong, kind by kind
* `PgJson.Error` — the seven kinds of errors
* `PgJson.Error.message` — the wording
-/

namespace PgJson

/-- Something that the application should have provided is missing or unusable. -/
inductive ConfigurationFault where
  | noEncoder
  | noDecoder
  /-- The oids of a type are to be looked up, but there is no connection to ask. -/
  | connectionRequired (typeName : String)
  | invalidSettings
  | unreadableSettings (reason : String)
  | other (text : String)
deriving DecidableEq, Repr

/-- The name of the settings file. -/
def settingsFile : String := "qail.toml"

/-- The wording of a configuration fault. -/
def ConfigurationFault.message : ConfigurationFault → String
  | .noEncoder => "no serialization function available: you should provide a dumps function"
  | .noDecoder => "no json decoder available"
  | .connectionRequired typeName =>
    "a connection is required to look up the " ++ typeName ++ " oids"
  | .invalidSettings => "Invalid " ++ settingsFile
  | .unreadableSettings reason => "Cannot read " ++ settingsFile ++ ": " ++ reason
  | .other text => text

/-- The catalog lacks something. -/
inductive CatalogFault where
  | dataType (typeName : String)
  | other (text : String)
deriving DecidableEq, Repr

/-- The wording of a catalog fault. -/
def CatalogFault.message : CatalogFault → String
  | .dataType typeName => typeName ++ " data type not found"
  | .other text => text

/-- A connection failed, or answered with something that is no answer. -/
inductive DriverFault where
  | invalidOid (text : String) (fault : Text.NumeralFault)
  | missingOid (typeName : String)
  | other (text : String)
deriving DecidableEq, Repr

/-- The wording of a driver fault. -/
def DriverFault.message : DriverFault → String
  | .invalidOid text fault => "Invalid oid '" ++ text ++ "': " ++ fault.message
  | .missingOid typeName => "pg_type returned no oid for " ++ typeName
  | .other text => text

/-- The kinds of errors. -/
inductive Error where
  | configuration (fault : ConfigurationFault)
  | notFound (fault : CatalogFault)
  | encode (e : Json.Error)
  | decode (e : Json.Error)
  /-- A text is no array literal, from the byte at `position` on. -/
  | arrayLiteral (position : Nat) (cause : ArrayLiteral.Cause)
  /-- A text with a NUL character cannot be sent. -/
  | nullByte
  | driver (fault : DriverFault)
deriving DecidableEq, Repr

/-- The wording of an error. -/
def Error.message : Error → String
  | .configuration fault => "Configuration error: " ++ fault.message
  | .notFound fault => "Not found: " ++ fault.message
  | .encode e => "Encode error: " ++ e.message
  | .decode e => "Decode error: " ++ e.message
  | .arrayLiteral position cause =>
    "Invalid array literal at position " ++ toString position ++ ": " ++ cause.message
  | .nullByte => "Value contains NULL byte (0x00) which is invalid in PostgreSQL"
  | .driver fault => fault.message

end PgJson
