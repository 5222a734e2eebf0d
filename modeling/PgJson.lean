import PgJson.Hub
import PgJson.Main
import PgJson.Proofs.ArrayLiteral.Grammar
import PgJson.Proofs.ArrayLiteral.Acceptance
import PgJson.Proofs.ArrayLiteral.Structure
import PgJson.Proofs.ArrayLiteral.Refusal
import PgJson.Proofs.ArrayLiteral.DimensionLimit
import PgJson.Proofs.ArrayLiteral.Padding
import PgJson.Proofs.Catalog.Endings
import PgJson.Proofs.Catalog.TransactionStatus
import PgJson.Proofs.Catalog.Answer
import PgJson.Proofs.Registration.Frame
import PgJson.Proofs.Hub.Lookups
import PgJson.Proofs.Hub.TransactionStatus
import PgJson.Proofs.ArrayLiteral.Rendering
import PgJson.Proofs.Json.Blanks
import PgJson.Proofs.Registration.Entry
import PgJson.Proofs.Caster.Shape
import PgJson.Proofs.Json.Controls
import PgJson.Proofs.Parameter.Controls
import PgJson.Proofs.Registration.ArrayColumn
import PgJson.Proofs.Json.RoundTrip
import PgJson.Proofs.Json.Reserved
import PgJson.Proofs.Payload.Tree
import PgJson.Proofs.Parameter.RoundTrip
import PgJson.Proofs.Sql.Constant
import PgJson.Proofs.Catalog.Statement
import PgJson.Proofs.Hub.Tables
import PgJson.Proofs.Hub.History
import PgJson.Proofs.Hub.Isolation
import PgJson.Proofs.Payload.Agreement
import PgJson.Proofs.Parameter.Agreement
import PgJson.Proofs.Hub.Calls
import PgJson.Proofs.Hub.Discovery
