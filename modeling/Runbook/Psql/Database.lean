import Runbook.Definition.Fields
import Runbook.Shell.Quoting

/-!
# Databases

How a database is reached. Every part may be left out; name, user and host have to be there before
a connection can be written down, as a URI or as the beginning of a command line.
-/

namespace Runbook.Psql

/-- How a database is reached. -/
structure Database where
  name : Option String
  user : Option String
  password : Option String
  host : Option String
  port : Option String
deriving DecidableEq, Repr, Inhabited

/-- What a message calls a database. -/
def databaseNoun : String := "psql_db"

namespace Database

/-- Nothing is set. -/
def unset : Database := ⟨none, none, none, none, none⟩

/-- A database with the parts that a connection needs. -/
def new (name user host : String) : Database := ⟨some name, some user, none, some host, none⟩

/-- A sample on this machine. -/
def sample : Database :=
  { new "any_db" "any_user" "localhost" with password := some "onlyNSAknows" }

/-- Reads the definition: name, user, password, host and port. -/
def ofValue (scope : Scope) (v : Value) : Except DefinitionError Database := do
  let fields := Fields.ofValue scope databaseNoun v
  let name ← fields.text? 0 "db_name"
  let user ← fields.text? 1 "db_user"
  let password ← fields.text? 2 "db_password"
  let host ← fields.text? 3 "db_host"
  let port ← fields.text? 4 "db_port"
  return ⟨name, user, password, host, port⟩

/-- The definition, with nil for what is not set. -/
def toValue (d : Database) : Value :=
  .list [.ofText? d.name, .ofText? d.user, .ofText? d.password, .ofText? d.host, .ofText? d.port]

/-- Each part from the first of the two that has it. -/
def merge (d other : Database) : Database :=
  ⟨d.name <|> other.name, d.user <|> other.user, d.password <|> other.password,
    d.host <|> other.host, d.port <|> other.port⟩

/-- A part that has to be set. -/
def require (field : String) : Option String → Except DefinitionError String
  | some s => .ok s
  | none => .error (.missingField databaseNoun field)

/-- Name, user and host, or the first of them that is not set. -/
def required (d : Database) : Except DefinitionError (String × String × String) := do
  let name ← require "db_name" d.name
  let user ← require "db_user" d.user
  let host ← require "db_host" d.host
  return (name, user, host)

/-- The connection as a URI. -/
def uri (d : Database) : Except DefinitionError String := do
  let (name, user, host) ← d.required
  let credentials := match d.password with
    | some password => user ++ ":" ++ password
    | none => user
  let port := match d.port with
    | some port => ":" ++ port
    | none => ""
  return "postgresql://" ++ credentials ++ "@" ++ host ++ port ++ "/" ++ name

open Shell in
/-- The beginning of a command line that runs a client program on the database. -/
def programCommand (d : Database) (program : String) : Except DefinitionError String := do
  let (name, user, host) ← d.required
  let port := match d.port with
    | some port => " -p " ++ quote port
    | none => ""
  return "PGPASSWORD=" ++ quote (d.password.getD "") ++ " " ++ program ++ " -h " ++ quote host ++
    port ++ " -U " ++ quote user ++ " " ++ quote name

/-- The command line of the interactive client. -/
def cliCommand (d : Database) : Except DefinitionError String := d.programCommand "psql"

/-- The command line that dumps the database. -/
def dumpCommand (d : Database) : Except DefinitionError String := d.programCommand "pg_dump"

end Database

end Runbook.Psql
