import Runbook.Psql.Database
import Runbook.Glob.Expand
import Runbook.Sql.Statement

/-!
# Batches of client programs

Queries, dumps and what restores them, as batches of `psql`, `pg_dump` and `pg_restore` command
lines. A listing may hold nothing in the place of a query or a path, which stands for the
interactive client.
-/

namespace Runbook.Psql

open Shell (quote)

/-- One client per query. -/
def queries (d : Database) (qs : List (Option String)) : Except DefinitionError Batch := do
  let cli ← d.cliCommand
  return qs.map fun q => (Command.new cli).arg? (q.map fun q => "-c " ++ quote q)

/-- Counts tables, drops all that the user owns, and counts again. -/
def dropOwned (d : Database) : Except DefinitionError Batch :=
  queries d (Sql.dropOwnedQueries.map some)

/-- A program on the file at a path; without a path the program alone. -/
def onFile (program : String) (path : Option String) (options : String) : Command :=
  match path with
  | some path => (((Command.new program).arg options).arg "-f").arg (quote path)
  | none => Command.new program

/-- One client per dump, each running the dump. -/
def applyDumps (d : Database) (paths : List (Option String)) (options : String) :
    Except DefinitionError Batch := do
  let cli ← d.cliCommand
  return paths.map fun path => onFile cli path options

/-- One dump of the database per path. -/
def generateDumps (d : Database) (paths : List (Option String)) (options : String) :
    Except DefinitionError Batch := do
  let cli ← d.cliCommand
  let dump ← d.dumpCommand
  return paths.map fun
    | some path => onFile dump (some path) options
    | none => Command.new cli

/-- Writes the contents of a dump into a file, with both files listed. -/
def restoreList (dump out : String) : Batch :=
  [(Command.new "ls").addArgs ["-lh", dump],
    (Command.new "pg_restore").addArgs ["-l", dump, "-f", out],
    (Command.new "ls").addArgs ["-lh", out]]

/-- A listing of sample dumps. -/
def sampleDumps : List String := ["install/10.0_to_10.1.sql", "/root/hack_10.0_to_10.1.sql"]

/-- The options with which samples are applied. -/
def sampleOptions : String := "-v ON_ERROR_STOP=off"

/-- The paths of a listing, patterns replaced by the files they name. -/
def expandPaths (files : FileTree) (paths : List (Option String)) :
    Except DefinitionError (List (Option String)) :=
  match Glob.expandAll files paths with
  | .ok expanded => .ok expanded
  | .error e => .error (.pattern e)

end Runbook.Psql
