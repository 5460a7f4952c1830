import Runbook.Git.Command
import Runbook.Psql.Replacement
import Runbook.S3.Path

/-!
# Built-in generators and samples

The registry that every program starts with: ten generators, and presets that show how their
arguments look.
-/

namespace Runbook

open Psql (Database Replacement)

/-- The argument at a place, nil if there is none. -/
def argument (args : List Value) (i : Nat) : Value := args[i]?.getD .nil

namespace Generator

/-- Queries on a database; without a listing the interactive client. -/
def cliOrQueries : Generator := fun scope args => do
  let fields : Fields := ⟨scope, "psql-cli-or-queries", args⟩
  let database ← Database.ofValue scope (fields.value 0)
  let queries ← if args.length ≤ 1 then pure [none] else fields.texts 1 "db_queries"
  Psql.queries database queries

/-- Queries on a database; without a listing none. -/
def queriesMethod : Generator := fun scope args => do
  let fields : Fields := ⟨scope, "psql-queries-method", args⟩
  let database ← Database.ofValue scope (fields.value 0)
  Psql.queries database (← fields.texts 1 "db_queries")

/-- Drops all that the user of a database owns. -/
def dropOwned : Generator := fun scope args => do
  Psql.dropOwned (← Database.ofValue scope (argument args 0))

/-- Database, dump paths and options, which both generators of dumps take. -/
def dumpArguments (what : String) (scope : Scope) (args : List Value) :
    Except DefinitionError (Database × List (Option String) × String) := do
  let fields : Fields := ⟨scope, what, args⟩
  let database ← Database.ofValue scope (fields.value 0)
  let paths ← if args.length ≤ 1 then pure [none]
    else do Psql.expandPaths scope.files (← fields.texts 1 "db_dump_paths")
  let options ← fields.text? 2 "options"
  return (database, paths, options.getD "")

/-- Applies dumps to a database. -/
def applyDumps : Generator := fun scope args => do
  let (database, paths, options) ← dumpArguments "psql-apply-dumps" scope args
  Psql.applyDumps database paths options

/-- Dumps a database. -/
def generateDumps : Generator := fun scope args => do
  let (database, paths, options) ← dumpArguments "psql-generate-dumps" scope args
  Psql.generateDumps database paths options

/-- Replaces a database by dumps. -/
def dumpReplace : Generator := fun scope args => do
  let plan ← Replacement.ofValue scope (argument args 0)
  plan.batch

/-- Lists the contents of a dump. -/
def restoreList : Generator := fun scope args => do
  let fields : Fields := ⟨scope, "pg-restore-list", args⟩
  let dump ← fields.text 0 "local_path"
  let out ← fields.text 1 "output_file_path"
  return Psql.restoreList dump out

/-- Fetches from S3. -/
def fetch : Generator := fun scope args => do
  let fields : Fields := ⟨scope, "s3-fetch", args⟩
  let path ← S3.Path.ofValue scope (fields.value 0)
  return path.fetch (← fields.text 1 "local_path")

/-- Fetches from S3 and lists the local path. -/
def fetchListed : Generator := fun scope args => do
  let fields : Fields := ⟨scope, "s3-fetch-to-local", args⟩
  let path ← S3.Path.ofValue scope (fields.value 0)
  return path.fetchListed (← fields.text 1 "local_path") (fields.flag 2)

/-- Runs subcommands on objects; an object that is not given is passed over. -/
def onObjects : Generator := fun scope args => do
  let fields : Fields := ⟨scope, "git-on-objects", args⟩
  let subcommands ← Git.Subcommand.listing scope (fields.value 0)
  let ids ← fields.texts 1 "object_ids"
  return Git.onObjects subcommands (ids.filterMap id)

/-- One `echo` for each value that the arguments resolve to. -/
def echo : Generator := fun scope args =>
  .ok ((args.flatMap scope.resolve).map fun v => (Command.new "echo").arg v.display)

end Generator

namespace Registry

/-- The built-in generators by name. -/
def builtinGenerators : List (String × Generator) :=
  [("psql-cli-or-queries", Generator.cliOrQueries),
    ("psql-queries-method", Generator.queriesMethod),
    ("psql-drop-owned", Generator.dropOwned),
    ("psql-apply-dumps", Generator.applyDumps),
    ("psql-generate-dumps", Generator.generateDumps),
    ("psql-dump-replace", Generator.dumpReplace),
    ("pg-restore-list", Generator.restoreList),
    ("s3-fetch", Generator.fetch),
    ("s3-fetch-to-local", Generator.fetchListed),
    ("git-on-objects", Generator.onObjects)]

/-- The samples by name. -/
def samplePresets : List (String × Value) :=
  [("psql-db-sample", Database.sample.toValue),
    ("db-dumps-sample", .strings Psql.sampleDumps),
    ("s3-path-sample-file", S3.Path.sampleFile.toValue),
    ("s3-path-sample-dir", S3.Path.sampleDirectory.toValue),
    ("db-query-show-tables", .str Sql.showTables),
    ("db-query-show-tables-count", .str Sql.showTablesCount),
    ("db-query-drop-owned", .str Sql.dropOwned),
    ("db-queries-drop-owned", .strings Sql.dropOwnedQueries),
    ("dump-replace-sample", .list [.ref "psql-db-sample",
      .strings ["/tmp/psql_db_original_dump"], .strings ["/tmp/database_dump"],
      .str Psql.sampleOptions]),
    ("batch-apply-dumps-sample", .list [.str "psql-apply-dumps", .ref "psql-db-sample",
      .ref "db-dumps-sample", .str Psql.sampleOptions]),
    ("batch-dump-replace-sample", .list [.str "psql-dump-replace", .ref "dump-replace-sample"]),
    ("batch-drop-owned-sample", .list [.str "psql-queries-method", .ref "psql-db-sample",
      .ref "db-queries-drop-owned"])]

/-- The registry with the built-in generators and the samples. -/
def builtin : Registry :=
  ⟨.ofList (samplePresets.map fun e => (e.1, .fixed e.2)), .ofList builtinGenerators⟩

end Registry

end Runbook
