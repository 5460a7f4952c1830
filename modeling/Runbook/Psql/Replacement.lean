import Runbook.Psql.Batches

/-!
# Replacing a database by dumps

The target is backed up, emptied and filled from dump files. With a source the dump files are
first written out of that database, whose parts are those of the target where they are not set.
-/

namespace Runbook.Psql

/-- The plan of a replacement. -/
structure Replacement where
  target : Database
  backupPaths : List (Option String)
  applyPaths : List (Option String)
  applyOptions : String
  source : Option Database
deriving DecidableEq, Repr

namespace Replacement

/-- The source of a definition; a listing in which nothing is given is none. -/
def sourceOf (scope : Scope) (target : Database) (values : List Value) :
    Except DefinitionError (Option Database) :=
  if values.any Value.isTruthy then do
    let source ← Database.ofValue scope (.list values)
    return some (source.merge target)
  else .ok none

/-- Reads the definition: target, backup paths, paths to apply, options and source. -/
def ofValue (scope : Scope) (v : Value) : Except DefinitionError Replacement := do
  let fields := Fields.ofValue scope "psql_db_dump_replacer" v
  let target ← Database.ofValue scope (fields.value 0)
  let backupPaths ← expandPaths scope.files (← fields.texts 1 "backup_paths")
  let applyPaths ← expandPaths scope.files (← fields.texts 2 "apply_paths")
  let applyOptions ← fields.text? 3 "apply_options"
  let source ← sourceOf scope target (fields.nested 4)
  return ⟨target, backupPaths, applyPaths, applyOptions.getD "", source⟩

/-- The source has the connection of the target, and so is taken for the replaced database itself.
There is no answer unless both have a connection. -/
def dumpsItself (source target : Database) : Except DefinitionError Bool := do
  let read ← source.uri
  let replaced ← target.uri
  return read == replaced

/-- The dumps out of the source, if there is one. Only a warning hangs on whether the source is the
target. -/
def sourceBatch (p : Replacement) : Except DefinitionError Batch :=
  match p.source with
  | some source => do
    let _ ← dumpsItself source p.target
    generateDumps source p.applyPaths ""
  | none => .ok []

/-- All commands of the replacement, in order. -/
def batch (p : Replacement) : Except DefinitionError Batch := do
  let filled ← p.sourceBatch
  let backups ← generateDumps p.target p.backupPaths ""
  let dropped ← dropOwned p.target
  let applied ← applyDumps p.target p.applyPaths p.applyOptions
  return filled ++ backups ++ dropped ++ applied

end Replacement

end Runbook.Psql
