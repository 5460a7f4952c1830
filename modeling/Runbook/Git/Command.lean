import Runbook.Definition.Fields
import Runbook.Shell.Quoting

/-!
# Git commands over objects and branches

Every command is run on every object, and an operation on a branch is put between two checkouts.
Names of objects, branches and remotes come from outside and are escaped.
-/

namespace Runbook.Git

open Shell (escape)

/-- A subcommand with its options. -/
structure Subcommand where
  name : String
  options : String
deriving DecidableEq, Repr

/-- What a message calls a subcommand with its options. -/
def subcommandNoun : String := "git_command"

namespace Subcommand

/-- Reads the definition: a name and options. -/
def ofValue (scope : Scope) (v : Value) : Except DefinitionError Subcommand := do
  let fields := Fields.ofValue scope subcommandNoun v
  let name ← fields.text 0 "subcommand"
  let options ← fields.text? 1 "options"
  return ⟨name, options.getD ""⟩

/-- Reads one definition or a listing of them, told apart by the first value. -/
def listing (scope : Scope) (v : Value) : Except DefinitionError (List Subcommand) :=
  match scope.resolve v with
  | [] => .error (.missingField subcommandNoun "subcommand")
  | .list vs :: rest => (.list vs :: rest).mapM (ofValue scope)
  | vs => do return [← ofValue scope (.list vs)]

/-- The command that runs on an object. -/
def onObject (s : Subcommand) (id : String) : Command :=
  (((Command.new "git").arg s.name).arg s.options).arg (escape id)

end Subcommand

/-- Every subcommand on every object. -/
def onObjects (subcommands : List Subcommand) (ids : List String) : Batch :=
  subcommands.flatMap fun s => ids.map s.onObject

/-- Runs an operation against a remote while a branch is checked out, then goes back. -/
def onBranch (operation branch remote current : String) : Batch :=
  [((Command.new "git").arg "checkout").arg (escape branch),
    (((Command.new "git").arg operation).arg (escape remote)).arg (escape branch),
    ((Command.new "git").arg "checkout").arg (escape current)]

end Runbook.Git
