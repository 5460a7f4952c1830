import Runbook.Definition.Argument
import Runbook.Definition.Builtin
import Runbook.Git.Calls
import Runbook.Invocation.Basic
import Runbook.Presets.Reading
import Runbook.Run.CommandLine
import Runbook.Sql.Statement

/-!
# Answering requests

A request is answered with a text and with what becomes of the files. Presets are read before
anything else, whatever the task; nobody is there to be asked, so a batch that is not confirmed by
the request is not executed.
-/

namespace Runbook.Invocation

/-- Where a request is made. -/
structure Setting where
  environment : Environment
  files : FileTree
  /-- The time that is put on what is executed. -/
  time : String

/-- Why a request is not carried out. -/
inductive Failure where
  | refused (r : Refusal)
  | presets (e : PresetsError)
  | definition (e : DefinitionError)
  | repository (p : Git.Problem)
  /-- Nobody confirmed that the batch is to be executed. -/
  | unconfirmed
  /-- The log could not be written. -/
  | unsaved
  /-- The batch halted on a command. -/
  | halted (command : Option Command) (left : Nat)

/-- What is left of a request that was carried out, or of one that failed. -/
structure Answer where
  text : String
  files : FileTree
  failure : Option Failure

/-- The text that names the version. -/
def versionText : String := "rooomy 0.1.0\n"

/-- The text that helps. -/
def helpText : String :=
  "Usage: rooomy [-p <path>] <command>\n\nCommands: " ++ ", ".intercalate taskWords ++ "\n"

namespace Failure

/-- The code that the program exits with. -/
def exitCode : Failure → Nat
  | .refused .help | .refused .version => 0
  | .refused .usage => 2
  | _ => 1

/-- The text that is printed, though the request was not carried out. -/
def text : Failure → String
  | .refused .help => helpText
  | .refused .version => versionText
  | _ => ""

/-- What is said about the failure. -/
def message : Failure → String
  | .refused .help | .refused .version => ""
  | .refused .usage => "the arguments cannot be understood, try --help"
  | .presets e => e.message
  | .definition e => e.message
  | .repository p => p.message?.getD "the repository cannot be read"
  | .unconfirmed => "the batch was not confirmed"
  | .unsaved => "the log cannot be written"
  | .halted command left =>
    "batch halted on " ++ Text.quoted ((command.map Command.render).getD "") ++ " with " ++
      toString left ++ " command(s) left"

end Failure

/-- The code that the program exits with. -/
def Answer.exitCode (a : Answer) : Nat := (a.failure.map Failure.exitCode).getD 0

/-- Lines, each with its end. -/
def lines (texts : List String) : String := String.join (texts.map (· ++ "\n"))

namespace Setting

/-- An answer that leaves the files alone. -/
def answer (s : Setting) (text : Except Failure String) : Answer :=
  match text with
  | .ok text => ⟨text, s.files, none⟩
  | .error e => ⟨e.text, s.files, some e⟩

/-- The presets of a request. -/
def presets (s : Setting) (path : Option String) : Except Failure Presets :=
  (Presets.load s.environment s.files (path.getD (Presets.defaultPath s.environment))).mapError
    .presets

/-- The batch that a definition describes. -/
def batch (s : Setting) (registry : Registry) (definition : List String) : Except Failure Batch :=
  (registry.batch s.files (Value.ofArguments definition)).mapError .definition

/-- Executes a batch by the shell; the log is written also of a batch that halts. -/
def execute (s : Setting) (batch : Batch) (admitted : Option Nat) (results : Option String) :
    Answer :=
  let shell : Run.ShellSetting := ⟨none, none, s.environment⟩
  let ((_, runner, log), files) :=
    (Run.Runner.new admitted).run (shell.executor s.time) batch [] s.files
  let (saved, files) := match results with
    | some path => log.save files path
    | none => (true, files)
  let failure := if !saved then some .unsaved
    else match runner.state with
      | .halted => some (.halted runner.haltedOn runner.working.length)
      | .running => none
  ⟨"", files, failure⟩

/-- The contexts of templates; the sample stands in if no templates are called so. -/
def contextsOf (p : Presets) (name : String) : Except Failure (List Contexts.Context) :=
  if name = "sample" ∧ (p.contexts.find? name).isNone then .ok (Contexts.expand Contexts.sample)
  else (p.expandContexts name).mapError .presets

/-- The conditions that an argument writes. -/
def conditionsOf (arg : String) : Except Failure (List Sql.Condition) :=
  (Sql.Condition.listing (Value.ofArgument arg)).mapError .definition

/-- Carries out a task with presets. -/
def carryOut (s : Setting) (p : Presets) (task : Task) : Answer :=
  let registry := p.register Registry.builtin
  match task with
  | .names true => s.answer (.ok (lines registry.generators.names))
  | .names false => s.answer (.ok (lines registry.presets.names))
  | .resolve definition =>
    let values := registry.resolve (Value.ofArguments definition)
    s.answer (.ok (lines [(Value.list values).toJson.pretty]))
  | .batch definition => s.answer do return lines (← s.batch registry definition).render
  | .execute definition admitted confirmed results =>
    match s.batch registry definition with
    | .error e => s.answer (.error e)
    | .ok [] => s.answer (.ok "")
    | .ok batch =>
      if confirmed then s.execute batch admitted results else s.answer (.error .unconfirmed)
  | .contexts name =>
    s.answer do return lines [(Contexts.toJson (← contextsOf p name)).pretty]
  | .onObjects subcommand options ids =>
    s.answer (.ok (lines (Git.onObjects [⟨subcommand, options⟩] ids).render))
  | .onBranch operation branch remote repository =>
    s.answer do
      let current := do (← Git.Repository.discover s.files repository).currentBranch s.files
      return lines (Git.onBranch operation branch remote (← current.mapError .repository)).render
  | .whereClause conditions =>
    s.answer do return lines [Sql.whereClause (← conditionsOf conditions)]
  | .select table columns conditions =>
    s.answer do
      let conditions ← match conditions with
        | some arg => conditionsOf arg
        | none => .ok []
      return lines [Sql.select table columns conditions]

/-- Answers the arguments of the program. -/
def run (s : Setting) (args : List String) : Answer :=
  match parse args with
  | .error r => s.answer (.error (.refused r))
  | .ok request =>
    match s.presets request.presets with
    | .error e => s.answer (.error e)
    | .ok p => s.carryOut p request.task

end Setting

end Runbook.Invocation
