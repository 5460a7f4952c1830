import Runbook.Run.Runner
import Runbook.Shell.Run

/-!
# Executing command lines

A command is executed by handing its line to a shell, which runs it in a directory and with an
environment. Errors are written to where the output goes, so what was written stays in the order in
which it was printed, and one line end at its end is taken off.
-/

namespace Runbook.Run

/-- The shell that command lines are handed to, and where it runs. -/
structure ShellSetting where
  /-- The program, `sh` if there is none. -/
  program : Option String
  /-- The directory, the working directory if there is none. -/
  directory : Option String
  environment : Environment

/-- Why a shell cannot be started. -/
inductive StartError where
  | notFound
  | denied
  | notDirectory
deriving DecidableEq, Repr

/-- The wording of an error. -/
def StartError.message : StartError → String
  | .notFound => "No such file or directory (os error 2)"
  | .denied => "Permission denied (os error 13)"
  | .notDirectory => "Not a directory (os error 20)"

/-- A text without one line end at its end. -/
def chomp (text : String) : String :=
  match text.toList.reverse with
  | '\n' :: '\r' :: rest => String.ofList rest.reverse
  | '\n' :: rest => String.ofList rest.reverse
  | _ => text

/-- The text that a shell is given for a command line: both streams become one. -/
def merged (line : String) : String := "exec 2>&1; " ++ line

/-- The directory that a shell runs in. -/
def ShellSetting.place (s : ShellSetting) (files : FileTree) : Except StartError Location :=
  match s.directory with
  | none => .ok files.here
  | some path =>
    match files.lookup path with
    | .ok (loc, .directory) => .ok loc
    | .ok (_, .file _) | .error .notDirectory => .error .notDirectory
    | .error .notFound => .error .notFound

/-- Hands a text to the program of a setting, as a shell is handed one. -/
def ShellSetting.start (s : ShellSetting) (script : String) (files : FileTree) :
    Except StartError Shell.Outcome := do
  let here ← s.place files
  let there : FileTree := { files with here := here }
  let name := s.program.getD "sh"
  let program := Shell.programName name
  if Shell.shellNames.contains program then .ok (Shell.runLine name script there s.environment)
  else match Shell.program? "" program with
    | some utility =>
      let r := utility ⟨["-c", script], [], there, s.environment⟩
      let written (stream : Shell.Stream) : List UInt8 :=
        (r.written.filter (·.1 == stream)).flatMap (·.2)
      .ok ⟨r.status == 0, written .output ++ written .error, r.files⟩
    | none =>
      if name.toList.contains '/' then
        match there.lookup name with
        | .ok _ => .error .denied
        | .error .notDirectory => .error .notDirectory
        | .error .notFound => .error .notFound
      else .error .notFound

/-- Executes commands by a shell; the files are what one command leaves to the next. -/
def ShellSetting.executor (s : ShellSetting) (time : String) : Executor FileTree :=
  fun c files =>
    match s.start (merged c.render) files with
    | .ok o =>
      (⟨o.success, chomp (Text.decode o.output), time⟩, { o.files with here := files.here })
    | .error e => (⟨false, e.message, time⟩, files)

end Runbook.Run
