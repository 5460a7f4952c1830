import Runbook.Shell.Utilities.Characters
import Runbook.Shell.Utilities.Files
import Runbook.Shell.Utilities.Lines
import Runbook.Shell.Utilities.Numbers
import Runbook.Shell.Utilities.Printing
import Runbook.Shell.Utilities.Testing

/-!
# Utilities by name

The programs that a script may call, and the directories that they are said to be in.
-/

namespace Runbook.Shell

/-- Succeeds or fails, and does nothing. -/
def endsWith (status : Nat) : Utility := fun c => c.done status

/-- Waits for no time at all. -/
def sleep : Utility := fun c =>
  let isTime (w : String) : Bool :=
    let digits := (w.toList.filter (· ≠ '.'))
    let digits := match digits.reverse with
      | u :: rest => if ['s', 'm', 'h', 'd'].contains u then rest else digits
      | [] => []
    !digits.isEmpty && digits.all Char.isDigit
  match c.args with
  | [] => missingOperand c "sleep" "operand"
  | args =>
    match args.find? (!isTime ·) with
    | some w => c.refuse 1 ("sleep: invalid time interval '" ++ w ++
        "'\nTry 'sleep --help' for more information.")
    | none => c.done 0

/-- Writes the values of variables, or all of them with their names. -/
def printenv : Utility := fun c =>
  match c.args with
  | [] => c.text (String.join (c.environment.map fun (n, v) => n ++ "=" ++ v ++ "\n"))
  | names =>
    let found := names.filterMap fun n => c.environment.get? n
    { c.text (String.join (found.map (· ++ "\n"))) with
      status := if found.length = names.length then 0 else 1 }

/-- Answers for the program of a version control system outside of any repository. -/
def git : Utility := fun c =>
  match c.args with
  | "version" :: _ | "--version" :: _ | "-v" :: _ => c.text "git version 2.39.5\n"
  | [] => c.refuse 1 "usage: git [-v | --version] [-h | --help] <command> [<args>]"
  | name :: _ =>
    if ["add", "bisect", "branch", "checkout", "cherry-pick", "commit", "describe", "diff", "fetch",
        "log", "merge", "mv", "pull", "push", "rebase", "remote", "reset", "restore", "rev-list",
        "rev-parse", "revert", "rm", "show", "stash", "status", "switch", "tag"].contains name then
      c.refuse 128 "fatal: not a git repository (or any of the parent directories): .git"
    else c.refuse 1 ("git: '" ++ name ++ "' is not a git command. See 'git --help'.")

/-- A program by its name; `title` starts the messages of those that the shell has built in. -/
def program? (title name : String) : Option Utility :=
  match name with
  | "basename" => some basename
  | "cat" => some cat
  | "cp" => some cp
  | "cut" => some cut
  | "dirname" => some dirname
  | "echo" => some echo
  | "expr" => some expr
  | "false" => some (endsWith 1)
  | "git" => some git
  | "grep" => some grep
  | "head" => some head
  | "ls" => some ls
  | "mkdir" => some mkdir
  | "mv" => some mv
  | "printenv" => some printenv
  | "printf" => some (printFormat (title ++ "printf: "))
  | "pwd" => some fun c => c.text ("/" ++ "/".intercalate c.files.here ++ "\n")
  | "rm" => some rm
  | "rmdir" => some rmdir
  | "seq" => some seq
  | "sleep" => some sleep
  | "sort" => some sort
  | "tail" => some tail
  | "tee" => some tee
  | "test" => some (test (title ++ "test: "))
  | "[" => some (testBrackets (title ++ "[: "))
  | "touch" => some touch
  | "tr" => some tr
  | "true" => some (endsWith 0)
  | "uniq" => some uniq
  | "wc" => some wc
  | _ => none

/-- The programs that are shells. -/
def shellNames : List String := ["sh", "dash", "bash"]

/-- The program that a path names. -/
def programName (path : String) : String :=
  match ["/bin/", "/usr/bin/"].find? fun dir => path.startsWith dir with
  | some dir => (path.drop dir.length).toString
  | none => path

end Runbook.Shell
