import Runbook.Git.Revision
import Runbook.Git.WorkTree
import Runbook.Run.Executors
import Runbook.Text.Quoted

/-!
# Calls on a repository

A connection to a repository: the current branch, checkouts, branches, ids and commits, without a
shell.
-/

namespace Runbook.Git

/-- The wording of a problem; what a repository does not hold or refuses has none of its own. -/
def Problem.message? : Problem → Option String
  | .missing | .broken => none
  | .notOnBranch => some "HEAD does not point to a branch"
  | .missingArgument call position =>
    some (call ++ " needs argument " ++ toString position)
  | .unknownCall call => some ("unknown git call " ++ Text.quoted call)

/-- A text that is shown if it is one. -/
def shown (bytes : Bytes) : String := (String.fromUTF8? ⟨bytes.toArray⟩).getD ""

/-- A commit as it is shown: its id, its author and its summary. -/
def Commit.render (c : Commit) (id : ObjectId) : String :=
  "commit " ++ id.digits ++ "\nAuthor: " ++ shown c.author.name ++ " <" ++ shown c.author.mail ++
    ">\n\n    " ++ shown c.summary

namespace Repository

/-- The branches, a line for each, the current one marked. -/
def branchLines (r : Repository) (files : FileTree) : Except Problem String := do
  let current := (r.currentBranch files).toOption
  let names ← r.branches files
  return "\n".intercalate (names.map fun name =>
    (if current = some name then "* " else "  ") ++ name)

/-- Makes a branch where a revision leads to. -/
def branchAt (r : Repository) (files : FileTree) (name revision : String) :
    Except Problem FileTree := do
  let (id, _) ← r.commitOf files (← r.revision files revision)
  r.createBranch files name id

/-- Answers a call, and says what becomes of the files. -/
def call (r : Repository) (files : FileTree) (name : String) (args : List String) :
    Except Problem (String × FileTree) :=
  match name, args with
  | "current-branch", _ => do return (← r.currentBranch files, files)
  | "checkout", branch :: _ => do
    return ("Switched to branch '" ++ branch ++ "'", ← r.checkout files branch)
  | "branch", [] => do return (← r.branchLines files, files)
  | "branch", name :: more => do
    return ("", ← r.branchAt files name (more.headD "HEAD"))
  | "rev-parse", revision :: _ => do
    let (id, _) ← r.revision files revision
    return (id.digits, files)
  | "show", args => do
    let (id, c) ← r.commitOf files (← r.revision files (args.headD "HEAD"))
    return (c.render id, files)
  | "checkout", [] => .error (.missingArgument name 1)
  | "rev-parse", [] => .error (.missingArgument name 1)
  | name, _ => .error (.unknownCall name)

/-- A repository as something to call; `unworded` is said of problems without a wording. -/
def connection (r : Repository) (unworded : String) : Run.Connection FileTree :=
  fun name args files =>
    match r.call files name args with
    | .ok (answer, files) => (.ok answer, files)
    | .error e => (.error (e.message?.getD unworded), files)

end Repository

end Runbook.Git
