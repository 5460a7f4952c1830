import Runbook.Shell.Script
import Runbook.Shell.Utilities.Basic

/-!
# The state of a shell

A shell has files, variables, functions and descriptors. A descriptor leads to a pipe, which keeps
what is written until it is read, to the end of a file, or nowhere. A computation of a shell may be
stopped on its way; what it has done by then stays done.
-/

namespace Runbook.Shell

/-- Where a descriptor leads. -/
inductive Channel where
  | nowhere
  | pipe (n : Nat)
  | file (loc : Location)
deriving DecidableEq, Repr

/-- The state of a shell. -/
structure Machine where
  files : FileTree
  /-- What the shell is called in its messages. -/
  name : String
  /-- The values of variables. -/
  values : Environment
  /-- The variables that programs are given. -/
  exported : List String
  functions : List (String × Script)
  parameters : List String
  /-- The status of the last command. -/
  status : Nat
  descriptors : List (Nat × Channel)
  pipes : List (Nat × List UInt8)
  /-- The line of the command that is being run. -/
  line : Nat
  /-- A failure that is not tested ends the shell. -/
  stopOnFailure : Bool
  /-- A failure of the command that is being run is tested. -/
  tested : Bool
  /-- A variable that is not set is an error. -/
  refuseUnset : Bool
  /-- Commands are written to the error stream before they run. -/
  trace : Bool
  /-- What runs when the shell ends. -/
  onExit : Option String
  /-- The number of loops that a computation is in. -/
  loops : Nat
  /-- The values that variables of a function had outside of it; nothing outside of functions. -/
  outerValues : Option (List (String × Option String))

/-- Why a computation stops. -/
inductive Stop where
  | exit (status : Nat)
  /-- The shell itself is killed. -/
  | killed
  | leaveLoop (levels : Nat)
  | nextRound (levels : Nat)
  | leaveFunction (status : Nat)
  /-- The computation took more steps than it was given. -/
  | exhausted
deriving DecidableEq, Repr

/-- A computation of a shell. -/
abbrev Action := ExceptT Stop (StateM Machine)

namespace Machine

/-- The number of the pipe that holds what is written to a new shell's two streams. -/
def outputPipe : Nat := 1

/-- The number of the process of a shell. -/
def processNumber : String := "4242"

/-- What is in a pipe. -/
def pipe (m : Machine) (n : Nat) : List UInt8 := ((m.pipes.find? (·.1 == n)).map (·.2)).getD []

/-- Replaces what is in a pipe. -/
def setPipe (m : Machine) (n : Nat) (bytes : List UInt8) : Machine :=
  { m with pipes := (n, bytes) :: m.pipes.filter (·.1 != n) }

/-- A number that no pipe has. -/
def freePipe (m : Machine) : Nat := (m.pipes.map (·.1)).foldl max outputPipe + 1

/-- Where a descriptor leads. -/
def channel (m : Machine) (descriptor : Nat) : Channel :=
  ((m.descriptors.find? (·.1 == descriptor)).map (·.2)).getD .nowhere

/-- Lets a descriptor lead somewhere else. -/
def connect (m : Machine) (descriptor : Nat) (channel : Channel) : Machine :=
  { m with descriptors := (descriptor, channel) :: m.descriptors.filter (·.1 != descriptor) }

/-- Writes bytes to a descriptor. -/
def write (m : Machine) (descriptor : Nat) (bytes : List UInt8) : Machine :=
  match m.channel descriptor with
  | .nowhere => m
  | .pipe n => m.setPipe n (m.pipe n ++ bytes)
  | .file loc =>
    match m.files.at? loc with
    | some (.file content) =>
      { m with files := m.files.set loc (.file (content ++ bytes.toByteArray)) }
    | _ => m

/-- What can be read from a descriptor. -/
def readable (m : Machine) (descriptor : Nat) : List UInt8 :=
  match m.channel descriptor with
  | .nowhere => []
  | .pipe n => m.pipe n
  | .file loc =>
    match m.files.at? loc with
    | some (.file content) => content.toList
    | _ => []

/-- Leaves bytes to be read from a descriptor. -/
def leave (m : Machine) (descriptor : Nat) (bytes : List UInt8) : Machine :=
  match m.channel descriptor with
  | .pipe n => m.setPipe n bytes
  | _ => m

/-- Sets a variable. -/
def assign (m : Machine) (name value : String) : Machine :=
  { m with values := m.values.set name value }

/-- The variables that programs are given. -/
def environment (m : Machine) : Environment := m.values.filter (m.exported.contains ·.1)

/-- A new shell in a directory of files, with an environment and two streams into one pipe. -/
def new (name : String) (files : FileTree) (env : Environment) : Machine where
  files := files
  name := name
  values := (env.set "PWD" ("/" ++ "/".intercalate files.here)).set "IFS" " \t\n"
  exported := "PWD" :: env.map (·.1)
  functions := []
  parameters := []
  status := 0
  descriptors := [(1, .pipe outputPipe), (2, .pipe outputPipe)]
  pipes := []
  line := 1
  stopOnFailure := false
  tested := false
  refuseUnset := false
  trace := false
  onExit := none
  loops := 0
  outerValues := none

end Machine

/-- Sets the status of the last command. -/
def setStatus (status : Nat) : Action Unit := modify fun m => { m with status := status }

/-- Writes a message of the shell. -/
def complain (message : String) : Action Unit := modify fun m =>
  m.write 2 (Text.encode (m.name ++ ": " ++ toString m.line ++ ": " ++ message ++ "\n"))

/-- Writes a message, and ends the shell. -/
def abort {α : Type} (message : String) : Action α := do
  complain message
  throw (.exit 2)

/-- Runs a computation in a shell of its own: files and pipes are shared, and the status is what
it ends with. -/
def nestedShell (body : Action Unit) : Action Unit := do
  let before ← get
  let status ← tryCatch (do
      body
      return (← get).status) fun
    | .exit status | .leaveFunction status => return status
    | .leaveLoop _ | .nextRound _ => return 0
    | stop => throw stop
  modify fun m => { before with
    files := { m.files with here := before.files.here }, pipes := m.pipes, status := status }

/-- Runs a computation whose descriptors are its own. -/
def keepingDescriptors (body : Action Unit) : Action Unit := do
  let before ← get
  let restore : Action Unit := modify fun m => { m with descriptors := before.descriptors }
  tryCatch body fun stop => do
    restore
    throw stop
  restore

end Runbook.Shell
