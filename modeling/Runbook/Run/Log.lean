import Runbook.Command
import Runbook.FileTree
import Runbook.Json.Printer

/-!
# Result logs

Each command that was run leaves a record, and a log is the list of records in the order in which
they came. A log is exported as JSON into a file, whose directory is made if it is missing.
-/

namespace Runbook.Run

/-- What came of running a command. -/
structure Execution where
  success : Bool
  output : String
  /-- When the command had finished. -/
  time : String
deriving DecidableEq, Repr

/-- A command and what came of it. -/
structure Record where
  time : String
  call : String
  args : List String
  command : String
  success : Bool
  output : String
deriving DecidableEq, Repr

/-- The record of a command. -/
def Record.of (c : Command) (e : Execution) : Record :=
  ⟨e.time, c.call, c.args, c.render, e.success, e.output⟩

/-- The JSON form of a record. -/
def Record.toJson (r : Record) : Json :=
  .obj [("time", .str r.time), ("call", .str r.call), ("args", .arr (r.args.map .str)),
    ("command", .str r.command), ("success", .bool r.success), ("output", .str r.output)]

/-- Records in order. -/
abbrev Log := List Record

namespace Log

/-- The records from a position on. -/
def since (log : Log) (position : Nat) : List Record := log.drop position

/-- The output of the last record. -/
def lastOutput? (log : Log) : Option String := log.getLast?.map Record.output

/-- The number of failed commands. -/
def failures (log : Log) : Nat := log.countP fun r => !r.success

/-- The text of the exported log. -/
def text (log : Log) : String := (Json.arr (log.map Record.toJson)).pretty ++ "\n"

/-- The directory of a path: what stands before its last name. -/
def parentOf (path : String) : String :=
  let parts := (Text.splitAt '/' path).reverse.dropWhile fun p => p = "" ∨ p = "."
  let rest := (parts.drop 1).reverse
  if path.startsWith "/" ∧ rest.all (· = "") then "/" else "/".intercalate rest

/-- Writes the log into a file, whose directory is made first; the answer is whether that was
possible. -/
def save (log : Log) (files : FileTree) (path : String) : Bool × FileTree :=
  match files.makePath? (parentOf path) with
  | none => (false, files)
  | some files =>
    match files.write? path log.text.toUTF8 with
    | none => (false, files)
    | some files => (true, files)

end Log

end Runbook.Run
