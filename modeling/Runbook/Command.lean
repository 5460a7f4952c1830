import Runbook.Json.Skipping

/-!
# Commands and batches

A command is a call with its arguments, a batch is a list of commands. Rendering joins the call
and the arguments by single blanks and quotes nothing: whoever builds a command quotes the parts
that are not fixed.
-/

namespace Runbook

/-- A call with its arguments. -/
structure Command where
  call : String
  args : List String
deriving DecidableEq, Repr, Inhabited

namespace Command

/-- A call without arguments. -/
def new (call : String) : Command := ⟨call, []⟩

/-- Appends an argument; an empty one leaves the command as it is. -/
def arg (c : Command) (a : String) : Command :=
  if a = "" then c else { c with args := c.args ++ [a] }

/-- Appends arguments in order. -/
def addArgs (c : Command) (as : List String) : Command := as.foldl arg c

/-- Appends an argument if there is one. -/
def arg? (c : Command) : Option String → Command
  | some a => c.arg a
  | none => c

/-- The command line: call and arguments joined by single blanks. -/
def render (c : Command) : String := " ".intercalate (c.call :: c.args)

/-- The JSON form, an object of call and arguments. -/
def toJson (c : Command) : Json :=
  .obj [("call", .str c.call), ("args", .arr (c.args.map .str))]

/-- The members of the JSON form. -/
def fields : List String := ["call", "args"]

/-- The only value under a name; nothing if it is missing or written twice. -/
def onlyMember? (name : String) (members : List (String × Json)) : Option Json :=
  match members.filter (·.1 == name) with
  | [m] => some m.2
  | _ => none

/-- Reads the JSON form: an object in which call and arguments stand once, other members being
passed over, or the list of the two. -/
def ofJson? : Json → Option Command
  | .obj members => do
    let call ← (← onlyMember? "call" members).text?
    let .arr items ← onlyMember? "args" members | none
    return ⟨call, ← items.mapM Json.text?⟩
  | .arr [.str call, .arr items] => do return ⟨call, ← items.mapM Json.text?⟩
  | _ => none

/-- The command that a text writes. What other members of the object hold is passed over. -/
def read? (text : String) : Option Command := (Json.record? fields text).bind ofJson?

end Command

/-- Commands in the order in which they run. -/
abbrev Batch := List Command

namespace Batch

/-- The command lines of a batch. -/
def render (b : Batch) : List String := b.map Command.render

/-- The JSON form, a list of commands. -/
def toJson (b : Batch) : Json := .arr (b.map Command.toJson)

/-- Reads the JSON form. -/
def ofJson? : Json → Option Batch
  | .arr items => items.mapM Command.ofJson?
  | _ => none

/-- The batch that a text writes. -/
def read? (text : String) : Option Batch := (Json.recordList? Command.fields text).bind ofJson?

end Batch

end Runbook
