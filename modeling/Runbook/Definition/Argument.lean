import Runbook.Definition.Value
import Runbook.Json.Parser

/-!
# Values on a command line

An argument is read as a value: a name behind a colon, a named scalar, a list in JSON, and text
otherwise.
-/

namespace Runbook.Value

/-- Reads one argument. -/
def ofArgument (arg : String) : Value :=
  if arg = "nil" then .nil
  else if arg = "true" then .bool true
  else if arg = "false" then .bool false
  else match arg.toList with
    | ':' :: c :: cs => .ref (String.ofList (c :: cs))
    | '[' :: _ => ((Json.parse? arg).bind ofJson?).getD (.str arg)
    | _ => .str arg

/-- Reads a whole definition: a single argument stands for itself, several form a list. -/
def ofArguments (args : List String) : Value :=
  match args.map ofArgument with
  | [v] => v
  | vs => .list vs

end Runbook.Value
