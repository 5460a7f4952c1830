import Runbook.Glob.Pattern
import Runbook.Text.Quoted

/-!
# Why a definition yields no batch
-/

namespace Runbook

/-- Why a definition yields no batch. -/
inductive DefinitionError where
  /-- A required field of the thing is not given. -/
  | missingField (what field : String)
  /-- A field of the thing holds a value that cannot be used. -/
  | invalidField (what field found : String)
  /-- The definition resolves to nothing. -/
  | emptyGenerator
  /-- The definition does not start with the name of a generator. -/
  | unknownGenerator (name : String)
  /-- A dump path is no pattern. -/
  | pattern (error : Glob.PatternError)
deriving DecidableEq, Repr

open Text in
/-- The wording of an error. -/
def DefinitionError.message : DefinitionError → String
  | .missingField what field => what ++ " is missing required field " ++ quoted field
  | .invalidField what field found =>
    what ++ " field " ++ quoted field ++ " cannot use " ++ quoted found
  | .emptyGenerator => "batch generator definition is empty"
  | .unknownGenerator name => "no batch generator named " ++ quoted name
  | .pattern e => e.message

end Runbook
