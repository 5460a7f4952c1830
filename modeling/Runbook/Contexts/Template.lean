import Runbook.Contexts.Placeholder
import Runbook.Text.Quoted

/-!
# Templates of contexts

A template lists candidates for each key and stands for all combinations of them, the last key
changing fastest. A candidate is a value, or is derived from the plain values of its combination,
never from another derived one.
-/

namespace Runbook.Contexts

/-- A candidate for a key. -/
inductive Candidate where
  /-- A value. -/
  | plain (value : Json)
  /-- A value computed out of the plain values of the combination. -/
  | derived (produce : Context → Json)

namespace Candidate

/-- The text of a template, filled out of the plain values. -/
def format (template : String) : Candidate := .derived fun context => .str (fill template context)

/-- Reads a candidate: an object that holds nothing but a text under "format" is derived. -/
def ofJson : Json → Candidate
  | .obj [("format", .str template)] => format template
  | j => .plain j

end Candidate

/-- Keys with their candidates, each key once. -/
abbrev Template := List (String × List Candidate)

namespace Template

/-- Sets the candidates of a key: in its old place, or at the end if the key is new. -/
def set (key : String) (candidates : List Candidate) : Template → Template
  | [] => [(key, candidates)]
  | (k, cs) :: rest =>
    if k = key then (k, candidates) :: rest else (k, cs) :: set key candidates rest

/-- The keys in order of their first use. -/
def keys (t : Template) : List String := t.map (·.1)

/-- All ways to choose one candidate for each key, the last key changing fastest. -/
def combinations : Template → List (List (String × Candidate))
  | [] => [[]]
  | (key, candidates) :: rest =>
    candidates.flatMap fun c => (combinations rest).map ((key, c) :: ·)

/-- The plain values of a combination. -/
def plainPart (combination : List (String × Candidate)) : Context :=
  combination.filterMap fun
    | (key, .plain v) => some (key, v)
    | (_, .derived _) => none

/-- The context of a combination. -/
def substitute (combination : List (String × Candidate)) : Context :=
  let plain := plainPart combination
  combination.map fun
    | (key, .plain v) => (key, v)
    | (key, .derived produce) => (key, produce plain)

/-- All contexts of a template. -/
def expand (t : Template) : List Context := t.combinations.map substitute

end Template

/-- Why a mapping is no template. -/
inductive TemplateError where
  /-- A key does not lead to a list. -/
  | notAList (key : String)
deriving DecidableEq, Repr

/-- The wording of an error. -/
def TemplateError.message : TemplateError → String
  | .notAList key =>
    "context template key " ++ Text.quoted key ++ " must map to a list of candidates"

/-- Reads a template out of the members of an object, on top of one that was read before. -/
def Template.extend (t : Template) : List (String × Json) → Except TemplateError Template
  | [] => .ok t
  | (key, .arr candidates) :: rest => extend (t.set key (candidates.map Candidate.ofJson)) rest
  | (key, _) :: _ => .error (.notAList key)

/-- Reads a template out of the members of an object. -/
def Template.ofMembers (members : List (String × Json)) : Except TemplateError Template :=
  Template.extend [] members

/-- The contexts of all templates, in order. -/
def expand (templates : List Template) : List Context := templates.flatMap Template.expand

/-- The contexts of all templates that objects write down. -/
def expandMembers (templates : List (List (String × Json))) :
    Except TemplateError (List Context) := do
  return expand (← templates.mapM Template.ofMembers)

/-- Contexts as JSON. -/
def toJson (contexts : List Context) : Json := .arr (contexts.map .obj)

/-- Which role may create which other role. -/
def sample : List Template :=
  let roles (a b : String) : List Candidate := [.plain (.str a), .plain (.str b)]
  [[("role", roles "role_3" "role_4"), ("authenticate_as", roles "role_1" "role_2"),
      ("result", [.format "\x7bauthenticate_as\x7d ALLOWED to create \x7brole\x7d"])],
    [("role", roles "role_1" "role_2"), ("authenticate_as", roles "role_1" "role_2"),
      ("result", [.format "\x7bauthenticate_as\x7d NOT ALLOWED to create \x7brole\x7d"])]]

end Runbook.Contexts
