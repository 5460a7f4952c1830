import Runbook.Text.Alphanumeric

/-!
# Environments

Variables by name, and the text that a text with variables and a home directory in it stands for.
What a variable holds is put in as it is: variables and a home directory inside it mean nothing.
-/

namespace Runbook

/-- Variables by name. -/
abbrev Environment := List (String × String)

namespace Environment

/-- The value of a variable. -/
def get? (env : Environment) (name : String) : Option String :=
  (env.find? (·.1 == name)).map (·.2)

/-- Sets a variable over an older value. -/
def set (env : Environment) (name value : String) : Environment :=
  (name, value) :: env.filter (·.1 != name)

/-- Why a text cannot be expanded. -/
inductive ExpansionError where
  /-- A variable without a default is not set. -/
  | notSet (name : String)
deriving DecidableEq, Repr

/-- The wording of an error. -/
def ExpansionError.message : ExpansionError → String
  | .notSet name => "error looking key '" ++ name ++ "' up: environment variable not found"

/-- A character of the name of a variable. -/
def isNameChar (c : Char) : Bool := Text.isAlphanumeric c || c == '_'

/-- Splits the text between braces into a name and a default; a default needs a name before it. -/
def splitDefault : List Char → List Char × Option (List Char)
  | [] => ([], none)
  | c :: cs =>
    let rec go (name : List Char) : List Char → List Char × Option (List Char)
      | ':' :: '-' :: default => (name.reverse, some default)
      | d :: ds => go (d :: name) ds
      | [] => (name.reverse, none)
    if (c :: cs).take 2 = [':', '-'] then (c :: cs, none) else go [c] cs

/-- The value of a variable, or its default. -/
def lookup (env : Environment) (name : List Char) (default : Option (List Char)) :
    Except ExpansionError (List Char) :=
  match env.get? (String.ofList name), default with
  | some value, _ => .ok value.toList
  | none, some default => .ok default
  | none, none => .error (.notSet (String.ofList name))

/-- The text with its variables replaced. A dollar stands for itself before another dollar, which
it takes away, before a brace that is not closed, and before what is no name. -/
def expandVariables (env : Environment) : (fuel : Nat) → List Char →
    Except ExpansionError (List Char)
  | 0, _ => .ok []
  | _ + 1, [] => .ok []
  | fuel + 1, '$' :: rest =>
    match rest with
    | '{' :: body =>
      match body.dropWhile (· ≠ '}') with
      | [] => do return '$' :: '{' :: (← expandVariables env fuel body)
      | _ :: behind => do
        let (name, default) := splitDefault (body.takeWhile (· ≠ '}'))
        let value ← env.lookup name default
        return value ++ (← expandVariables env fuel behind)
    | '$' :: behind => do return '$' :: (← expandVariables env fuel behind)
    | rest =>
      let name := rest.takeWhile isNameChar
      if name.isEmpty then do return '$' :: (← expandVariables env fuel rest)
      else do
        let value ← env.lookup name none
        return value ++ (← expandVariables env fuel (rest.dropWhile isNameChar))
  | fuel + 1, c :: rest => do return c :: (← expandVariables env fuel rest)

/-- The home directory. -/
def home (env : Environment) : List Char :=
  match env.get? "HOME" with
  | some dir => if dir = "" then ['/', 'r', 'o', 'o', 't'] else dir.toList
  | none => ['/', 'r', 'o', 'o', 't']

/-- The text with a tilde that starts its first component replaced by the home directory. -/
def expandHome (env : Environment) : List Char → List Char
  | ['~'] => env.home
  | '~' :: '/' :: rest => env.home ++ '/' :: rest
  | cs => cs

/-- The text with its variables and the home directory replaced; a tilde that comes out of a
variable stays. -/
def expand (env : Environment) (text : String) : Except ExpansionError String := do
  let cs ← env.expandVariables (text.length + 1) text.toList
  return String.ofList (if text.toList.head? = some '~' then env.expandHome cs else cs)

end Environment

end Runbook
