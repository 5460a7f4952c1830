import Runbook.Definition.Registry

/-!
# Fields by position

The values of a resolved definition are read by their place. A field that is nil, false or not
there is not given; a given field that has no text is an error where text is asked for.
-/

namespace Runbook

/-- The values of a definition of some thing. -/
structure Fields where
  scope : Scope
  what : String
  values : List Value

namespace Fields

/-- The fields of a definition that has yet to be resolved. -/
def ofValue (scope : Scope) (what : String) (v : Value) : Fields := ⟨scope, what, scope.resolve v⟩

/-- The field at a place, nil if there is none. -/
def value (f : Fields) (i : Nat) : Value := f.values[i]?.getD .nil

/-- The text of a field that may be left out. -/
def text? (f : Fields) (i : Nat) (field : String) : Except DefinitionError (Option String) :=
  let v := f.value i
  if v.isTruthy then
    match v.text? with
    | some s => .ok (some s)
    | none => .error (.invalidField f.what field v.display)
  else .ok none

/-- The text of a field that has to be given. -/
def text (f : Fields) (i : Nat) (field : String) : Except DefinitionError String := do
  match ← f.text? i field with
  | some s => return s
  | none => throw (.missingField f.what field)

/-- The field is given. -/
def flag (f : Fields) (i : Nat) : Bool := (f.value i).isTruthy

/-- What the field resolves to; a field that is not there resolves to nothing. -/
def nested (f : Fields) (i : Nat) : List Value :=
  match f.values[i]? with
  | some v => f.scope.resolve v
  | none => []

/-- The texts of a nested listing, with nothing for an element that is not given. -/
def texts (f : Fields) (i : Nat) (field : String) :
    Except DefinitionError (List (Option String)) :=
  let listing : Fields := { f with values := f.nested i }
  (List.range listing.values.length).mapM fun j => listing.text? j field

end Fields

end Runbook
