import Runbook.Definition.Error
import Runbook.Definition.Value
import Runbook.Text.Blank

/-!
# Conditions

A condition compares operands or groups conditions. As a definition a comparison is the list of
its operands, or the list of that list and an operator; a third value that is given makes a group.
-/

namespace Runbook.Sql

/-- A condition of a query. -/
inductive Condition where
  /-- Operands joined by an operator. -/
  | compare (operands : List String) (operator : String)
  /-- Conditions in parentheses, joined by an operator. -/
  | group (conditions : List Condition) (operator : String)
deriving Inhabited, Repr

/-- The operator of a condition that names none. -/
def defaultOperator : String := "="

/-- What a message calls a condition. -/
def conditionNoun : String := "sql condition"

/-- The error for a value that cannot stand where it does. -/
def invalid (field : String) (v : Value) : DefinitionError :=
  .invalidField conditionNoun field v.display

/-- The text of an operand. -/
def operandText (v : Value) : Except DefinitionError String :=
  match v.text? with
  | some s => .ok s
  | none => .error (invalid "operand" v)

/-- The operator that a definition gives in its second place. -/
def operatorText : Option Value → Except DefinitionError String
  | some v => if v.isTruthy then operandText v else .ok defaultOperator
  | none => .ok defaultOperator

/-- The value is a list. -/
def isList : Value → Bool
  | .list _ => true
  | _ => false

namespace Condition

mutual

/-- Reads the definition of a condition. The operands of a group are conditions, or together a
single one if not all of them are lists. -/
def ofValue : Value → Except DefinitionError Condition
  | .list vs => ofParts vs
  | v => .error (invalid "condition" v)
termination_by v => (sizeOf v, 1)

/-- Reads a condition out of the values of its list. -/
def ofParts : List Value → Except DefinitionError Condition
  | .list operands :: rest => do
    let operator ← operatorText rest[0]?
    if (rest[1]?.map Value.isTruthy).getD false then
      if operands.all isList then return .group (← ofValues operands) operator
      else return .group [← ofParts operands] operator
    else return .compare (← operands.mapM operandText) operator
  | parts => do return .compare (← parts.mapM operandText) defaultOperator
termination_by vs => (sizeOf vs, 0)

/-- Reads the definitions of several conditions. -/
def ofValues : List Value → Except DefinitionError (List Condition)
  | [] => .ok []
  | v :: vs => do
    let c ← ofValue v
    let cs ← ofValues vs
    return c :: cs
termination_by vs => (sizeOf vs, 2)

end

/-- Reads a listing of conditions; one that is not given is empty. -/
def listing : Value → Except DefinitionError (List Condition)
  | .list vs => ofValues vs
  | v => if v.isTruthy then .error (invalid "conditions" v) else .ok []

mutual

/-- The condition as an infix expression. -/
def render : Condition → String
  | .compare operands operator => (" " ++ operator ++ " ").intercalate operands
  | .group conditions operator => (" " ++ operator ++ " ").intercalate (renderMembers conditions)
termination_by structural c => c

/-- The members of a group, each in parentheses. -/
def renderMembers : List Condition → List String
  | [] => []
  | c :: cs => ("(" ++ c.render ++ ")") :: renderMembers cs
termination_by structural cs => cs

end

end Condition

end Runbook.Sql
