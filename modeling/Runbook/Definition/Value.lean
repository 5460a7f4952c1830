import Runbook.Json.Basic

/-!
# Values of definitions

A definition is a value: a scalar, the name of a preset, or a list of values. Nil and false both
mean "not given"; strings, integers and true have a text of their own.
-/

namespace Runbook

/-- A value of a definition. -/
inductive Value where
  | nil
  | bool (flag : Bool)
  | int (n : Int64)
  | str (text : String)
  /-- The name of a preset. -/
  | ref (name : String)
  | list (items : List Value)
deriving Inhabited, Repr

namespace Value

mutual

/-- Equality of values is decidable. -/
def decEq : (v w : Value) → Decidable (v = w)
  | .nil, .nil => isTrue rfl
  | .bool a, .bool b => if h : a = b then isTrue (by rw [h]) else isFalse (by simp [h])
  | .int a, .int b => if h : a = b then isTrue (by rw [h]) else isFalse (by simp [h])
  | .str a, .str b => if h : a = b then isTrue (by rw [h]) else isFalse (by simp [h])
  | .ref a, .ref b => if h : a = b then isTrue (by rw [h]) else isFalse (by simp [h])
  | .list a, .list b =>
    match decEqList a b with
    | isTrue h => isTrue (by rw [h])
    | isFalse h => isFalse (by simp [h])
  | .nil, .bool _ | .nil, .int _ | .nil, .str _ | .nil, .ref _ | .nil, .list _
  | .bool _, .nil | .bool _, .int _ | .bool _, .str _ | .bool _, .ref _ | .bool _, .list _
  | .int _, .nil | .int _, .bool _ | .int _, .str _ | .int _, .ref _ | .int _, .list _
  | .str _, .nil | .str _, .bool _ | .str _, .int _ | .str _, .ref _ | .str _, .list _
  | .ref _, .nil | .ref _, .bool _ | .ref _, .int _ | .ref _, .str _ | .ref _, .list _
  | .list _, .nil | .list _, .bool _ | .list _, .int _ | .list _, .str _ | .list _, .ref _ =>
    isFalse (by simp)

/-- Equality of lists of values is decidable. -/
def decEqList : (vs ws : List Value) → Decidable (vs = ws)
  | [], [] => isTrue rfl
  | [], _ :: _ => isFalse (by simp)
  | _ :: _, [] => isFalse (by simp)
  | v :: vs, w :: ws =>
    match decEq v w, decEqList vs ws with
    | isTrue h, isTrue k => isTrue (by rw [h, k])
    | isFalse h, _ => isFalse (by simp [h])
    | _, isFalse k => isFalse (by simp [k])

end

instance : DecidableEq Value := decEq

/-- A list of strings. -/
def strings (texts : List String) : Value := .list (texts.map .str)

/-- A string, or nil where there is none. -/
def ofText? : Option String → Value
  | some s => .str s
  | none => .nil

/-- Given at all: neither nil nor false. -/
def isTruthy : Value → Bool
  | .nil | .bool false => false
  | _ => true

/-- The text of a string, an integer or true. -/
def text? : Value → Option String
  | .str s => some s
  | .int n => some (toString n.toInt)
  | .bool true => some "true"
  | _ => none

/-- The name that a reference or a string holds. -/
def name? : Value → Option String
  | .str s | .ref s => some s
  | _ => none

/-- A list has its items as elements, any other value stands for itself. -/
def elements : Value → List Value
  | .list vs => vs
  | v => [v]

mutual

/-- How a message shows a value. -/
def display : Value → String
  | .nil => "nil"
  | .bool b => if b then "true" else "false"
  | .int n => toString n.toInt
  | .str s => s
  | .ref n => ":" ++ n
  | .list vs => "[" ++ ", ".intercalate (displayAll vs) ++ "]"
termination_by structural v => v

/-- How a message shows each of the values. -/
def displayAll : List Value → List String
  | [] => []
  | v :: vs => v.display :: displayAll vs
termination_by structural vs => vs

end

mutual

/-- The JSON form; a reference is an object with the name under "ref". -/
def toJson : Value → Json
  | .nil => .null
  | .bool b => .bool b
  | .int n => .int n.toInt
  | .str s => .str s
  | .ref n => .obj [("ref", .str n)]
  | .list vs => .arr (toJsonItems vs)
termination_by structural v => v

/-- The JSON forms of the items of a list. -/
def toJsonItems : List Value → List Json
  | [] => []
  | v :: vs => v.toJson :: toJsonItems vs
termination_by structural vs => vs

end

/-- The integer as a machine word, if it is one. -/
def word? (n : Int) : Option Int64 :=
  if -0x8000000000000000 ≤ n ∧ n < 0x8000000000000000 then some (Int64.ofInt n) else none

mutual

/-- Reads the JSON form. A list of one string is the reference of that name, like an object in
which "ref" stands once and holds a string; doubles and integers beyond 64 bits are no values. -/
def ofJson? : Json → Option Value
  | .null => some .nil
  | .bool b => some (.bool b)
  | .int n => (word? n).map .int
  | .float _ => none
  | .str s => some (.str s)
  | .arr [.str name] => some (.ref name)
  | .arr items => (ofJsonItems? items).map .list
  | .obj members =>
    match members.filter (·.1 == "ref") with
    | [(_, .str name)] => some (.ref name)
    | _ => none
termination_by structural j => j

/-- Reads the items of a list, all or none. -/
def ofJsonItems? : List Json → Option (List Value)
  | [] => some []
  | j :: rest =>
    match ofJson? j, ofJsonItems? rest with
    | some v, some vs => some (v :: vs)
    | _, _ => none
termination_by structural js => js

end

end Value

end Runbook
