import Runbook.Decimal.Binary64

/-!
# JSON values

Objects keep the order of their members. A text may name a member twice, so a value as read may
hold it twice; `Json.merged` keeps each name once, at its first place and with its last value.
Numbers written without fraction and exponent are integers, all others are doubles, and the two
kinds are never equal. Values may be equal in the sense of `Json.same` and yet be told apart: what
is decided of `=` (`Json.isEqual`) is finer.
-/

namespace Runbook

open Decimal (Binary64)

/-- A JSON value; the members of an object are in order. -/
inductive Json where
  | null
  | bool (flag : Bool)
  | int (n : Int)
  | float (x : Binary64)
  | str (text : String)
  | arr (items : List Json)
  | obj (members : List (String × Json))
deriving Inhabited, Repr

namespace Json

/-- The members of an object, in order, or nothing for another value. -/
def members? : Json → Option (List (String × Json))
  | .obj ms => some ms
  | _ => none

/-- The text of a string, or nothing for another value. -/
def text? : Json → Option String
  | .str s => some s
  | _ => none

/-- The first value under a name. -/
def lookup? (name : String) (members : List (String × Json)) : Option Json :=
  (members.find? (·.1 == name)).map (·.2)

/-- The member of an object with the given name; other values have none. -/
def get? (j : Json) (name : String) : Option Json :=
  j.members?.bind (lookup? name)

/-- Sets a member: in its old place, or at the end if the name is new. -/
def put (name : String) (value : Json) : List (String × Json) → List (String × Json)
  | [] => [(name, value)]
  | (n, v) :: rest => if n = name then (n, value) :: rest else (n, v) :: put name value rest

/-- Each name once, at its first place and with its last value. -/
def putAll (members : List (String × Json)) : List (String × Json) :=
  members.foldl (fun acc m => put m.1 m.2 acc) []

mutual

/-- The value with each member name of each object kept once. -/
def merged : Json → Json
  | .arr items => .arr (mergedItems items)
  | .obj ms => .obj (putAll (mergedMembers ms))
  | j => j
termination_by structural j => j

/-- `Json.merged` for the items of an array. -/
def mergedItems : List Json → List Json
  | [] => []
  | j :: rest => j.merged :: mergedItems rest
termination_by structural js => js

/-- `Json.merged` for the values of members. -/
def mergedMembers : List (String × Json) → List (String × Json)
  | [] => []
  | (n, v) :: rest => (n, v.merged) :: mergedMembers rest
termination_by structural ms => ms

end

mutual

/-- Equality of values: members may come in any order, and the two zeros are equal. -/
def same : Json → Json → Bool
  | .null, .null => true
  | .bool a, .bool b => a == b
  | .int a, .int b => a == b
  | .float a, .float b => a.same b
  | .str a, .str b => a == b
  | .arr a, .arr b => sameItems a b
  | .obj a, .obj b => a.length == b.length && sameMembers a b
  | _, _ => false
termination_by structural j => j

/-- Equality of arrays, item by item. -/
def sameItems : List Json → List Json → Bool
  | [], [] => true
  | a :: as, b :: bs => same a b && sameItems as bs
  | _, _ => false
termination_by structural js => js

/-- Every member of the first list has an equal value under its name in the second. -/
def sameMembers : List (String × Json) → List (String × Json) → Bool
  | [], _ => true
  | (n, v) :: rest, bs =>
    (match lookup? n bs with
      | some w => same v w
      | none => false) && sameMembers rest bs
termination_by structural ms => ms

end

mutual

/-- The values are one and the same: members in one order, doubles of the same bits. -/
def isEqual : Json → Json → Bool
  | .null, .null => true
  | .bool a, .bool b => a == b
  | .int a, .int b => a == b
  | .float a, .float b => a == b
  | .str a, .str b => a == b
  | .arr a, .arr b => areEqual a b
  | .obj a, .obj b => areEqualMembers a b
  | _, _ => false
termination_by structural j => j

/-- `Json.isEqual` for the items of an array. -/
def areEqual : List Json → List Json → Bool
  | [], [] => true
  | a :: as, b :: bs => isEqual a b && areEqual as bs
  | _, _ => false
termination_by structural js => js

/-- `Json.isEqual` for the members of an object. -/
def areEqualMembers : List (String × Json) → List (String × Json) → Bool
  | [], [] => true
  | (m, a) :: as, (n, b) :: bs => m == n && isEqual a b && areEqualMembers as bs
  | _, _ => false
termination_by structural ms => ms

end

mutual

theorem isEqual_iff : (j k : Json) → (isEqual j k = true ↔ j = k)
  | .null, k | .bool _, k | .int _, k | .float _, k | .str _, k => by cases k <;> simp [isEqual]
  | .arr a, k => by cases k <;> simp [isEqual, areEqual_iff a]
  | .obj a, k => by cases k <;> simp [isEqual, areEqualMembers_iff a]
termination_by structural j => j

theorem areEqual_iff : (js ks : List Json) → (areEqual js ks = true ↔ js = ks)
  | [], ks => by cases ks <;> simp [areEqual]
  | a :: as, ks => by cases ks <;> simp [areEqual, isEqual_iff a, areEqual_iff as]
termination_by structural js => js

theorem areEqualMembers_iff :
    (ms ns : List (String × Json)) → (areEqualMembers ms ns = true ↔ ms = ns)
  | [], ns => by cases ns <;> simp [areEqualMembers]
  | (m, a) :: ms, ns => by
    cases ns <;> simp [areEqualMembers, isEqual_iff a, areEqualMembers_iff ms, Prod.ext_iff]
termination_by structural ms => ms

end

instance : DecidableEq Json := fun j k => decidable_of_iff (isEqual j k = true) (isEqual_iff j k)

end Json

end Runbook
