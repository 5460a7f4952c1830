import Runbook.Rows.Basic

/-!
# Members of members

A row may list members, each with an id that may be the id of another row. The tree of an id holds
the ids of its members with their own trees. An id that was met before its parent's members were
collected is left out, so rows that are members of each other do no harm.
-/

namespace Runbook.Rows

/-- The ids of the members that a row lists. -/
def listedIds (row : Json) : List Json :=
  match row.get? "members" with
  | some (.arr members) => members.filterMap (·.get? "id")
  | _ => []

/-- The ids of the members of an id, over all rows of that id. -/
def memberIds (rows : List Json) (id : Json) : List Json :=
  (whereColumn "id" id rows).flatMap listedIds

/-- The text by which an id is told apart: a string as it is, anything else as compact JSON. -/
def idText : Json → String
  | .str s => s
  | j => j.compact

/-- The ids whose texts are neither in `met` nor among those of earlier ids of the list. -/
def unmet (met : List String) : List Json → List (String × Json)
  | [] => []
  | id :: rest =>
    let text := idText id
    if met.contains text then unmet met rest else (text, id) :: unmet (text :: met) rest

mutual

/-- The tree below an id, and the texts of all ids met so far. -/
def visit (rows : List Json) : (fuel : Nat) → (id : Json) → (met : List String) →
    List (String × Json) × List String
  | 0, _, met => ([], met)
  | fuel + 1, id, met =>
    let met := idText id :: met
    visitAll rows fuel (unmet met (memberIds rows id)) met
termination_by fuel => (fuel, 0)

/-- The trees below ids, one after the other. -/
def visitAll (rows : List Json) (fuel : Nat) : List (String × Json) → (met : List String) →
    List (String × Json) × List String
  | [], met => ([], met)
  | (text, id) :: rest, met =>
    let (below, met) := visit rows fuel id met
    let (others, met) := visitAll rows fuel rest met
    ((text, .obj below) :: others, met)
termination_by ids => (fuel, ids.length + 1)

end

/-- How deep a tree can be: along each path the ids are different members of some row. -/
def depthBound (rows : List Json) : Nat := (rows.flatMap listedIds).length + 1

/-- The members of an id, recursively. -/
def memberTree (rows : List Json) (id : Json) : Json :=
  .obj (visit rows (depthBound rows) id []).1

end Runbook.Rows
