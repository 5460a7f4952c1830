import Runbook.Json.Printer
import Runbook.Regex.Basic

/-!
# Rows

Queries over a list of JSON values, each of which is a row of a table if it is an object. What is
no object or lacks a column never matches.
-/

namespace Runbook.Rows

/-- The columns of a row, none for what is no object. -/
def columns (row : Json) : List (String × Json) := row.members?.getD []

/-- The id of the first row with the name. -/
def idByName? (rows : List Json) (name : String) : Option Json :=
  (rows.find? fun row => (row.get? "name").bind Json.text? == some name).bind (·.get? "id")

/-- A column of the row holds the value. -/
def holds (column : String) (value row : Json) : Bool :=
  match row.get? column with
  | some v => v.same value
  | none => false

/-- The value is a text that matches. -/
def textMatches (pattern : Regex) (value : Json) : Bool :=
  match value.text? with
  | some text => pattern.isMatch text
  | none => false

/-- Rows with the value in a column. -/
def whereColumn (column : String) (value : Json) (rows : List Json) : List Json :=
  rows.filter (holds column value)

/-- Rows with a matching text in a column. -/
def whereColumnMatches (column : String) (pattern : Regex) (rows : List Json) : List Json :=
  rows.filter fun row =>
    match row.get? column with
    | some v => textMatches pattern v
    | none => false

/-- Rows with the value in any column. -/
def whereValue (value : Json) (rows : List Json) : List Json :=
  rows.filter fun row => (columns row).any fun c => c.2.same value

/-- Rows with a matching column name. -/
def whereNameMatches (pattern : Regex) (rows : List Json) : List Json :=
  rows.filter fun row => (columns row).any fun c => pattern.isMatch c.1

/-- Rows with a matching text in any column. -/
def whereValueMatches (pattern : Regex) (rows : List Json) : List Json :=
  rows.filter fun row => (columns row).any fun c => textMatches pattern c.2

/-- A column of a row, null where the row lacks it. -/
def column (name : String) (row : Json) : Json := (row.get? name).getD .null

/-- One column of each row, or the rows themselves if none is named. -/
def selectColumn (name : Option String) (rows : List Json) : List Json :=
  match name with
  | some name => rows.map (column name)
  | none => rows

/-- Several columns of a row as an object, each name once. -/
def project (names : List String) (row : Json) : Json :=
  .obj (Json.putAll (names.map fun name => (name, column name row)))

/-- Several columns of each row, or the rows themselves if no list of names is given. -/
def selectColumns (names : Option (List String)) (rows : List Json) : List Json :=
  match names with
  | some names => rows.map (project names)
  | none => rows

/-- The column names of each row. -/
def names (rows : List Json) : List (List String) := rows.map fun row => (columns row).map (·.1)

end Runbook.Rows
