import Runbook.Sql.Condition

/-!
# Statements

The statements that the other modules run: selections, updates, and what is asked of a database
around dropping all that its user owns.
-/

namespace Runbook.Sql

/-- The clause that restricts a statement, with a blank at its end; nothing without conditions. -/
def whereClause (conditions : List Condition) : String :=
  if conditions.isEmpty then ""
  else "WHERE " ++ " AND ".intercalate (conditions.map Condition.render) ++ " "

/-- Selects columns of a table, all of them if none is named. -/
def select (table : String) (columns : List String) (conditions : List Condition) : String :=
  let columns := if columns.isEmpty then "*" else ", ".intercalate columns
  Text.trimEnd ("SELECT " ++ columns ++ " FROM " ++ table ++ " " ++ whereClause conditions)

/-- Sets columns of a table. -/
def update (table : String) (assignments : List (String × String))
    (conditions : List Condition) : String :=
  let assignments := assignments.map fun (column, value) => column ++ " = " ++ value
  Text.trimEnd ("UPDATE " ++ table ++ " SET " ++ ", ".intercalate assignments ++ " " ++
    whereClause conditions)

/-- Lists the tables outside of the system schemas. -/
def showTables : String :=
  "SELECT table_schema || '.' || table_name FROM information_schema.tables " ++
  "WHERE table_type = 'BASE TABLE' " ++
  "AND table_schema NOT IN ('pg_catalog', 'information_schema')"

/-- A query as a named table. -/
def subquery (query table : String) : String := "(" ++ query ++ ") as " ++ table

/-- The number of rows of a query. -/
def count (query : String) : String :=
  "SELECT COUNT(*) FROM " ++ subquery query "resultset_table"

/-- The number of tables outside of the system schemas. -/
def showTablesCount : String := count showTables

/-- Drops all that the connected user owns. -/
def dropOwned : String := "DROP OWNED BY CURRENT_USER CASCADE"

/-- Counts tables, drops all that the user owns, and counts again. -/
def dropOwnedQueries : List String := [showTablesCount, dropOwned, showTablesCount]

end Runbook.Sql
