import DomainTables.Text.Lines

/-!
# Fragments of queries

Pieces that several kinds of expressions share. All queries are written for PostgreSQL.
-/

namespace DomainTables.Sql

/-- A column of the table, or alias, in front of the period. -/
def qualified (table column : String) : String :=
  table ++ "." ++ column

/-- The alias of the elements that are joined with a table. -/
def elementsAlias (table : String) : String :=
  table ++ "_ref"

/-- The name of the column that holds the positions of joined elements. -/
def orderIndex : String :=
  "array_order_index"

/-- The clause that brings the rows of a table into the order of the elements joined with it. -/
def elementOrder (table : String) : String :=
  "ORDER BY " ++ qualified (elementsAlias table) orderIndex

/-- Joins a table with the elements of the array `source`, which are matched against the column
`key`, and numbers the elements. The clause stands one level deep in its subquery. -/
def joinElements (table source key : String) : String :=
  Text.ofLines [
    "FROM " ++ table,
    "  JOIN unnest(" ++ source ++ ") WITH ORDINALITY",
    "    AS " ++ elementsAlias table ++ " (" ++ key ++ ", " ++ orderIndex ++ ")",
    "    ON " ++ qualified table key ++ " = " ++ qualified (elementsAlias table) key]

end DomainTables.Sql
