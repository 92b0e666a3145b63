import DomainTables.Relationship
import DomainTables.Sql.Fragment
import DomainTables.Text.Case

/-!
# Writing columns

The value of a column is written from a named parameter (`parameterName`). Uuids are turned into the
numbers of the rows that they identify; nested objects are turned into numbers before they are
bound, so their parameters are written as they are.
-/

namespace DomainTables.Sql

/-- The name of the parameter of a column. Where a nested object is bound by the number of its row,
the parameter is named after the column, and else after the property. -/
def parameterName (mapping : ColumnMapping) : String :=
  match mapping.directReference? with
  | some _ => Text.camelCase mapping.column.name
  | none => Text.camelCase mapping.domainName

/-- The expression for the numbers of the rows of a table, given their uuids in the parameter. -/
def lookUp (table parameter : String) (isArray : Bool) : String :=
  if isArray then
    Text.ofLines [
      "(",
      "  SELECT COALESCE(array_agg(" ++ qualified table "id" ++ " " ++ elementOrder table ++
        "), array[]::bigint[]) AS array_agg",
      "  " ++ joinElements table (parameter ++ "::uuid[]") "uuid",
      ")"]
  else
    "(SELECT id FROM " ++ table ++ " WHERE " ++ qualified table "uuid" ++ " = " ++ parameter ++
      ")"

/-- The expression that is stored in a column, in terms of the column's parameter. -/
def input (relationships : Relationships) (mapping : ColumnMapping) : Except Cause String :=
  let parameter := ":" ++ parameterName mapping
  match mapping.column.reference with
  | none => .ok parameter
  | some reference =>
    if reference.method.isDirect then .ok parameter
    else do
      let target ← relationships.get reference.target.name
      return lookUp target.table parameter mapping.column.isArray

/-- The expressions that are stored in all columns of a relationship. -/
def inputAll (relationships : Relationships) (relationship : Relationship) :
    Except Cause (List String) :=
  relationship.mappings.mapM (input relationships)

end DomainTables.Sql
