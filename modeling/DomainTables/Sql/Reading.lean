import DomainTables.Relationship
import DomainTables.Sql.Fragment
import DomainTables.Text.Case

/-!
# Reading columns

A column is read in the shape in which the domain object has the value: a reference by uuid becomes
the uuid again, a nested object becomes a JSON object of its own columns, and arrays keep their
order. What has to be read is first found out as a tree (`read`), with one level for each nested
object, and the tree is then written as an expression (`Reading.render`). A column that refers to a
relationship that is not there cannot be read, nor can an object that nests itself.
-/

namespace DomainTables.Sql

/-- How the value of a column is read. The source is the qualified column, the table is the one
that the column refers to. -/
inductive Reading where
  /-- The value as it is stored. -/
  | stored (source : String)
  /-- The uuid of the row that the column refers to. -/
  | uuid (table source : String)
  /-- The uuids of the rows that the column refers to. -/
  | uuids (table source : String)
  /-- The row that the column refers to, as an object with the given entries. -/
  | object (table source : String) (entries : List (String × Reading))
  /-- The rows that the column refers to, each as an object with the given entries. -/
  | objects (table source : String) (entries : List (String × Reading))
  /-- A reading under a name. -/
  | named (reading : Reading) (name : String)

/-- A JSON object of written entries. -/
def jsonObject (entries : List String) : String :=
  if entries.isEmpty then "json_build_object()"
  else Text.ofLines ["json_build_object(", "  " ++ ",\n  ".intercalate entries, ")"]

mutual

/-- The expression of a reading. -/
def Reading.render : Reading → String
  | .stored source => source
  | .uuid table source =>
    Text.ofLines [
      "(",
      "  SELECT " ++ qualified table "uuid",
      "  FROM " ++ table ++ " WHERE " ++ qualified table "id" ++ " = " ++ source,
      ")"]
  | .uuids table source =>
    Text.ofLines [
      "(",
      "  SELECT COALESCE(array_agg(" ++ qualified table "uuid" ++ " " ++ elementOrder table ++
        "), array[]::uuid[]) AS array_agg",
      "  " ++ joinElements table source "id",
      ")"]
  | .object table source entries =>
    Text.ofLines [
      "(",
      "  SELECT " ++ Text.indent (jsonObject (renderEntries entries)) 2 ++
        " AS json_build_object",
      "  FROM " ++ table ++ " WHERE " ++ qualified table "id" ++ " = " ++ source,
      ")"]
  | .objects table source entries =>
    Text.ofLines [
      "(",
      "  SELECT COALESCE(",
      "    json_agg(",
      "      " ++ Text.indent (jsonObject (renderEntries entries)) 6,
      "      " ++ elementOrder table,
      "    ),",
      "    '[]'::json",
      "  ) AS json_agg",
      "  " ++ joinElements table source "id",
      ")"]
  | .named reading name => reading.render ++ " AS " ++ name

/-- The entries of an object, each with its key. -/
def renderEntries : List (String × Reading) → List String
  | [] => []
  | (key, reading) :: rest =>
    ("'" ++ key ++ "', " ++ Text.indent reading.render 2) :: renderEntries rest

end

/-- The readings of the columns of a relationship that store properties, under the names of the
properties. -/
def readEntries (readColumn : ColumnMapping → Except Cause Reading) (target : Relationship) :
    Except Cause (List (String × Reading)) :=
  (target.mappings.filter fun mapping => mapping.property.isSome).mapM fun mapping => do
    let reading ← readColumn mapping
    return (mapping.domainName, reading)

/-- The reading of a column that makes a reference to `target`, where `entries` reads nested
objects. -/
def readReference (entries : Relationship → Except Cause (List (String × Reading)))
    (method : ReferenceMethod) (isArray : Bool) (source : String) (target : Relationship) :
    Except Cause Reading :=
  match method.isDirect, isArray with
  | false, false => .ok (.uuid target.table source)
  | false, true => .ok (.uuids target.table source)
  | true, false => (entries target).map (.object target.table source)
  | true, true => (entries target).map (.objects target.table source)

/-- The reading of a column of the table, or alias, `table`, where `entries` reads nested objects.
References that are not nested themselves (at depth zero) are named after their property. -/
def readColumn (relationships : Relationships)
    (entries : Relationship → Except Cause (List (String × Reading))) (depth : Nat)
    (table : String) (mapping : ColumnMapping) : Except Cause Reading :=
  let source := qualified table mapping.column.name
  match mapping.column.reference with
  | none => .ok (.stored source)
  | some reference => do
    let target ← relationships.get reference.target.name
    let reading ← readReference entries reference.method mapping.column.isArray source target
    if depth = 0 then return .named reading (Text.snakeCase mapping.domainName)
    else return reading

/-- The reading of a column that is nested in `depth` objects. At most `levels` further objects are
nested in it. -/
def read (relationships : Relationships) :
    Nat → Nat → String → ColumnMapping → Except Cause Reading
  | 0, depth, table, mapping =>
    readColumn relationships
      (fun target => .error (.internalConsistency (.selfNesting target.domainObject)))
      depth table mapping
  | levels + 1, depth, table, mapping =>
    readColumn relationships
      (fun target => readEntries (read relationships levels (depth + 1) target.table) target)
      depth table mapping

/-- The expression that reads a column nested in `depth` objects. As many objects are nested in one
another as there are relationships at most, unless an object nests itself. -/
def selectAt (relationships : Relationships) (depth : Nat) (table : String)
    (mapping : ColumnMapping) : Except Cause String :=
  (read relationships relationships.size depth table mapping).map Reading.render

/-- The expression that reads a column of the table, or alias, `table`. -/
def select (relationships : Relationships) (table : String) (mapping : ColumnMapping) :
    Except Cause String :=
  selectAt relationships 0 table mapping

/-- The expressions that read all columns of a relationship from its own table. -/
def selectAll (relationships : Relationships) (relationship : Relationship) :
    Except Cause (List String) :=
  relationship.mappings.mapM (select relationships relationship.table)

end DomainTables.Sql
