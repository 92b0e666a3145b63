import DomainTables.Metadata.Object
import DomainTables.Relationship

/-!
# Relationships as JSON

The written form of relationships, in both directions. Names are given for both sides: those of the
domain objects and those of the tables that store them.
-/

namespace DomainTables

open Metadata

namespace ReferenceMethod

/-- The written form of a method. -/
def toJson : ReferenceMethod → Json
  | .directByNesting => .string "DIRECT_BY_NESTING"
  | .implicitByUuid => .string "IMPLICIT_BY_UUID"
  | .directByDeclaration => .string "DIRECT_BY_DECLARATION"

/-- The method of a name. -/
def ofName? : String → Option ReferenceMethod
  | "DIRECT_BY_NESTING" => some .directByNesting
  | "IMPLICIT_BY_UUID" => some .implicitByUuid
  | "DIRECT_BY_DECLARATION" => some .directByDeclaration
  | _ => none

/-- The method of a written form. -/
def ofJson? (value : Json) : Option ReferenceMethod :=
  (tag? false value).bind ofName?

end ReferenceMethod

namespace ColumnReference

/-- The written form of a reference. -/
def toJson (reference : ColumnReference) : Json :=
  .object [("method", reference.method.toJson), ("of", reference.target.toJson)]

/-- The reference of a written form. -/
def ofJson? (value : Json) : Option ColumnReference := do
  let fields ← fields? ["method", "of"] [] value
  let method ← fields.required? "method" ReferenceMethod.ofJson?
  let target ← fields.required? "of" (ObjectReference.ofJson? false)
  return ⟨method, target⟩

end ColumnReference

namespace Column

/-- The written form of a column. -/
def toJson (column : Column) : Json :=
  .object [
    ("name", .string column.name),
    ("is_nullable", .bool column.isNullable),
    ("is_updatable", .bool column.isUpdatable),
    ("is_array", .bool column.isArray),
    ("reference", ofOption ColumnReference.toJson column.reference)]

/-- The column of a written form. -/
def ofJson? (value : Json) : Option Column := do
  let fields ← fields? ["name", "is_nullable", "is_updatable", "is_array", "reference"] [] value
  let name ← fields.required? "name" text?
  let isNullable ← fields.required? "is_nullable" bool?
  let isUpdatable ← fields.required? "is_updatable" bool?
  let isArray ← fields.required? "is_array" bool?
  let reference ← fields.optional? "reference" ColumnReference.ofJson?
  return ⟨name, isNullable, isUpdatable, isArray, reference⟩

end Column

namespace ColumnMapping

/-- The written form of a mapping. -/
def toJson (mapping : ColumnMapping) : Json :=
  .object [
    ("domain_object", ofOption Property.toJson mapping.property),
    ("sql_schema", mapping.column.toJson)]

/-- The mapping of a written form. -/
def ofJson? (value : Json) : Option ColumnMapping := do
  let fields ← fields? ["domain_object", "sql_schema"] [] value
  let property ← fields.optional? "domain_object" Property.ofJson?
  let column ← fields.required? "sql_schema" Column.ofJson?
  return ⟨property, column⟩

end ColumnMapping

namespace UniqueKey

/-- The written form of a natural key. -/
def toJson (key : UniqueKey) : Json :=
  .object [("domain_object", ofTexts key.properties), ("sql_schema", ofTexts key.columns)]

/-- The natural key of a written form. -/
def ofJson? (value : Json) : Option UniqueKey := do
  let fields ← fields? ["domain_object", "sql_schema"] [] value
  let properties ← fields.required? "domain_object" (list? text?)
  let columns ← fields.required? "sql_schema" (list? text?)
  return ⟨properties, columns⟩

end UniqueKey

namespace Relationship

/-- The written form of a relationship. -/
def toJson (relationship : Relationship) : Json :=
  .object [
    ("name", .object [
      ("sql_schema", .string relationship.table),
      ("domain_object", .string relationship.domainObject)]),
    ("properties", .array (relationship.mappings.map ColumnMapping.toJson)),
    ("decorations", .object [("unique", relationship.unique.toJson)])]

/-- The names of table and domain object in a written form. -/
def namesOfJson? (value : Json) : Option (String × String) := do
  let fields ← fields? ["sql_schema", "domain_object"] [] value
  let table ← fields.required? "sql_schema" text?
  let domainObject ← fields.required? "domain_object" text?
  return (table, domainObject)

/-- The natural key in the decorations of a written form. -/
def uniqueOfJson? (value : Json) : Option UniqueKey := do
  let fields ← fields? ["unique"] [] value
  fields.required? "unique" UniqueKey.ofJson?

/-- The relationship of a written form. -/
def ofJson? (value : Json) : Option Relationship := do
  let fields ← fields? ["name", "properties", "decorations"] [] value
  let (table, domainObject) ← fields.required? "name" namesOfJson?
  let mappings ← fields.required? "properties" (list? ColumnMapping.ofJson?)
  let unique ← fields.required? "decorations" uniqueOfJson?
  return ⟨table, domainObject, mappings, unique⟩

end Relationship

namespace Metadata

/-- The text of a relationship. -/
def writeRelationship (relationship : Relationship) : String :=
  relationship.toJson.render

/-- The relationship of a text. -/
def readRelationship? (text : String) : Option Relationship := do
  let value ← Json.parse? text
  Relationship.ofJson? value

end Metadata

end DomainTables
