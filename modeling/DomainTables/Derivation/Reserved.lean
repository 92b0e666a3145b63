import DomainTables.Domain.Object

/-!
# Reserved columns

Every table has columns that the database fills in. Which ones depends on the variant of the domain
object. A declaration may repeat them as properties, of the same type.
-/

namespace DomainTables

/-- A column that the database fills in. -/
structure ReservedColumn where
  /-- The name of the column. -/
  column : String
  /-- The key of the property that repeats it. -/
  property : String
  /-- The type of that property. -/
  type : PropertyType
deriving DecidableEq, Repr

namespace ReservedColumn

/-- The number of the row. -/
def id : ReservedColumn :=
  ⟨"id", "id", .number⟩

/-- The identity by which other objects refer to the row. -/
def uuid : ReservedColumn :=
  ⟨"uuid", "uuid", .string⟩

/-- The time at which the row was written. -/
def createdAt : ReservedColumn :=
  ⟨"created_at", "createdAt", .date⟩

/-- The time at which the row was last changed. -/
def updatedAt : ReservedColumn :=
  ⟨"updated_at", "updatedAt", .date⟩

end ReservedColumn

/-- The reserved columns of the tables of a variant, in order. -/
def Variant.reserved : Variant → List ReservedColumn
  | .literal => [.id]
  | .entity => [.id, .uuid, .createdAt, .updatedAt]
  | .event => [.id, .uuid, .createdAt]

/-- Tells whether a name is that of a property that repeats a reserved column of the variant. -/
def Variant.isReserved (variant : Variant) (property : String) : Bool :=
  variant.reserved.any fun reserved => reserved.property == property

end DomainTables
