import DomainTables.Error

/-!
# Relationships between domain objects and tables

A `Relationship` says how one domain object is stored: the name of its table, one `ColumnMapping`
per column, and the natural key in the names of both sides. A column that refers to another object
says which one and how. `Relationships` is the set of all relationships of a run, under the names of
their domain objects.
-/

namespace DomainTables

/-- How a column refers to another domain object. -/
inductive ReferenceMethod where
  /-- The property nests the other object, which is stored in a table of its own. -/
  | directByNesting
  /-- The property holds the uuid of the other object. -/
  | implicitByUuid
  /-- The property was declared to nest the other object. -/
  | directByDeclaration
deriving DecidableEq, Repr

/-- Tells whether the property holds the other object itself. -/
def ReferenceMethod.isDirect : ReferenceMethod → Bool
  | .directByNesting => true
  | .implicitByUuid => false
  | .directByDeclaration => true

/-- Tells whether the property holds the uuid of the other object. -/
def ReferenceMethod.isImplicit (method : ReferenceMethod) : Bool :=
  !method.isDirect

/-- The reference that a column makes. -/
structure ColumnReference where
  /-- How the property holds the other object. -/
  method : ReferenceMethod
  /-- The object referred to. -/
  target : ObjectReference
deriving DecidableEq, Repr

/-- A column of a table. -/
structure Column where
  /-- The name of the column. -/
  name : String
  /-- Whether the column may be null. -/
  isNullable : Bool
  /-- Whether the column may be updated. -/
  isUpdatable : Bool
  /-- Whether the column holds a list. -/
  isArray : Bool
  /-- The reference that the column makes, if it makes one. -/
  reference : Option ColumnReference
deriving DecidableEq, Repr

/-- A column that the database fills in by itself. -/
def Column.reserved (name : String) : Column :=
  ⟨name, false, false, false, none⟩

/-- A column with the property that it stores. -/
structure ColumnMapping where
  /-- The stored property. Columns that the database fills in may have none. -/
  property : Option Property
  /-- The column. -/
  column : Column
deriving DecidableEq, Repr

namespace ColumnMapping

/-- The name on the side of the domain: that of the property, or else that of the column. -/
def domainName (mapping : ColumnMapping) : String :=
  match mapping.property with
  | some property => property.name
  | none => mapping.column.name

/-- Tells whether the mapping stores a property of the given name. -/
def stores (mapping : ColumnMapping) (name : String) : Bool :=
  mapping.property.any fun property => property.name == name

/-- The reference of the column, if the column makes one and the property holds the object
itself. -/
def directReference? (mapping : ColumnMapping) : Option ColumnReference :=
  mapping.column.reference.filter fun reference => reference.method.isDirect

/-- The mapping with another method for its reference. Columns without a reference stay as they
are. -/
def withMethod (mapping : ColumnMapping) (method : ReferenceMethod) : ColumnMapping :=
  { mapping with
    column.reference := mapping.column.reference.map fun reference =>
      { reference with method := method } }

end ColumnMapping

/-- The natural key of a domain object. -/
structure UniqueKey where
  /-- The names on the side of the domain. -/
  properties : List String
  /-- The names of the columns, in the same order. -/
  columns : List String
deriving DecidableEq, Repr

/-- How one domain object is stored in a table. -/
structure Relationship where
  /-- The name of the table. -/
  table : String
  /-- The name of the domain object. -/
  domainObject : String
  /-- The columns in order, reserved ones first. -/
  mappings : List ColumnMapping
  /-- The natural key. -/
  unique : UniqueKey
deriving DecidableEq, Repr

namespace Relationship

/-- The mapping of the first column of a name. -/
def column? (relationship : Relationship) (name : String) : Option ColumnMapping :=
  relationship.mappings.find? fun mapping => mapping.column.name == name

/-- The first mapping that stores a property of a name. -/
def property? (relationship : Relationship) (name : String) : Option ColumnMapping :=
  relationship.mappings.find? fun mapping => mapping.stores name

/-- The properties that the columns store, each with its column. -/
def userVisible (relationship : Relationship) : List (Property × Column) :=
  relationship.mappings.filterMap fun mapping =>
    mapping.property.map fun property => (property, mapping.column)

/-- The names of the domain objects that the columns refer to, in the order of the columns. -/
def referencedNames (relationship : Relationship) : List String :=
  relationship.mappings.filterMap fun mapping =>
    mapping.column.reference.map fun reference => reference.target.name

/-- The relationship with another method for the references of all columns of a name. -/
def setMethod (relationship : Relationship) (column : String) (method : ReferenceMethod) :
    Relationship :=
  { relationship with
    mappings := relationship.mappings.map fun mapping =>
      if mapping.column.name = column then mapping.withMethod method else mapping }

end Relationship

/-- The relationships of a run, in the order in which they were first inserted. -/
abbrev Relationships := Keyed Relationship.domainObject

namespace Relationships

/-- The relationship of a domain object. Whoever asks has promised that it is there. -/
def get (relationships : Relationships) (domainObject : String) : Except Cause Relationship :=
  match relationships.find? domainObject with
  | some relationship => .ok relationship
  | none => .error (.internalConsistency (.missingRelationship domainObject))

end Relationships

end DomainTables
