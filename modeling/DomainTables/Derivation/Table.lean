import DomainTables.Derivation.Decoration
import DomainTables.Derivation.Reserved
import DomainTables.English.Singular
import DomainTables.Reference.Classification

/-!
# Derivation of tables

The table of a domain object has the reserved columns of the object's variant, and after them one
column for each further property in the order of declaration (`derive`). Columns are named after
their properties; a column that refers to another object ends in `_id`, or in `_ids` if it holds
several. The natural key of an entity or event is the declared one, that of a literal consists of
all columns that are not reserved.
-/

namespace DomainTables

/-- The name of the column of a property. -/
def columnName (property : Property) (isReference : Bool) : String :=
  let name := Text.snakeCase property.name
  if !isReference then name
  else if property.type.isArray then
    match Text.stemBefore? name "_uuids" with
    | some stem => stem ++ "_ids"
    | none => if Text.endsWith name "_ids" then name else English.singularize name ++ "_ids"
  else
    match Text.stemBefore? name "_uuid" with
    | some stem => stem ++ "_id"
    | none => if Text.endsWith name "_id" then name else name ++ "_id"

/-- Refuses arrays whose elements are neither nested objects nor, by the name of the property,
uuids. -/
def checkArray (owner : String) (property : Property) : Except Cause Unit :=
  match property.type.element? with
  | none => .ok ()
  | some (.reference _) => .ok ()
  | some element =>
    if element = .string ∧ Text.endsWith property.name (uuidEnding true) then .ok ()
    else .error (.configuration owner property.name (.arrayElement element))

namespace DomainObject

/-- The mapping of a reserved column, with the property that repeats it if there is one. -/
def mapReserved (object : DomainObject) (reserved : ReservedColumn) :
    Except Cause ColumnMapping :=
  match object.property? reserved.property with
  | none => .ok ⟨none, .reserved reserved.column⟩
  | some property =>
    if property.type = reserved.type then .ok ⟨some property, .reserved reserved.column⟩
    else .error (.configuration object.name property.name
      (.reservedType reserved.column reserved.type property.type))

/-- The mapping of a property that repeats no reserved column. -/
def mapProperty (known : Universe) (limits : Limits) (object : DomainObject)
    (property : Property) : Except Cause ColumnMapping := do
  checkArray object.name property
  let reference ← classify known limits object.name property
  return ⟨some property,
    { name := columnName property reference.isSome
      isNullable := property.nullable
      isUpdatable := object.isUpdatable property.name
      isArray := property.type.isArray
      reference := reference }⟩

/-- The column of an entry of `unique`. -/
def uniqueColumn (object : DomainObject) (mappings : List ColumnMapping) (entry : String) :
    Except Cause String :=
  match mappings.find? fun mapping => mapping.stores entry with
  | some mapping => .ok mapping.column.name
  | none => .error (.configuration object.name none (.unknownUnique entry))

/-- The natural key of an object, given its reserved and its further columns. -/
def uniqueKey (object : DomainObject) (reserved further : List ColumnMapping) :
    Except Cause UniqueKey :=
  match object.decorations.unique with
  | some entries => do
    let columns ← entries.mapM (object.uniqueColumn (reserved ++ further))
    return ⟨entries, columns⟩
  | none => .ok ⟨further.map ColumnMapping.domainName, further.map (·.column.name)⟩

/-- The properties of an object that repeat no reserved column. -/
def furtherProperties (object : DomainObject) : List Property :=
  object.propertyList.filter fun property => !object.variant.isReserved property.name

end DomainObject

/-- The relationship between an object and its table. References are resolved among the known
objects, of which the object itself need not be one. -/
def derive (known : Universe) (limits : Limits) (object : DomainObject) :
    Except Cause Relationship := do
  object.checkDecorations
  let reserved ← object.variant.reserved.mapM object.mapReserved
  let further ← object.furtherProperties.mapM (object.mapProperty known limits)
  let unique ← object.uniqueKey reserved further
  return ⟨Text.snakeCase object.name, object.name, reserved ++ further, unique⟩

/-- The relationships of all known objects, in their order. The first object that breaks a rule is
refused. -/
def deriveAll (known : Universe) (limits : Limits) : Except Cause Relationships := do
  let relationships ← known.toList.mapM (derive known limits)
  return .ofList relationships

/-- The warnings that the derivation of the given objects gives, in their order. The first object
that breaks a rule is the last one looked at. -/
def warningsOf (known : Universe) (limits : Limits) : List DomainObject → List Warning
  | [] => []
  | object :: rest =>
    object.warnings ++
      match derive known limits object with
      | .ok _ => warningsOf known limits rest
      | .error _ => []

end DomainTables
