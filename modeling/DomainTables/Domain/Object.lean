import DomainTables.Keyed

/-!
# Domain objects

A domain object describes one concept of an application: a literal (a value without identity), an
entity (identified, and changing over time) or an event (something that occurred, never changed).
It declares typed properties, and decorations that say which properties form its natural key and
which may be updated. Types may embed other domain objects by name and variant.
-/

namespace DomainTables

/-- The rules of identity that a domain object follows. -/
inductive Variant where
  /-- A value, identified by all of its properties and never updated. -/
  | literal
  /-- A thing with an identity of its own, which may change over time. -/
  | entity
  /-- An occurrence, identified by a natural key and never changed. -/
  | event
deriving DecidableEq, Repr

/-- The variant as a word in a sentence. -/
def Variant.word : Variant → String
  | .literal => "literal"
  | .entity => "entity"
  | .event => "event"

/-- Tells whether objects of the variant carry a uuid by which others refer to them. -/
def Variant.isIdentifiable : Variant → Bool
  | .literal => false
  | .entity => true
  | .event => true

/-- A domain object as types and columns point to it. -/
structure ObjectReference where
  /-- The name of the domain object. -/
  name : String
  /-- Its variant. -/
  variant : Variant
deriving DecidableEq, Repr

/-- The type of a property. -/
inductive PropertyType where
  /-- A text. -/
  | string
  /-- A number. -/
  | number
  /-- A truth value. -/
  | boolean
  /-- A point in time. -/
  | date
  /-- One of a fixed set of texts. -/
  | enum (values : List String)
  /-- A nested domain object. -/
  | reference (target : ObjectReference)
  /-- A list of elements of one type. -/
  | array (element : PropertyType)
deriving DecidableEq, Repr

namespace PropertyType

/-- The type as messages spell it. -/
def display : PropertyType → String
  | .string => "string"
  | .number => "number"
  | .boolean => "boolean"
  | .date => "date"
  | .enum _ => "enum"
  | .reference target => target.name
  | .array element => element.display ++ "[]"

/-- The type of the elements, if the type is an array. -/
def element? : PropertyType → Option PropertyType
  | .array element => some element
  | _ => none

/-- Tells whether the type is an array. -/
def isArray : PropertyType → Bool
  | .array _ => true
  | _ => false

end PropertyType

/-- A property of a domain object. -/
structure Property where
  /-- The name, in lower camel case by custom. -/
  name : String
  /-- The type. -/
  type : PropertyType
  /-- Whether the property may be null. -/
  nullable : Bool
  /-- Whether the property must be given when an object is created. -/
  required : Bool
deriving DecidableEq, Repr

namespace Property

/-- A property that is required and not nullable. -/
def ofType (name : String) (type : PropertyType) : Property :=
  ⟨name, type, false, true⟩

/-- The property made nullable, and with that no longer required. -/
def asNullable (property : Property) : Property :=
  { property with nullable := true, required := false }

end Property

/-- The modifiers of a domain object. What is not set differs from what is set to nothing. -/
structure Decorations where
  /-- The properties that form the natural key. -/
  unique : Option (List String)
  /-- The properties that may change after creation. -/
  updatable : Option (List String)
  /-- Another name for the object's table in queries. -/
  alternativeName : Option String
deriving DecidableEq, Repr

/-- No modifiers. -/
def Decorations.none : Decorations :=
  ⟨.none, .none, .none⟩

/-- Declared properties under their keys. A key need not be the name of the property under it. -/
abbrev Properties := Keyed (Prod.fst : String × Property → String)

/-- One concept of an application. -/
structure DomainObject where
  /-- The name, in upper camel case by custom. -/
  name : String
  /-- The rules of identity that the object follows. -/
  variant : Variant
  /-- The declared properties, in the order of their declaration. -/
  properties : Properties
  /-- The modifiers. -/
  decorations : Decorations
deriving DecidableEq

namespace DomainObject

/-- A domain object without properties and modifiers. -/
def bare (name : String) (variant : Variant) : DomainObject :=
  ⟨name, variant, .empty, .none⟩

/-- The object with a further property under the property's own name. -/
def addProperty (object : DomainObject) (property : Property) : DomainObject :=
  { object with properties := object.properties.insert (property.name, property) }

/-- The object as types and columns point to it. -/
def reference (object : DomainObject) : ObjectReference :=
  ⟨object.name, object.variant⟩

/-- The property under a key. -/
def property? (object : DomainObject) (key : String) : Option Property :=
  (object.properties.find? key).map (·.2)

/-- The declared properties in order. -/
def propertyList (object : DomainObject) : List Property :=
  object.properties.toList.map (·.2)

/-- The entries of `updatable`, none if it is not set. -/
def updatableNames (object : DomainObject) : List String :=
  object.decorations.updatable.getD []

/-- Tells whether `updatable` names a property. -/
def isUpdatable (object : DomainObject) (property : String) : Bool :=
  object.updatableNames.contains property

end DomainObject

end DomainTables
