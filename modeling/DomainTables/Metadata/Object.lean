import DomainTables.Domain.Object
import DomainTables.Json.Reader
import DomainTables.Json.Writer
import DomainTables.Metadata.Field

/-!
# Domain objects as JSON

The written form of domain objects, in both directions: each type has a function that writes a value
(`toJson`) and one that reads it (`ofJson?`). Reading is more liberal than writing. It takes fields
in any order, some of which may be left out, and passes over fields that are not known, whatever
they hold. Records may be lists of the values of their fields, and names may stand in objects of
their own.

What a type is of can only be read once the kind of the type is known. If it comes first, it is held
back, and what was held back is read more liberally still (`PropertyType.holdsBack`).
-/

namespace DomainTables

open Metadata

namespace Variant

/-- The written form of a variant. -/
def toJson : Variant → Json
  | .literal => .string "LITERAL"
  | .entity => .string "ENTITY"
  | .event => .string "EVENT"

/-- The variant of a name. -/
def ofName? : String → Option Variant
  | "LITERAL" => some .literal
  | "ENTITY" => some .entity
  | "EVENT" => some .event
  | _ => none

/-- The variant of a written form, which may have been held back. -/
def ofJson? (held : Bool) (value : Json) : Option Variant :=
  (tag? held value).bind ofName?

end Variant

namespace ObjectReference

/-- The written form of a reference. -/
def toJson (reference : ObjectReference) : Json :=
  .object [("name", .string reference.name), ("variant", reference.variant.toJson)]

/-- The reference of a written form, which may have been held back. -/
def ofJson? (held : Bool) (value : Json) : Option ObjectReference := do
  let fields ← fields? ["name", "variant"] [] value
  let name ← fields.required? "name" text?
  let variant ← fields.required? "variant" (Variant.ofJson? held)
  return ⟨name, variant⟩

end ObjectReference

namespace PropertyType

/-- The written form of a type: its kind, and what it is of. -/
def toJson : PropertyType → Json
  | .string => .object [("kind", .string "string")]
  | .number => .object [("kind", .string "number")]
  | .boolean => .object [("kind", .string "boolean")]
  | .date => .object [("kind", .string "date")]
  | .enum values => .object [("kind", .string "enum"), ("of", ofTexts values)]
  | .reference target => .object [("kind", .string "reference"), ("of", target.toJson)]
  | .array element => .object [("kind", .string "array"), ("of", element.toJson)]

/-- A type that is of nothing, given what it is said to be of. -/
def plain? (type : PropertyType) : Option Json → Option PropertyType
  | none => some type
  | some .null => some type
  | some _ => none

/-- The names of the kinds, by their numbers. -/
def kinds : List String :=
  ["string", "number", "boolean", "date", "enum", "reference", "array"]

/-- The kind in a list of a kind and what it is of. Where the list was held back, the kind may be
given by its number. -/
def listedKind? (held : Bool) : Json → Option String
  | .number numeral => if held then numeral.natural?.bind fun n => kinds[n]? else none
  | kind => tag? held kind

/-- Tells whether the field `of` comes before the field `kind`. All of it is taken in then and held
back until the kind is known, even what is passed over later. -/
def holdsBack (fields : Fields) : Bool :=
  (fields.find? fun field => field.1 == "kind" || field.1 == "of").any fun field => field.1 == "of"

/-- The type of a kind, given what it is of, and the type that this is if it is one. -/
def ofKind? (held : Bool) (kind : String) (content : Option Json) (element : Option PropertyType) :
    Option PropertyType :=
  match kind with
  | "string" => plain? .string content
  | "number" => plain? .number content
  | "boolean" => plain? .boolean content
  | "date" => plain? .date content
  | "enum" => (content.bind (list? text?)).map .enum
  | "reference" => (content.bind (ObjectReference.ofJson? held)).map .reference
  | "array" => element.map .array
  | _ => none

mutual

/-- The type of a written form, which may have been held back. -/
def ofJson? (held : Bool) : Json → Option PropertyType
  | .object fields => do
    let kind ← Fields.required? fields "kind" (tag? held)
    let content ← Fields.single? fields "of"
    guard (!holdsBack fields || content.all Json.isReadable)
    let held := holdsBack fields || held
    ofKind? held kind content (elementOf? held fields)
  | .array [kind, content] => do
    let kind ← listedKind? held kind
    ofKind? held kind (some content) (ofJson? held content)
  | _ => none

/-- The type that the first field `of` holds. -/
def elementOf? (held : Bool) : List (String × Json) → Option PropertyType
  | [] => none
  | (name, value) :: rest => if name = "of" then ofJson? held value else elementOf? held rest

end

end PropertyType

namespace Property

/-- The written form of a property. -/
def toJson (property : Property) : Json :=
  .object [
    ("name", .string property.name),
    ("type", property.type.toJson),
    ("nullable", .bool property.nullable),
    ("required", .bool property.required)]

/-- The property of a written form. -/
def ofJson? (value : Json) : Option Property := do
  let fields ← fields? ["name", "type"] ["nullable", "required"] value
  let name ← fields.required? "name" text?
  let type ← fields.required? "type" (PropertyType.ofJson? false)
  let nullable ← fields.withDefault? "nullable" false bool?
  let required ← fields.withDefault? "required" false bool?
  return ⟨name, type, nullable, required⟩

end Property

namespace Properties

/-- The written form of properties under their keys. -/
def toJson (properties : Properties) : Json :=
  .object (properties.toList.map fun (key, property) => (key, property.toJson))

/-- The properties of a written form. A key that is repeated keeps its place and takes the last
property. -/
def ofJson? (value : Json) : Option Properties := do
  let entries ← entries? value
  let properties ← entries.mapM fun (key, value) => (Property.ofJson? value).map (key, ·)
  return .ofList properties

end Properties

namespace Decorations

/-- The written form of decorations. -/
def toJson (decorations : Decorations) : Json :=
  .object [
    ("unique", ofOption ofTexts decorations.unique),
    ("updatable", ofOption ofTexts decorations.updatable),
    ("alias", ofOption .string decorations.alternativeName)]

/-- The decorations of a written form. -/
def ofJson? (value : Json) : Option Decorations := do
  let fields ← fields? [] ["unique", "updatable", "alias"] value
  let unique ← fields.optional? "unique" (list? text?)
  let updatable ← fields.optional? "updatable" (list? text?)
  let alternativeName ← fields.optional? "alias" text?
  return ⟨unique, updatable, alternativeName⟩

end Decorations

namespace DomainObject

/-- The written form of a domain object. -/
def toJson (object : DomainObject) : Json :=
  .object [
    ("name", .string object.name),
    ("variant", object.variant.toJson),
    ("properties", object.properties.toJson),
    ("decorations", object.decorations.toJson)]

/-- The domain object of a written form. -/
def ofJson? (value : Json) : Option DomainObject := do
  let fields ← fields? ["name", "variant", "properties"] ["decorations"] value
  let name ← fields.required? "name" text?
  let variant ← fields.required? "variant" (Variant.ofJson? false)
  let properties ← fields.required? "properties" Properties.ofJson?
  let decorations ← fields.withDefault? "decorations" .none Decorations.ofJson?
  return ⟨name, variant, properties, decorations⟩

end DomainObject

namespace Metadata

/-- The text of a list of domain objects. -/
def writeObjects (objects : List DomainObject) : String :=
  Json.render (.array (objects.map DomainObject.toJson))

/-- The domain objects of a text. -/
def readObjects? (text : String) : Option (List DomainObject) := do
  let value ← Json.parse? text
  list? DomainObject.ofJson? value

end Metadata

end DomainTables
