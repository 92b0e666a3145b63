import DomainTables.Json.Value

/-!
# Fields of records

Metadata is written as records: JSON objects with known fields. Fields that are not known are passed
over, a known field must not be repeated, and each field has its own rule for being left out. A list
of the values of the fields is read as the record too (`fields?`), as is an object around a name
where one of several names has to come (`tag?`).
-/

namespace DomainTables.Metadata

/-- The fields of a record. -/
abbrev Fields := List (String × Json)

/-- The text that a value is. -/
def text? : Json → Option String
  | .string text => some text
  | _ => none

/-- The truth value that a value is. -/
def bool? : Json → Option Bool
  | .bool b => some b
  | _ => none

/-- The elements of the list that a value is, each read by `element?`. -/
def list? {α : Type} (element? : Json → Option α) : Json → Option (List α)
  | .array items => items.mapM element?
  | _ => none

/-- The entries of the map that a value is. -/
def entries? : Json → Option Fields
  | .object entries => some entries
  | _ => none

/-- The fields of the record that a value is. Instead of an object, it may be a list of the values
of the fields in their order, of which those of the fields `trailing` may be left out at the end. -/
def fields? (leading trailing : List String) : Json → Option Fields
  | .object fields => some fields
  | .array items =>
    if leading.length ≤ items.length ∧ items.length ≤ (leading ++ trailing).length then
      some ((leading ++ trailing).zip items)
    else none
  | _ => none

/-- The name that a value is: a text, or an object whose only field has the name and holds nothing.
Where the value was held back, nothing may also be an empty object. -/
def tag? (held : Bool) : Json → Option String
  | .string name => some name
  | .object [(name, .null)] => some name
  | .object [(name, .object [])] => if held then some name else none
  | _ => none

namespace Fields

/-- All values of a field. -/
def values (fields : Fields) (name : String) : List Json :=
  (fields.filter fun field => field.1 == name).map (·.2)

/-- The value of a field that may be left out, but not repeated. -/
def single? (fields : Fields) (name : String) : Option (Option Json) :=
  match fields.values name with
  | [] => some none
  | [value] => some (some value)
  | _ => none

/-- A field that has to be there. -/
def required? {α : Type} (fields : Fields) (name : String) (read? : Json → Option α) :
    Option α := do
  let value ← fields.single? name
  value.bind read?

/-- A field that means `default` if it is left out. -/
def withDefault? {α : Type} (fields : Fields) (name : String) (default : α)
    (read? : Json → Option α) : Option α := do
  match ← fields.single? name with
  | none => some default
  | some value => read? value

/-- A field that may be left out or null. -/
def optional? {α : Type} (fields : Fields) (name : String) (read? : Json → Option α) :
    Option (Option α) := do
  match ← fields.single? name with
  | none => some none
  | some .null => some none
  | some value => (read? value).map some

end Fields

/-- A list of texts as a value. -/
def ofTexts (texts : List String) : Json :=
  .array (texts.map .string)

/-- A value that may be absent, as null if it is. -/
def ofOption {α : Type} (write : α → Json) : Option α → Json
  | some x => write x
  | none => .null

end DomainTables.Metadata
