import DomainTables.Json.Numeral

/-!
# JSON values

Metadata is exchanged as JSON. Objects keep the order and the repetitions of their fields, since
both matter to whoever reads them, and numerals are kept as they are spelled. A text may have the
form of JSON and still hold parts to which no meaning is given; they do no harm where they are
passed over, so they are values too (`Json.unreadable`).
-/

namespace DomainTables

/-- A JSON value. -/
inductive Json where
  /-- The absence of a value. -/
  | null
  /-- A truth value. -/
  | bool (value : Bool)
  /-- A number. -/
  | number (numeral : Numeral)
  /-- A text. -/
  | string (text : String)
  /-- A list of values. -/
  | array (items : List Json)
  /-- Named values, in order and possibly with repetitions. -/
  | object (fields : List (String × Json))
  /-- A value that is well formed and cannot be taken in: a text with half a character in it, an
  object with such a name, a number that is too large, or what is nested too deep. -/
  | unreadable

namespace Json

mutual

/-- Tells whether a value can be taken in with all its parts. -/
def isReadable : Json → Bool
  | .array items => itemsReadable items
  | .object fields => fieldsReadable fields
  | .unreadable => false
  | _ => true

/-- Tells whether all items of an array can be taken in. -/
def itemsReadable : List Json → Bool
  | [] => true
  | item :: items => item.isReadable && itemsReadable items

/-- Tells whether the values of all fields of an object can be taken in. -/
def fieldsReadable : List (String × Json) → Bool
  | [] => true
  | (_, value) :: fields => value.isReadable && fieldsReadable fields

end

end Json

end DomainTables
