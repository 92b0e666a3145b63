import DomainTables.Json.Token
import DomainTables.Json.Value

/-!
# Reading JSON

The second step of reading a JSON text puts its tokens together into a value. The machine for that
(`Builder.step`) keeps the arrays and objects that are not closed yet in a list, innermost first,
and knows what may come next. Where a part is well formed and cannot be taken in, the value has
`Json.unreadable` in its place: a text with half a character in it, an object with such a name, a
number that is not finite as a double, and an array or object that is nested deeper than `maxDepth`.
-/

namespace DomainTables.Json

/-- How deep arrays and objects that are taken in may be nested. -/
def maxDepth : Nat := 127

/-- The fields of an object so far, in reverse. They are missing once a name could not be taken
in. -/
abbrev OpenFields := Option (List (String × Json))

/-- An array or object that is not closed yet, with what it holds so far. -/
inductive Frame where
  /-- An array, with its items in reverse. -/
  | array (items : List Json)
  /-- An object that waits for the value of the field `key`. -/
  | object (fields : OpenFields) (key : Option String)

/-- What may come next within the open arrays and objects. -/
inductive Builder where
  /-- A value. -/
  | value (frames : List Frame)
  /-- The first item of an array, or its end. -/
  | itemOrEnd (frames : List Frame)
  /-- The first field of an object, or its end. -/
  | fieldOrEnd (frames : List Frame)
  /-- A further field of an object that has some fields already. -/
  | field (frames : List Frame) (fields : OpenFields)
  /-- The colon after the name of a field. -/
  | colon (frames : List Frame) (fields : OpenFields) (key : Option String)
  /-- What follows a complete value. -/
  | after (frames : List Frame) (value : Json)

/-- The fields of an object with one more. -/
def OpenFields.add : OpenFields → Option String → Json → OpenFields
  | some fields, some key, value => some ((key, value) :: fields)
  | _, _, _ => none

/-- The object that some fields make up. -/
def OpenFields.close : OpenFields → Json
  | some fields => .object fields.reverse
  | none => .unreadable

namespace Builder

/-- Goes on after a value without parts. -/
def leaf (frames : List Frame) (value : Json) : Option Builder :=
  some (.after frames value)

/-- Goes on after an array or object. -/
def node (frames : List Frame) (value : Json) : Option Builder :=
  some (.after frames (if frames.length < maxDepth then value else .unreadable))

/-- Takes a token where a value has to come. -/
def stepValue (frames : List Frame) : Token → Option Builder
  | .null => leaf frames .null
  | .bool b => leaf frames (.bool b)
  | .number numeral => leaf frames (if numeral.isFinite then .number numeral else .unreadable)
  | .string (some text) => leaf frames (.string text)
  | .string none => leaf frames .unreadable
  | .openArray => some (.itemOrEnd frames)
  | .openObject => some (.fieldOrEnd frames)
  | _ => none

/-- Takes a token after a complete value. -/
def stepAfter (frames : List Frame) (value : Json) (token : Token) : Option Builder :=
  match frames, token with
  | .array items :: frames, .comma => some (.value (.array (value :: items) :: frames))
  | .array items :: frames, .closeArray => node frames (.array (value :: items).reverse)
  | .object fields key :: frames, .comma => some (.field frames (fields.add key value))
  | .object fields key :: frames, .closeObject => node frames (fields.add key value).close
  | _, _ => none

/-- Takes one token. -/
def step : Builder → Token → Option Builder
  | .value frames, token => stepValue frames token
  | .itemOrEnd frames, .closeArray => node frames (.array [])
  | .itemOrEnd frames, token => stepValue (.array [] :: frames) token
  | .fieldOrEnd frames, .closeObject => node frames (.object [])
  | .fieldOrEnd frames, .string key => some (.colon frames (some []) key)
  | .fieldOrEnd _, _ => none
  | .field frames fields, .string key => some (.colon frames fields key)
  | .field _ _, _ => none
  | .colon frames fields key, .colon => some (.value (.object fields key :: frames))
  | .colon .., _ => none
  | .after frames complete, token => stepAfter frames complete token

/-- The value that is complete once all tokens are taken. -/
def finish? : Builder → Option Json
  | .after [] complete => some complete
  | _ => none

end Builder

/-- The value that a list of tokens spells. -/
def ofTokens? (tokens : List Token) : Option Json := do
  let builder ← tokens.foldlM Builder.step (.value [])
  builder.finish?

/-- The value of a JSON text, or `none` if the text is not one. -/
def parse? (text : String) : Option Json := do
  let tokens ← tokens? text.toList
  ofTokens? tokens

end DomainTables.Json
