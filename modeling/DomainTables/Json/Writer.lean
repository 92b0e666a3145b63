import DomainTables.Json.Value

/-!
# Writing JSON

Values are written without blanks. In quotation marks, only what has to be escaped is escaped:
quotation marks, backslashes and control characters, for which the shortest escape is taken. A value
that cannot be taken in is written as half a character, which cannot be taken in either.
-/

namespace DomainTables.Json

/-- A hexadecimal digit, in small letters. -/
def hexDigit (digit : Nat) : Char :=
  if digit < 10 then Char.ofNat ('0'.toNat + digit) else Char.ofNat ('a'.toNat + (digit - 10))

/-- The characters that stand for one character in quotation marks. -/
def escapedChar (c : Char) : List Char :=
  if c = '"' then ['\\', '"']
  else if c = '\\' then ['\\', '\\']
  else if c = '\x08' then ['\\', 'b']
  else if c = '\x0c' then ['\\', 'f']
  else if c = '\n' then ['\\', 'n']
  else if c = '\r' then ['\\', 'r']
  else if c = '\t' then ['\\', 't']
  else if c < ' ' then
    ['\\', 'u', '0', '0', hexDigit (c.toNat / 16), hexDigit (c.toNat % 16)]
  else [c]

/-- A text in quotation marks. -/
def writeString (text : String) : List Char :=
  '"' :: text.toList.flatMap escapedChar ++ ['"']

mutual

/-- The characters of a value. -/
def write : Json → List Char
  | .null => "null".toList
  | .bool true => "true".toList
  | .bool false => "false".toList
  | .number numeral => numeral.spelling
  | .string text => writeString text
  | .array [] => ['[', ']']
  | .array (item :: items) => '[' :: write item ++ writeItems items ++ [']']
  | .object [] => ['\x7b', '\x7d']
  | .object ((key, value) :: fields) =>
    '\x7b' :: writeString key ++ ':' :: write value ++ writeFields fields ++ ['\x7d']
  | .unreadable => "\"\\ud800\"".toList

/-- The characters of the further items of an array. -/
def writeItems : List Json → List Char
  | [] => []
  | item :: items => ',' :: write item ++ writeItems items

/-- The characters of the further fields of an object. -/
def writeFields : List (String × Json) → List Char
  | [] => []
  | (key, value) :: fields =>
    ',' :: writeString key ++ ':' :: write value ++ writeFields fields

end

/-- The text of a value. -/
def render (value : Json) : String :=
  String.ofList value.write

end DomainTables.Json
