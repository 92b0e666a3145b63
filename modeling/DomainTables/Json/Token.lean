import DomainTables.Json.Numeral

/-!
# Tokens of JSON text

A JSON text is read in two steps, and this is the first: its characters are gathered into tokens by
a machine that takes one character at a time (`Scanner.step`). Blanks separate tokens and mean
nothing. Words outside of quotation marks are the three literal names and the numerals. In quotation
marks, control characters have to be escaped, and an escape by number means a character, or half of
one that the next escape has to complete. What stands in quotation marks is therefore gathered as
numbers, which are put together into characters at the end (`characters?`).
-/

namespace DomainTables.Json

/-- The smallest meaningful part of a JSON text. -/
inductive Token where
  /-- The beginning of an array. -/
  | openArray
  /-- The end of an array. -/
  | closeArray
  /-- The beginning of an object. -/
  | openObject
  /-- The end of an object. -/
  | closeObject
  /-- What separates items and fields. -/
  | comma
  /-- What separates the name of a field from its value. -/
  | colon
  /-- The absence of a value. -/
  | null
  /-- A truth value. -/
  | bool (value : Bool)
  /-- A number. -/
  | number (numeral : Numeral)
  /-- A text, which is missing if half a character stands alone in it. -/
  | string (text : Option String)
deriving DecidableEq

/-- Tells whether a character is a blank. -/
def isBlank (c : Char) : Bool :=
  c == ' ' || c == '\t' || c == '\n' || c == '\r'

/-- The token that a character is by itself. -/
def punctuation? : Char → Option Token
  | '[' => some .openArray
  | ']' => some .closeArray
  | '\x7b' => some .openObject
  | '\x7d' => some .closeObject
  | ',' => some .comma
  | ':' => some .colon
  | _ => none

/-- The token that a word is. -/
def wordToken? (word : List Char) : Option Token :=
  if word = "null".toList then some .null
  else if word = "true".toList then some (.bool true)
  else if word = "false".toList then some (.bool false)
  else if valid : isNumeral word then some (.number ⟨word, valid⟩)
  else none

/-- The character that a letter after a backslash means. -/
def escaped? : Char → Option Char
  | '"' => some '"'
  | '\\' => some '\\'
  | '/' => some '/'
  | 'b' => some '\x08'
  | 'f' => some '\x0c'
  | 'n' => some '\n'
  | 'r' => some '\r'
  | 't' => some '\t'
  | _ => none

/-- The value of a hexadecimal digit. -/
def hexValue? (c : Char) : Option Nat :=
  if '0' ≤ c ∧ c ≤ '9' then some (c.toNat - '0'.toNat)
  else if 'a' ≤ c ∧ c ≤ 'f' then some (c.toNat - 'a'.toNat + 10)
  else if 'A' ≤ c ∧ c ≤ 'F' then some (c.toNat - 'A'.toNat + 10)
  else none

/-- Tells whether a number is the first half of a character. -/
def isHighHalf (point : Nat) : Bool :=
  0xD800 ≤ point && point < 0xDC00

/-- Tells whether a number is the second half of a character. -/
def isLowHalf (point : Nat) : Bool :=
  0xDC00 ≤ point && point < 0xE000

/-- The number of the character that two halves make up. -/
def joinHalves (high low : Nat) : Nat :=
  0x10000 + (high - 0xD800) * 0x400 + (low - 0xDC00)

/-- The characters of a sequence of numbers, in which a first half has to be followed by a second
half, and a second half has to follow a first half. -/
def characters? : List Nat → Option (List Char)
  | [] => some []
  | [point] => if isHighHalf point || isLowHalf point then none else some [Char.ofNat point]
  | point :: next :: rest =>
    if isHighHalf point && isLowHalf next then
      (characters? rest).map (Char.ofNat (joinHalves point next) :: ·)
    else if isHighHalf point || isLowHalf point then none
    else (characters? (next :: rest)).map (Char.ofNat point :: ·)

/-- Where the machine stands. What stands in quotation marks so far is kept in reverse, as numbers
of characters and of halves of characters. -/
inductive Scanner where
  /-- Between tokens. -/
  | between
  /-- In a word, after some characters, which are kept in reverse. -/
  | word (seen : List Char)
  /-- In quotation marks. -/
  | text (seen : List Nat)
  /-- After a backslash. -/
  | escape (seen : List Nat)
  /-- In the number of an escape, of which `point` is known and `missing` more digits come after
  the next one. -/
  | code (seen : List Nat) (point missing : Nat)

namespace Scanner

/-- Takes a character outside of quotation marks that ends what came before. -/
def restart (c : Char) : Scanner × List Token :=
  if isBlank c then (.between, [])
  else if c = '"' then (.text [], [])
  else match punctuation? c with
    | some token => (.between, [token])
    | none => (.word [c], [])

/-- Tells whether a character ends a word. -/
def endsWord (c : Char) : Bool :=
  isBlank c || c == '"' || (punctuation? c).isSome

/-- Takes one character, and yields the tokens that it completes. -/
def step : Scanner → Char → Option (Scanner × List Token)
  | .between, c => some (restart c)
  | .word seen, c =>
    if endsWord c then do
      let token ← wordToken? seen.reverse
      let (scanner, tokens) := restart c
      return (scanner, token :: tokens)
    else some (.word (c :: seen), [])
  | .text seen, c =>
    if c = '"' then
      some (.between, [.string ((characters? seen.reverse).map String.ofList)])
    else if c = '\\' then some (.escape seen, [])
    else if c < ' ' then none
    else some (.text (c.toNat :: seen), [])
  | .escape seen, c =>
    if c = 'u' then some (.code seen 0 3, [])
    else (escaped? c).map fun meant => (.text (meant.toNat :: seen), [])
  | .code seen point missing, c => do
    let digit ← hexValue? c
    let point := 16 * point + digit
    match missing with
    | missing + 1 => return (.code seen point missing, [])
    | 0 => return (.text (point :: seen), [])

/-- The tokens that the end of the text completes. -/
def finish : Scanner → Option (List Token)
  | .between => some []
  | .word seen => (wordToken? seen.reverse).map ([·])
  | _ => none

/-- The tokens of a text from where the machine stands. -/
def run : Scanner → List Char → Option (List Token)
  | scanner, [] => scanner.finish
  | scanner, c :: rest => do
    let (scanner, tokens) ← scanner.step c
    let others ← scanner.run rest
    return tokens ++ others

end Scanner

/-- The tokens of a JSON text. -/
def tokens? (text : List Char) : Option (List Token) :=
  Scanner.between.run text

end DomainTables.Json
