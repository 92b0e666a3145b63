import DomainTables.Text.Alphabetic
import DomainTables.Text.LetterCase

/-!
# Words of an identifier

An identifier is read as a sequence of words: every character that is neither a letter nor a digit
separates words, and so does a change of case inside a run of letters and digits (`wordsOf`). The
words are written back in the three conventions that tables, properties and types use: joined by
underscores (`snakeCase`), or with each word capitalized, the first one excepted (`camelCase`) or
not (`upperCamelCase`). Each convention is a function on characters, and on strings through them.
-/

namespace DomainTables.Text

/-- Puts a character in front of the first word of a list. -/
def pushLetter (c : Char) : List (List Char) → List (List Char)
  | [] => [[c]]
  | word :: words => (c :: word) :: words

/-- The runs of letters and digits of a text, in order. Separators in a row leave empty runs. -/
def runsOf : List Char → List (List Char)
  | [] => []
  | c :: rest => if isAlphanumeric c then pushLetter c (runsOf rest) else [] :: runsOf rest

/-- What the letters of the present word so far say about its case. -/
inductive Casing where
  /-- No letter with a case has been read since the word began. -/
  | undecided
  /-- The last letter with a case was small. -/
  | lower
  /-- The last letter with a case was a capital. -/
  | upper
deriving DecidableEq, Repr

/-- The casing of a word after one more character. Digits leave it as it is. -/
def Casing.after (casing : Casing) (c : Char) : Casing :=
  if isLower c then .lower else if isUpper c then .upper else casing

/-- Splits a run of letters and digits at changes of case, where `casing` describes the word that
the run continues. A word ends after a small letter that a capital follows (`home|Station`), and
before the last of several capitals that a small letter follows (`HTTP|Server`). In that second
case the continued word gets nothing more, which the empty first word says. -/
def splitRun (casing : Casing) : List Char → List (List Char)
  | [] => []
  | [c] => [[c]]
  | c :: next :: rest =>
    if casing.after c = .lower ∧ isUpper next then
      [c] :: splitRun .undecided (next :: rest)
    else if casing = .upper ∧ isUpper c ∧ isLower next then
      [] :: pushLetter c (splitRun .undecided (next :: rest))
    else
      pushLetter c (splitRun (casing.after c) (next :: rest))

/-- The words of a text in their own spelling. -/
def spelledWords (text : List Char) : List (List Char) :=
  (runsOf text).flatMap (splitRun .undecided)

/-- A word in small letters. A capital sigma at its end becomes a final sigma. -/
def lowerWord : List Char → List Char
  | [] => []
  | c :: rest => (if c = 'Σ' ∧ rest = [] then ['ς'] else lowerChar c) ++ lowerWord rest

/-- A word with its first letter a capital and the others small. -/
def capitalized : List Char → List Char
  | [] => []
  | c :: rest => upperChar c ++ lowerWord rest

/-- The words of a text in small letters. -/
def wordsOf (text : List Char) : List (List Char) :=
  (spelledWords text).map lowerWord

/-- Small words joined by underscores. -/
def snakeChars (text : List Char) : List Char :=
  ['_'].intercalate (wordsOf text)

/-- Capitalized words without a separator. -/
def upperCamelChars (text : List Char) : List Char :=
  (spelledWords text).flatMap capitalized

/-- The first word small, the others capitalized, without a separator. -/
def camelChars (text : List Char) : List Char :=
  match spelledWords text with
  | [] => []
  | first :: others => lowerWord first ++ others.flatMap capitalized

/-- The words of an identifier in small letters: `HomeAddress` has `home` and `address`. -/
def words (text : String) : List String :=
  (wordsOf text.toList).map String.ofList

/-- An identifier as tables and columns spell it: `train_engineer`. -/
def snakeCase (text : String) : String :=
  String.ofList (snakeChars text.toList)

/-- An identifier as properties spell it: `trainEngineer`. -/
def camelCase (text : String) : String :=
  String.ofList (camelChars text.toList)

/-- An identifier as domain objects spell it: `TrainEngineer`. -/
def upperCamelCase (text : String) : String :=
  String.ofList (upperCamelChars text.toList)

end DomainTables.Text
