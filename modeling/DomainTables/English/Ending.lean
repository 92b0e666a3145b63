import DomainTables.Text.Alphabetic
import DomainTables.Text.LetterCase

/-!
# Endings of words

A rule of inflection looks at the end of a word: it asks for one of several stems followed by one of
several endings, keeps the stem and puts its own ending in place of the one found (`EndingRule`).
Stems are sequences of tests on single letters, and some of them ask that a word begin where they
begin. All tests ignore the case of letters. Among the stems that fit, the one that begins
furthest to the left is taken (`EndingRule.split?`).
-/

namespace DomainTables.English

open DomainTables.Text

/-- Tells whether a character is the given small letter in either case. The long `s` and the sign
for kelvin count as an `s` and a `k`. -/
def isLetter (letter c : Char) : Bool :=
  c == letter || upperChar letter == [c] || (letter == 's' && c == 'ſ') ||
    (letter == 'k' && c == '\u212A')

/-- A test on one character of a stem. -/
inductive LetterTest where
  /-- The character is this letter. -/
  | is (letter : Char)
  /-- The character is one of these letters. -/
  | among (letters : List Char)
  /-- The character is none of these letters, and need not be a letter. -/
  | except (letters : List Char)
  /-- The character is outside of words, as punctuation and spaces are. -/
  | outsideWord
deriving DecidableEq, Repr

/-- Tells whether a character passes a test. -/
def LetterTest.holds : LetterTest → Char → Bool
  | .is letter, c => isLetter letter c
  | .among letters, c => letters.any (isLetter · c)
  | .except letters, c => !letters.any (isLetter · c)
  | .outsideWord, c => !isWordCharacter c

/-- Where a stem may begin. -/
inductive Edge where
  /-- Anywhere in the text. -/
  | anywhere
  /-- At the beginning of a word within the text. -/
  | wordStart
  /-- At the beginning of the text. -/
  | textStart
deriving DecidableEq, Repr

/-- Tells whether a stem with this edge may follow the characters `before`, nearest first. -/
def Edge.admits : Edge → List Char → Bool
  | .anywhere, _ => true
  | .wordStart, before => !before.head?.any isWordCharacter
  | .textStart, before => before.isEmpty

/-- The part of a word that a rule keeps. -/
structure Stem where
  /-- Where the stem may begin. -/
  edge : Edge
  /-- The tests that its characters pass, one for each. -/
  tests : List LetterTest
deriving DecidableEq, Repr

/-- The tests for the letters of a text. -/
def spelled (letters : String) : List LetterTest :=
  letters.toList.map .is

/-- A stem of given letters that may begin anywhere. -/
def Stem.plain (letters : String) : Stem :=
  ⟨.anywhere, spelled letters⟩

/-- A stem of given letters with which a word begins. -/
def Stem.whole (letters : String) : Stem :=
  ⟨.wordStart, spelled letters⟩

/-- A rule that keeps a stem and replaces what follows it. -/
structure EndingRule where
  /-- The stems that the rule applies to. -/
  stems : List Stem
  /-- The endings, one of which follows the stem and closes the text. -/
  endings : List String
  /-- The ending that the rule gives the stem. -/
  replacement : String
deriving DecidableEq, Repr

/-- A text taken apart at a rule's stem, without the ending. -/
structure EndingRule.Split where
  /-- The characters in front of the stem. -/
  before : List Char
  /-- The characters of the stem. -/
  stem : List Char
deriving DecidableEq, Repr

/-- The first characters of a text and the others, if the first ones pass the tests. -/
def matchTests : List LetterTest → List Char → Option (List Char × List Char)
  | [], text => some ([], text)
  | _ :: _, [] => none
  | test :: tests, c :: rest =>
    if test.holds c then
      (matchTests tests rest).map fun (taken, left) => (c :: taken, left)
    else none

/-- The stem with which `text` begins and after which one of the rule's endings closes it, where
`before` is what precedes `text`, nearest first. -/
def EndingRule.stemAt? (rule : EndingRule) (before text : List Char) : Option (List Char) :=
  rule.stems.findSome? fun stem =>
    if stem.edge.admits before then
      match matchTests stem.tests text with
      | some (taken, left) =>
        if rule.endings.any fun ending => matchTests (spelled ending) left == some (left, []) then
          some taken
        else none
      | none => none
    else none

/-- Looks for the rule's stem in `text` from left to right, after the characters `before` (nearest
first). -/
def EndingRule.splitFrom? (rule : EndingRule) (before : List Char) :
    List Char → Option EndingRule.Split
  | [] => (rule.stemAt? before []).map (⟨before.reverse, ·⟩)
  | c :: rest =>
    match rule.stemAt? before (c :: rest) with
    | some stem => some ⟨before.reverse, stem⟩
    | none => rule.splitFrom? (c :: before) rest

/-- Takes a text apart at the rule's stem, which is `none` if the rule does not apply. -/
def EndingRule.split? (rule : EndingRule) (text : List Char) : Option EndingRule.Split :=
  rule.splitFrom? [] text

end DomainTables.English
