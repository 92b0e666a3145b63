/-!
# Numerals in JSON

A numeral is kept as it is spelled, and what it stands for is found out on demand: the natural
number, if it is one (`Numeral.natural?`), or whether the number is finite once it is taken for a
double (`Numeral.isFinite`). For the latter the digits that fit into 64 bits are multiplied by a
power of ten (`Decimal`). Both factors are rounded to doubles, and so is their product, which must
not become infinite.
-/

namespace DomainTables

/-- The rest of a text after the digits at its beginning. -/
def skipDigits (text : List Char) : List Char :=
  text.dropWhile Char.isDigit

/-- The rest of a text after the digits at its beginning, of which there has to be one. -/
def afterDigits? : List Char → Option (List Char)
  | [] => none
  | c :: rest => if c.isDigit then some (skipDigits rest) else none

/-- The rest of a text after the whole number at its beginning, which has no needless zeros. -/
def afterWhole? : List Char → Option (List Char)
  | '0' :: rest => some rest
  | text => afterDigits? text

/-- The rest of a text after the fraction at its beginning, if there is one. -/
def afterFraction? : List Char → Option (List Char)
  | '.' :: rest => afterDigits? rest
  | text => some text

/-- The rest of a text after the sign at its beginning, if there is one of those given. -/
def afterSign (signs : List Char) : List Char → List Char
  | [] => []
  | c :: rest => if signs.contains c then rest else c :: rest

/-- The rest of a text after the exponent at its beginning, if there is one. -/
def afterExponent? : List Char → Option (List Char)
  | [] => some []
  | c :: rest =>
    if c = 'e' ∨ c = 'E' then afterDigits? (afterSign ['+', '-'] rest) else some (c :: rest)

/-- Tells whether a text is a numeral: a whole number with an optional minus sign, fraction and
exponent. -/
def isNumeral (text : List Char) : Bool :=
  ((afterWhole? (afterSign ['-'] text)).bind afterFraction?).bind afterExponent? == some []

/-- A number as it is spelled. -/
structure Numeral where
  /-- The characters of the numeral. -/
  spelling : List Char
  /-- They form a numeral. -/
  valid : isNumeral spelling = true
deriving DecidableEq

/-- A natural number with one more digit at its end. -/
def withDigit (n : Nat) (digit : Char) : Nat :=
  10 * n + (digit.toNat - '0'.toNat)

/-- The natural number that digits stand for. -/
def naturalOfDigits (digits : List Char) : Nat :=
  digits.foldl withDigit 0

/-- The natural number that a numeral without sign, fraction and exponent stands for. -/
def Numeral.natural? (numeral : Numeral) : Option Nat :=
  if numeral.spelling.all Char.isDigit then some (naturalOfDigits numeral.spelling) else none

/-- A natural number times a power of ten. -/
structure Decimal where
  /-- The natural number. -/
  significand : Nat
  /-- The exponent of the power of ten. -/
  exponent : Int
deriving DecidableEq, Repr

/-- Appends digits to a natural number for as long as it stays within 64 bits, and gives back the
digits that are left. -/
def takeDigits (n : Nat) : List Char → Nat × List Char
  | [] => (n, [])
  | digit :: rest =>
    if withDigit n digit < UInt64.size then takeDigits (withDigit n digit) rest
    else (n, digit :: rest)

/-- The exponent that a text spells, whose first character is the letter for it. -/
def spelledExponent : List Char → Int
  | _ :: '-' :: digits => -naturalOfDigits digits
  | _ :: '+' :: digits => naturalOfDigits digits
  | _ :: digits => naturalOfDigits digits
  | [] => 0

/-- The fraction at the beginning of a text, as its digits and the rest of the text. -/
def splitFraction : List Char → List Char × List Char
  | '.' :: rest => rest.span Char.isDigit
  | text => ([], text)

/-- The size of a numeral, without its sign. Digits that do not fit into the significand count by
their number in front of the point, and not at all behind it. -/
def Numeral.magnitude (numeral : Numeral) : Decimal :=
  let (whole, rest) := (afterSign ['-'] numeral.spelling).span Char.isDigit
  let (fraction, rest) := splitFraction rest
  let (significand, scaling) := takeDigits 0 whole
  let (significand, ignored) := takeDigits significand fraction
  ⟨significand, scaling.length + ignored.length - fraction.length + spelledExponent rest⟩

/-- The nearest natural number with at most 53 binary digits before its zeros. Of two that are
equally near, it is the one whose last such digit is even. -/
def roundToDouble (n : Nat) : Nat :=
  let unit := Nat.pow 2 (n.log2 - 52)
  let low := n / unit
  if unit < 2 * (n % unit) ∨ unit = 2 * (n % unit) ∧ low % 2 = 1 then (low + 1) * unit
  else low * unit

/-- Numbers of up to 53 binary digits are doubles themselves. -/
theorem roundToDouble_of_lt {n : Nat} (h : n < Nat.pow 2 53) : roundToDouble n = n := by
  have unit_eq : n.log2 - 52 = 0 := by
    by_cases zero : n = 0
    · simp [zero]
    · have := (Nat.log2_lt zero).mpr h
      omega
  simp [roundToDouble, unit_eq, Nat.mod_one]

/-- The least natural number that is rounded to infinity, which is half a step beyond the greatest
double. -/
def infinityBound : Nat :=
  Nat.pow 2 1024 - Nat.pow 2 970

/-- The greatest exponent of a power of ten that is a double. -/
def maxTenExponent : Nat := 308

/-- Tells whether a decimal is finite as a double. -/
def Decimal.isFinite (decimal : Decimal) : Bool :=
  if decimal.significand = 0 ∨ decimal.exponent ≤ 0 then true
  else if decimal.exponent ≤ maxTenExponent then
    roundToDouble decimal.significand * roundToDouble (Nat.pow 10 decimal.exponent.toNat)
      < infinityBound
  else false

/-- Tells whether a numeral is finite as a double. -/
def Numeral.isFinite (numeral : Numeral) : Bool :=
  numeral.magnitude.isFinite

end DomainTables
