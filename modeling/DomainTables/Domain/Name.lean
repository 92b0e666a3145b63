import DomainTables.Text.Case

/-!
# Names as sequences of words

Names of domain objects are compared with names of properties word by word: a property may leave
out leading words of the object it refers to (`leadEngineer` for `TrainEngineer`). A `Name` is a
name taken apart into its words, and it is spelled again from them.
-/

namespace DomainTables

/-- A name taken apart into its small words. -/
structure Name where
  /-- The words in order. -/
  parts : List String
deriving DecidableEq, Repr

namespace Name

/-- Takes an identifier apart. -/
def ofString (text : String) : Name :=
  ⟨Text.words text⟩

/-- The name without its first `count` words, or `none` where that leaves nothing. -/
def dropLeading (name : Name) (count : Nat) : Option Name :=
  if name.parts.length ≤ count then none else some ⟨name.parts.drop count⟩

/-- The words joined by underscores. -/
def snakeCase (name : Name) : String :=
  "_".intercalate name.parts

/-- The name in the spelling of properties. -/
def camelCase (name : Name) : String :=
  Text.camelCase name.snakeCase

/-- The name in the spelling of domain objects. -/
def upperCamelCase (name : Name) : String :=
  Text.upperCamelCase name.snakeCase

end Name

end DomainTables
