import DomainTables.Dependencies
import DomainTables.Domain.Name
import DomainTables.Text.Ending

/-!
# Resolution of property names

A property refers to a domain object by the end of its name. The property may put qualifiers in
front of the object's name (`homeAddress` for `Address`), and it may leave out qualifiers that the
object's name has (`leadEngineer` for `TrainEngineer`). The search (`resolve`) therefore goes
through levels: it first compares all names in full, then all names without their first word, and so
on, and it ends at the first level at which anything matches. What matches at one level is a set of
names, and only a set of one name is an answer.
-/

namespace DomainTables

/-- The outcome of a search for the domain object that a property refers to. -/
inductive Resolution where
  /-- Exactly one name matches at the first level with a match. -/
  | resolved (name : String)
  /-- Several names match at the first level with a match, here in ascending order. -/
  | ambiguous (names : List String)
  /-- No name matches at any level. -/
  | unresolved
deriving DecidableEq, Repr

/-- The forms of a property's name that are compared with names of objects: the name itself, and
the name without an `s` at its end if that leaves something. -/
def propertyForms (property : String) : List String :=
  match Text.stemBefore? property "s" with
  | some singular => if singular = "" then [property] else [property, singular]
  | none => [property]

/-- Tells whether one of the forms is the name of an object in the spelling of properties, or ends
with the name in the spelling of objects. -/
def Name.isMeantBy (name : Name) (forms : List String) : Bool :=
  let lower := name.camelCase
  let upper := name.upperCamelCase
  forms.any fun form => form == lower || Text.endsWith form upper

namespace Resolution

/-- The names that match once their first `dropped` words are left out. -/
def matchesAt (names : List (String × Name)) (forms : List String) (dropped : Nat) : List String :=
  names.filterMap fun (spelling, name) =>
    match name.dropLeading dropped with
    | some rest => if rest.isMeantBy forms then some spelling else none
    | none => none

/-- Tells whether any name has words left once `dropped` words are left out. -/
def anyLeft (names : List (String × Name)) (dropped : Nat) : Bool :=
  names.any fun (_, name) => (name.dropLeading dropped).isSome

/-- Searches the levels from `dropped` on, as many further ones as `budget` says, and ends early
where no name has words left. -/
def searchFrom (names : List (String × Name)) (forms : List String) (dropped budget : Nat) :
    Resolution :=
  match sortedNames (matchesAt names forms dropped) with
  | [name] => .resolved name
  | first :: second :: rest => .ambiguous (first :: second :: rest)
  | [] =>
    match budget with
    | 0 => .unresolved
    | budget + 1 =>
      if anyLeft names dropped then searchFrom names forms (dropped + 1) budget else .unresolved

end Resolution

/-- Searches the domain object that a property refers to among the given names, where up to
`maxDrops` leading words of a name may be left out. -/
def resolve (names : List String) (maxDrops : Nat) (property : String) : Resolution :=
  Resolution.searchFrom (names.map fun name => (name, Name.ofString name))
    (propertyForms property) 0 maxDrops

end DomainTables
