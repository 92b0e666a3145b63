import DomainTables.Domain.Object
import DomainTables.Text.Ending

/-!
# Candidates for references

What a property might refer to shows in its declaration alone: in its type, if that nests an object,
or in its name, if the property is a text whose name ends with the mark of a uuid.
-/

namespace DomainTables

/-- What the declaration of a property says about a reference, before anything is looked up. -/
inductive Candidate where
  /-- The type nests an object, or several. -/
  | direct (target : ObjectReference)
  /-- The property holds a uuid, or several, and its name without the mark of that is the stem. -/
  | implicit (stem : String)
  /-- The property is no reference. -/
  | none
deriving DecidableEq, Repr

/-- The end of the name of a property that holds the uuid of another object, or several. -/
def uuidEnding (isArray : Bool) : String :=
  if isArray then "Uuids" else "Uuid"

namespace Candidate

/-- The candidate of a property whose values, or whose elements, have the given type. -/
def ofElement (element : PropertyType) (name ending : String) : Candidate :=
  match element with
  | .reference target => .direct target
  | .string =>
    match Text.stemBefore? name ending with
    | some stem => if stem = "" then .none else .implicit stem
    | Option.none => .none
  | _ => .none

/-- What the declaration of a property says about a reference. -/
def ofProperty (property : Property) : Candidate :=
  match property.type with
  | .array element => ofElement element property.name (uuidEnding true)
  | type => ofElement type property.name (uuidEnding false)

end Candidate

end DomainTables
