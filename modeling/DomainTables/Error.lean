import DomainTables.Dependencies
import DomainTables.Reference.Candidate
import DomainTables.Text.Case

/-!
# Errors

A declaration can break a rule (`Violation`), a reference can be ambiguous, references can form a
cycle, and a caller can fail to supply what it promised (`Inconsistency`). Each of these is a
`Cause`. An `Error` is a cause under the contexts that were added while it was passed on, and it
answers questions about the causes by looking from the outermost one to the innermost.

The words of every message are in this module. What went wrong is told by the constructors alone.
-/

namespace DomainTables

/-- The mark that a list of uuids has and a single uuid has not. -/
def arrayMark (isArray : Bool) : String :=
  if isArray then "[]" else ""

/-- The rules that a declaration can break. -/
inductive Violation where
  /-- The name of the object has been declared before. -/
  | declaredTwice
  /-- A literal sets `unique`. -/
  | uniqueLiteral
  /-- A literal sets `updatable`. -/
  | updatableLiteral
  /-- An entity or an event of this variant has no natural key. -/
  | missingUnique (variant : Variant)
  /-- An entity does not set `updatable`. -/
  | missingUpdatable
  /-- An entry of `unique` is no property of the object. -/
  | unknownUnique (entry : String)
  /-- A property is stored in a reserved column, but has another type than the column. -/
  | reservedType (column : String) (expected actual : PropertyType)
  /-- An array has elements that no column can hold. -/
  | arrayElement (element : PropertyType)
  /-- An object with a uuid is nested. -/
  | nestedIdentifiable (target : ObjectReference) (isArray : Bool)
  /-- A property nests an object but is named after another one, or after none. -/
  | misnamed (target : String) (namedAfter : Option String)
  /-- A literal is referred to by uuid from a property with this stem. -/
  | literalByUuid (literal stem : String) (isArray : Bool)
  /-- A rule that the caller words. -/
  | stated (message : String) (remediation : Option String)
deriving DecidableEq, Repr

namespace Violation

/-- What is wrong. -/
def message : Violation → String
  | .declaredTwice => "declared more than once"
  | .uniqueLiteral =>
    "literals are unique on all of their properties and must not declare `unique`"
  | .updatableLiteral => "literals are never updated and must not declare `updatable`"
  | .missingUnique variant =>
    "an " ++ variant.word ++ " must declare `unique`, the properties forming its natural key"
  | .missingUpdatable => "an entity must declare `updatable`, even if it is empty"
  | .unknownUnique entry => "`unique` names `" ++ entry ++ "`, which is not a declared property"
  | .reservedType column expected actual =>
    "redeclares the reserved column `" ++ column ++ "`, which must be of type `" ++
      expected.display ++ "` but is `" ++ actual.display ++ "`"
  | .arrayElement element => "arrays of `" ++ element.display ++ "` cannot be stored"
  | .nestedIdentifiable target _ =>
    "directly nesting " ++ target.variant.word ++ " `" ++ target.name ++ "` is forbidden"
  | .misnamed target (some other) =>
    "incorrectly named reference: typed as `" ++ target ++ "` but named after `" ++ other ++ "`"
  | .misnamed target none =>
    "incorrectly named reference: typed as `" ++ target ++ "` but its name does not refer to it"
  | .literalByUuid literal _ _ => "literal `" ++ literal ++ "` cannot be referenced by uuid"
  | .stated message _ => message

/-- How the declaration can be mended, where that can be said. -/
def remediation : Violation → Option String
  | .arrayElement _ =>
    some "wrap the element in its own domain literal or entity and reference that instead"
  | .nestedIdentifiable target isArray =>
    some ("reference it by uuid instead, e.g. `" ++ Text.camelCase target.name ++
      uuidEnding isArray ++ ": string" ++ arrayMark isArray ++ "`")
  | .misnamed target _ => some ("rename the property so that it ends with `" ++ target ++ "`")
  | .literalByUuid literal stem isArray =>
    some ("nest it directly instead, e.g. `" ++ stem ++ ": " ++ literal ++ arrayMark isArray ++
      "`")
  | .stated _ remediation => remediation
  | _ => none

end Violation

/-- The promises between the parts of the library, and its callers, that can be broken. -/
inductive Inconsistency where
  /-- The relationship of a domain object is needed but was not supplied. -/
  | missingRelationship (domainObject : String)
  /-- A property was found to refer to a domain object that is not known. -/
  | unknownObject (property domainObject : String)
  /-- A domain object nests itself, directly or through others. -/
  | selfNesting (domainObject : String)
  /-- A promise that the caller words. -/
  | stated (message : String)
deriving DecidableEq, Repr

/-- Which promise was broken. -/
def Inconsistency.message : Inconsistency → String
  | .missingRelationship domainObject =>
    "relationship for domain object `" ++ domainObject ++ "` was not supplied"
  | .unknownObject property domainObject =>
    "disambiguation resolved `" ++ property ++ "` to unknown domain object `" ++ domainObject ++
      "`"
  | .selfNesting domainObject => "domain object `" ++ domainObject ++ "` nests itself"
  | .stated message => message

/-- One thing that went wrong, or one context in which something did.

There is no cause for an error of which nothing is known (`unknown sqldao error`): every operation
names what went wrong, and the errors that callers can make have one of these causes. -/
inductive Cause where
  /-- A message of the moment. -/
  | message (text : String)
  /-- An error of another program. -/
  | foreign (text : String)
  /-- A domain object, or one of its properties, breaks a rule. -/
  | configuration (domainObject : String) (property : Option String) (violation : Violation)
  /-- A property could refer to any of several domain objects. -/
  | ambiguousReference (domainObject property : String) (candidates : List String)
  /-- Some domain objects could not be ordered within the given number of passes. -/
  | cyclicReference (passes : Nat) (unplaced : List String) (dependencies : Dependencies)
  /-- A promise was broken. -/
  | internalConsistency (inconsistency : Inconsistency)
deriving DecidableEq, Repr

namespace Cause

/-- The cause as a message. -/
def display : Cause → String
  | .message text => text
  | .foreign text => text
  | .configuration domainObject property violation =>
    "invalid domain object `" ++ domainObject ++ "`" ++
      (match property with
        | some property => " property `" ++ property ++ "`"
        | none => "") ++
      ": " ++ violation.message ++
      (match violation.remediation with
        | some remediation => "; " ++ remediation
        | none => "")
  | .ambiguousReference domainObject property candidates =>
    "invalid domain object `" ++ domainObject ++ "` property `" ++ property ++
      "`: ambiguous reference, could refer to any of " ++
      ", ".intercalate (candidates.map fun name => "`" ++ name ++ "`") ++
      "; rename the property so that it ends with exactly one of them"
  | .cyclicReference passes unplaced dependencies =>
    "could not order domain objects for provisioning after " ++ toString passes ++
      " passes, probably because of a cyclic reference; unplaced: [" ++
      ", ".intercalate unplaced ++ "]; dependencies: \x7b" ++ dependencies.display ++ "\x7d"
  | .internalConsistency inconsistency =>
    "internal consistency failure: " ++ inconsistency.message

/-- Tells whether the declarations are at fault. -/
def isConfiguration : Cause → Bool
  | .configuration .. => true
  | .ambiguousReference .. => true
  | .cyclicReference .. => true
  | _ => false

/-- Tells whether a promise was broken. -/
def isInternalConsistency : Cause → Bool
  | .internalConsistency _ => true
  | _ => false

/-- Tells whether references form a cycle. -/
def isCyclicReference : Cause → Bool
  | .cyclicReference .. => true
  | _ => false

/-- The domain object whose declaration is at fault. -/
def domainObject? : Cause → Option String
  | .configuration domainObject _ _ => some domainObject
  | .ambiguousReference domainObject _ _ => some domainObject
  | _ => none

/-- The property whose declaration is at fault. -/
def property? : Cause → Option String
  | .configuration _ property _ => property
  | .ambiguousReference _ property _ => some property
  | _ => none

/-- The domain objects that a property could refer to. -/
def candidates? : Cause → Option (List String)
  | .ambiguousReference _ _ candidates => some candidates
  | _ => none

end Cause

/-- A cause and the contexts in which it arose. -/
structure Error where
  /-- The outermost context, or the cause itself if there is no context. -/
  outermost : Cause
  /-- The further contexts inward, the cause last. -/
  inner : List Cause
deriving DecidableEq, Repr

namespace Error

/-- A cause without context. -/
def ofCause (cause : Cause) : Error :=
  ⟨cause, []⟩

/-- Puts an error into a further context. -/
def inContext (error : Error) (context : Cause) : Error :=
  ⟨context, error.outermost :: error.inner⟩

/-- All contexts and the cause, from the outside inward. -/
def chain (error : Error) : List Cause :=
  error.outermost :: error.inner

/-- The messages of the chain. -/
def display (error : Error) : String :=
  ": ".intercalate (error.chain.map Cause.display)

/-- Tells whether the declarations are at fault. -/
def isConfiguration (error : Error) : Bool :=
  error.chain.any Cause.isConfiguration

/-- Tells whether a promise was broken. -/
def isInternalConsistency (error : Error) : Bool :=
  error.chain.any Cause.isInternalConsistency

/-- Tells whether references form a cycle. -/
def isCyclicReference (error : Error) : Bool :=
  error.chain.any Cause.isCyclicReference

/-- The first domain object of the chain whose declaration is at fault. -/
def domainObject? (error : Error) : Option String :=
  error.chain.findSome? Cause.domainObject?

/-- The first property of the chain whose declaration is at fault. -/
def property? (error : Error) : Option String :=
  error.chain.findSome? Cause.property?

/-- The first candidates of the chain for an ambiguous reference. -/
def candidates? (error : Error) : Option (List String) :=
  error.chain.findSome? Cause.candidates?

/-- The text of the error of another program that the outermost cause stands for. -/
def foreignText? (error : Error) : Option String :=
  match error.outermost with
  | .foreign text => some text
  | _ => none

end Error

end DomainTables
