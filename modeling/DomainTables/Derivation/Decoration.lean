import DomainTables.Error
import DomainTables.Text.Quoted

/-!
# Rules for decorations

Literals are identified by all of their properties and never change, so they set neither `unique`
nor `updatable`. Entities and events need a natural key, and entities say what may be updated, even
if that is nothing (`checkDecorations`). An object that follows these rules may still give reason
for a warning: an event that names updatable properties, and updatable properties that are not
declared.
-/

namespace DomainTables

/-- What is suspicious about a declaration without breaking a rule. -/
inductive Warning where
  /-- An event names updatable properties. -/
  | updatableEvent (domainObject : String) (updatable : List String)
  /-- An updatable property is not declared. -/
  | undeclaredUpdatable (domainObject property : String)
deriving DecidableEq, Repr

namespace Warning

/-- What is suspicious. -/
def message : Warning → String
  | .updatableEvent .. => "events are immutable but declare `updatable` properties"
  | .undeclaredUpdatable .. => "`updatable` names a property that is not declared"

/-- The domain object that the warning is about. -/
def domainObject : Warning → String
  | .updatableEvent domainObject _ => domainObject
  | .undeclaredUpdatable domainObject _ => domainObject

/-- The property that the warning is about. -/
def property? : Warning → Option String
  | .updatableEvent .. => none
  | .undeclaredUpdatable _ property => some property

/-- The list of updatable properties that the warning shows. -/
def updatable? : Warning → Option String
  | .updatableEvent _ updatable => some (Text.quotedList updatable)
  | .undeclaredUpdatable .. => none

end Warning

namespace DomainObject

/-- The rule that the decorations of an object break, if they break one. -/
def decorationFault? (object : DomainObject) : Option Violation :=
  match object.variant, object.decorations.unique, object.decorations.updatable with
  | .literal, some _, _ => some .uniqueLiteral
  | .literal, none, some _ => some .updatableLiteral
  | .literal, none, none => none
  | variant, none, _ => some (.missingUnique variant)
  | variant, some [], _ => some (.missingUnique variant)
  | .entity, some (_ :: _), none => some .missingUpdatable
  | .entity, some (_ :: _), some _ => none
  | .event, some (_ :: _), _ => none

/-- Refuses an object whose decorations break a rule. -/
def checkDecorations (object : DomainObject) : Except Cause Unit :=
  match object.decorationFault? with
  | some fault => .error (.configuration object.name none fault)
  | none => .ok ()

/-- The warnings for an object whose decorations break no rule. -/
def suspicions (object : DomainObject) : List Warning :=
  (if object.variant = .event ∧ object.updatableNames ≠ [] then
    [.updatableEvent object.name object.updatableNames] else []) ++
  (object.updatableNames.filter fun name => (object.property? name).isNone).map
    (.undeclaredUpdatable object.name)

/-- The warnings that the derivation of an object's table gives. -/
def warnings (object : DomainObject) : List Warning :=
  if object.decorationFault?.isNone then object.suspicions else []

end DomainObject

end DomainTables
