import DomainTables.Domain.Universe
import DomainTables.Limits
import DomainTables.Reference.Resolution
import DomainTables.Relationship

/-!
# Classification of properties

A property either stores its value in its column or refers to another domain object, by nesting it
or by its uuid. `classify` decides which, and refuses references that break a rule: only literals
are nested, only entities and events are referred to by uuid, and the name of a property has to say
which object it means.
-/

namespace DomainTables

/-- The reference that a property makes which nests the object `target`. The name of the property is
resolved among all known objects and the nested one. -/
def classifyDirect (known : Universe) (limits : Limits) (owner : String) (property : Property)
    (target : ObjectReference) : Except Cause ColumnReference :=
  if target.variant.isIdentifiable then
    .error (.configuration owner property.name
      (.nestedIdentifiable target property.type.isArray))
  else
    match resolve (known.keys ++ [target.name]) limits.maxQualifierDrops property.name with
    | .resolved name =>
      if name = target.name then .ok ⟨.directByNesting, target⟩
      else .error (.configuration owner property.name (.misnamed target.name name))
    | .ambiguous names => .error (.ambiguousReference owner property.name names)
    | .unresolved => .error (.configuration owner property.name (.misnamed target.name none))

/-- The reference that a property makes whose name is `stem` and the mark of a uuid. A stem that
means no known object makes no reference. -/
def classifyImplicit (known : Universe) (limits : Limits) (owner : String) (property : Property)
    (stem : String) : Except Cause (Option ColumnReference) :=
  match resolve known.keys limits.maxQualifierDrops stem with
  | .unresolved => .ok none
  | .ambiguous names => .error (.ambiguousReference owner property.name names)
  | .resolved name =>
    match known.find? name with
    | none => .error (.internalConsistency (.unknownObject property.name name))
    | some target =>
      if target.variant.isIdentifiable then .ok (some ⟨.implicitByUuid, target.reference⟩)
      else .error (.configuration owner property.name
        (.literalByUuid name stem property.type.isArray))

/-- The reference that a property of the object `owner` makes, if it makes one. -/
def classify (known : Universe) (limits : Limits) (owner : String) (property : Property) :
    Except Cause (Option ColumnReference) :=
  match Candidate.ofProperty property with
  | .direct target => (classifyDirect known limits owner property target).map some
  | .implicit stem => classifyImplicit known limits owner property stem
  | .none => .ok none

end DomainTables
