import DomainTables.Error

/-!
# The universe of domain objects

References are resolved among all domain objects of one run, so these are collected first. Within a
universe names do not repeat.
-/

namespace DomainTables

/-- All domain objects of one run, in the order in which they were declared. -/
abbrev Universe := Keyed DomainObject.name

namespace Universe

/-- Adds a domain object, unless its name is taken. -/
def add (known : Universe) (object : DomainObject) : Except Cause Universe :=
  if fresh : object.name ∉ known.keys then .ok (known.push object fresh)
  else .error (.configuration object.name none .declaredTwice)

/-- Collects domain objects. The first one whose name repeats an earlier one is refused. -/
def ofObjects (objects : List DomainObject) : Except Cause Universe :=
  objects.foldlM add Keyed.empty

end Universe

end DomainTables
