import DomainTables.Limits
import DomainTables.Relationship

/-!
# Order of provisioning

A table can be created once the tables that it refers to exist. The domain objects are scanned in
ascending order of their names, and one is placed as soon as everything it refers to is placed; what
a scan places counts at once, also for the rest of the same scan. Scans are repeated until one
places nothing, or until the limit is reached. The result does not depend on the order of
declaration.
-/

namespace DomainTables

namespace Dependencies

/-- Tells whether an object can be placed next: it is not placed, but everything it refers to is. -/
def isPlaceable (placed : List String) (entry : String × List String) : Bool :=
  !placed.contains entry.1 && entry.2.all placed.contains

/-- Scans the objects once and adds those that can be placed. -/
def scan (table : Dependencies) (placed : List String) : List String :=
  table.foldl (fun placed entry =>
    if isPlaceable placed entry then placed ++ [entry.1] else placed) placed

/-- Scans up to `passes` times, and stops early when a scan adds nothing. -/
def scans (table : Dependencies) : Nat → List String → List String
  | 0, placed => placed
  | passes + 1, placed =>
    let next := table.scan placed
    if next.length = placed.length then placed else table.scans passes next

/-- The names of the table that are not placed. -/
def unplaced (table : Dependencies) (placed : List String) : List String :=
  table.names.filter fun name => !placed.contains name

end Dependencies

namespace Relationships

/-- The names that a relationship refers to, all of which have relationships of their own. -/
def suppliedReferences (relationships : Relationships) (relationship : Relationship) :
    Except Cause (List String) :=
  relationship.referencedNames.mapM fun name => do
    let _ ← relationships.get name
    return name

/-- Which objects refer to which others. A reference to an object without a relationship is
refused. -/
def dependencies (relationships : Relationships) : Except Cause Dependencies := do
  let entries ← relationships.toList.mapM fun relationship => do
    let names ← relationships.suppliedReferences relationship
    return (relationship.domainObject, names)
  return .ofEntries entries

/-- The names of the domain objects in an order in which every object comes after those it refers
to. If some are not placed within the limit, their references are taken to form a cycle. -/
def provisioningOrder (relationships : Relationships) (limits : Limits) :
    Except Cause (List String) := do
  let table ← relationships.dependencies
  let placed := table.scans limits.maxProvisioningPasses []
  if placed.length = table.length then return placed
  else throw (.cyclicReference limits.maxProvisioningPasses (table.unplaced placed) table)

end Relationships

end DomainTables
