/-!
# Limits of the searches

Two searches repeat a step until it changes nothing more. Both are bounded by limits that a caller
may choose.
-/

namespace DomainTables

/-- Bounds on the repeated searches. -/
structure Limits where
  /-- How many leading words of a domain object's name a property may leave out. -/
  maxQualifierDrops : Nat := 20
  /-- How many times the domain objects are scanned for ones that can be provisioned next. -/
  maxProvisioningPasses : Nat := 21
deriving DecidableEq, Repr

end DomainTables
