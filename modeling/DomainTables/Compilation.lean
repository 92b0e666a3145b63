import DomainTables.Derivation.Table
import DomainTables.Provisioning

/-!
# Compilation of domain objects

A run collects the domain objects, derives the table of each one, and orders the tables for
provisioning. An error of the second or third step is put into a context that names the step.
-/

namespace DomainTables

/-- The result of a run. -/
structure Compilation where
  /-- The relationships, in the order of declaration. -/
  relationships : Relationships
  /-- The names of the domain objects, in the order of provisioning. -/
  order : List String
deriving DecidableEq

namespace Compilation

/-- The relationships in the order of provisioning. -/
def provisioned (compilation : Compilation) : List (Except Cause Relationship) :=
  compilation.order.map compilation.relationships.get

end Compilation

/-- Passes a result on, and puts its cause of failure, if there is one, into a context. -/
def within {α : Type} (context : String) (result : Except Cause α) : Except Error α :=
  result.mapError fun cause => (Error.ofCause cause).inContext (.message context)

/-- Compiles domain objects. -/
def compile (limits : Limits) (objects : List DomainObject) : Except Error Compilation := do
  let known ← (Universe.ofObjects objects).mapError Error.ofCause
  let relationships ← within "failed to derive relationships" (deriveAll known limits)
  let order ← within "failed to order relationships for provisioning"
    (relationships.provisioningOrder limits)
  return ⟨relationships, order⟩

/-- Compiles the domain objects that a provider supplies. If it fails, its error is passed on as it
is. -/
def compileProvided (limits : Limits) (provided : Except Error (List DomainObject)) :
    Except Error Compilation := do
  compile limits (← provided)

/-- The warnings that the compilation of domain objects gives. -/
def compileWarnings (limits : Limits) (objects : List DomainObject) : List Warning :=
  match Universe.ofObjects objects with
  | .ok known => warningsOf known limits known.toList
  | .error _ => []

end DomainTables
