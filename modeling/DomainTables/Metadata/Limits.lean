import DomainTables.Json.Reader
import DomainTables.Limits
import DomainTables.Metadata.Field

/-!
# Limits as JSON

Limits are read from records whose fields are natural numbers of up to 64 bits.
-/

namespace DomainTables

open Metadata

namespace Limits

/-- The natural number of up to 64 bits that a value is. -/
def bound? : Json → Option Nat
  | .number numeral => numeral.natural?.filter fun n => n < UInt64.size
  | _ => none

/-- The limits of a written form. What is left out takes its usual value. -/
def ofJson? (value : Json) : Option Limits := do
  let usual : Limits := {}
  let fields ← fields? [] ["max_qualifier_drops", "max_provisioning_passes"] value
  let drops ← fields.withDefault? "max_qualifier_drops" usual.maxQualifierDrops bound?
  let passes ← fields.withDefault? "max_provisioning_passes" usual.maxProvisioningPasses bound?
  return ⟨drops, passes⟩

end Limits

namespace Metadata

/-- The limits of a text. -/
def readLimits? (text : String) : Option Limits := do
  let value ← Json.parse? text
  Limits.ofJson? value

end Metadata

end DomainTables
