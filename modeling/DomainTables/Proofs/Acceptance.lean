import DomainTables.Proofs.Carrying
import DomainTables.Proofs.FirstFault

/-!
# Which objects have a table

An object has a table exactly if its declaration keeps every rule (`DomainObject.IsAccepted`). The
rules are stated on the declaration alone, one for each check of the derivation: the decorations are
those that the variant asks for, what repeats a reserved column has the type of the column, arrays
of further properties can be stored and the properties can be classified, and the natural key names
properties that columns carry.

Each check accepts what its rule allows (the lemmas on `checkDecorations`, `mapReserved`,
`mapProperty` and `uniqueKey`), and which properties the columns carry is known before a table is
there (`DomainObject.map_property_append`), so the checks in a row accept exactly what keeps all
rules (`exists_derive_iff`). An object that breaks one is itself at fault (`derive_iff_isAccepted`):
the one branch of a classification that would break a promise is not reached, since what resolution
finds is known.
-/

namespace DomainTables

/-- A property is no array, or it is an array that a column can hold: of nested objects, or of uuids
by the name of the property. -/
def Property.IsStorable (property : Property) : Prop :=
  ∀ element, property.type = .array element →
    (∃ target, element = .reference target) ∨
      element = .string ∧ ∃ stem, property.name = stem ++ "Uuids"

/-- The declaration of an object keeps every rule that its table depends on. -/
structure DomainObject.IsAccepted (object : DomainObject) (known : Universe) (limits : Limits) :
    Prop where
  /-- Its decorations are those that its variant asks for. -/
  decorations : object.IsDecorated
  /-- What is declared under the key of a reserved column has the type of the column. -/
  reserved : ∀ column ∈ object.variant.reserved, ∀ property,
    object.property? column.property = some property → property.type = column.type
  /-- Every other property can be stored, if it is an array. -/
  storable : ∀ property ∈ object.propertyList,
    property.name ∉ object.variant.reserved.map ReservedColumn.property → property.IsStorable
  /-- Every other property is classified, be it as a reference or not. -/
  classified : ∀ property ∈ object.propertyList,
    property.name ∉ object.variant.reserved.map ReservedColumn.property →
      ∃ reference, classify known limits object.name property = .ok reference
  /-- Every entry of the natural key is the name of a property that a column carries. -/
  unique : ∀ entries, object.decorations.unique = some entries → ∀ entry ∈ entries,
    ∃ property, some property ∈ object.carried ∧ property.name = entry

section

variable {known : Universe} {limits : Limits} {object : DomainObject}

/-- The further properties are the declared ones whose names are not reserved. -/
theorem DomainObject.mem_furtherProperties_iff {property : Property} :
    property ∈ object.furtherProperties ↔
      property ∈ object.propertyList ∧
        property.name ∉ object.variant.reserved.map ReservedColumn.property := by
  rw [furtherProperties, List.mem_filter, ← Variant.isReserved_iff, Bool.not_eq_true',
    Bool.not_eq_true]

/-- Among columns that carry the properties of an object, one stores a property of a name exactly if
one of the properties has the name. -/
theorem exists_stores_iff {mappings : List ColumnMapping} {name : String}
    (hcarried : mappings.map ColumnMapping.property = object.carried) :
    (∃ mapping ∈ mappings, mapping.stores name = true) ↔
      ∃ property, some property ∈ object.carried ∧ property.name = name := by
  simp only [← hcarried, List.mem_map, ColumnMapping.stores_iff]
  constructor
  · rintro ⟨mapping, hmem, property, hproperty, hname⟩
    exact ⟨property, ⟨mapping, hmem, hproperty⟩, hname⟩
  · rintro ⟨property, ⟨mapping, hmem, hproperty⟩, hname⟩
    exact ⟨mapping, hmem, property, hproperty, hname⟩

/-- A table is derived exactly for an object that keeps every rule. -/
theorem exists_derive_iff :
    (∃ relationship, derive known limits object = .ok relationship) ↔
      object.IsAccepted known limits := by
  constructor
  · rintro ⟨relationship, h⟩
    obtain ⟨hchecked, reserved, further, unique, hreserved, hfurther, hunique, -⟩ :=
      derive_ok_iff.mp h
    have hproperty : ∀ property ∈ object.propertyList,
        property.name ∉ object.variant.reserved.map ReservedColumn.property →
          checkArray object.name property = .ok () ∧
            ∃ reference, classify known limits object.name property = .ok reference := by
      intro property hmem hname
      obtain ⟨mapping, -, hmap⟩ := exists_right_of_forall₂ hfurther
        (DomainObject.mem_furtherProperties_iff.mpr ⟨hmem, hname⟩)
      exact DomainObject.exists_mapProperty_iff.mp ⟨mapping, hmap⟩
    refine ⟨DomainObject.checkDecorations_ok_iff.mp hchecked, fun column hcolumn => ?_,
      fun property hmem hname =>
        DomainObject.checkArray_ok_iff.mp (hproperty property hmem hname).1,
      fun property hmem hname => (hproperty property hmem hname).2, ?_⟩
    · obtain ⟨mapping, -, hmap⟩ := exists_right_of_forall₂ hreserved hcolumn
      exact DomainObject.exists_mapReserved_iff.mp ⟨mapping, hmap⟩
    · intro entries hentries entry hentry
      exact (exists_stores_iff (DomainObject.map_property_append hreserved hfurther)).mp
        (DomainObject.exists_uniqueKey_iff.mp ⟨unique, hunique⟩ entries hentries entry hentry)
  · intro h
    obtain ⟨reserved, hreserved⟩ := exists_mapM_ok_iff.mpr fun column hcolumn =>
      DomainObject.exists_mapReserved_iff.mpr (h.reserved column hcolumn)
    obtain ⟨further, hfurther⟩ := exists_mapM_ok_iff.mpr fun property hproperty => by
      obtain ⟨hmem, hname⟩ := DomainObject.mem_furtherProperties_iff.mp hproperty
      exact DomainObject.exists_mapProperty_iff.mpr
        ⟨DomainObject.checkArray_ok_iff.mpr (h.storable property hmem hname),
          h.classified property hmem hname⟩
    rw [mapM_ok_iff] at hreserved hfurther
    -- The columns carry the properties among which the natural key is looked for.
    obtain ⟨unique, hunique⟩ := DomainObject.exists_uniqueKey_iff.mpr
      fun entries hentries entry hentry =>
        (exists_stores_iff (DomainObject.map_property_append hreserved hfurther)).mpr
          (h.unique entries hentries entry hentry)
    exact ⟨_, derive_ok_iff.mpr ⟨DomainObject.checkDecorations_ok_iff.mpr h.decorations,
      reserved, further, unique, hreserved, hfurther, hunique, rfl⟩⟩

end

/-- An object has a table exactly if its declaration keeps every rule, and then the columns of the
table carry the properties that the rules speak of. An object without a table is itself at fault,
which is neither a broken promise nor a cycle. What resolution finds in a universe is known there,
so classification breaks no promise. -/
theorem derive_iff_isAccepted (known : Universe) (limits : Limits) (object : DomainObject) :
    ((∃ relationship, derive known limits object = .ok relationship) ↔
      object.IsAccepted known limits) ∧
    (∀ relationship, derive known limits object = .ok relationship →
      relationship.mappings.map ColumnMapping.property = object.carried) ∧
    (∀ cause, derive known limits object = .error cause →
      (Error.ofCause cause).isConfiguration = true ∧
      (Error.ofCause cause).isInternalConsistency = false ∧
      (Error.ofCause cause).isCyclicReference = false ∧
      (Error.ofCause cause).domainObject? = some object.name) ∧
    (∀ stem name, resolve known.keys limits.maxQualifierDrops stem = .resolved name →
      ∃ target, known.find? name = some target) ∧
    ∀ owner property inconsistency, classify known limits owner property ≠
      .error (.internalConsistency inconsistency) := by
  refine ⟨exists_derive_iff, fun _ h => map_property_of_derive h, fun cause h => ?_,
    fun stem name h => ?_, fun owner property inconsistency h => ?_⟩
  · have hfault := derive_error h
    obtain ⟨hconfiguration, hconsistency⟩ := Cause.isConfiguration_of_domainObject? hfault
    rw [Error.isConfiguration_ofCause, Error.isInternalConsistency_ofCause,
      Error.isCyclicReference_ofCause]
    refine ⟨hconfiguration, hconsistency, Cause.isCyclicReference_of_domainObject? hfault, ?_⟩
    rw [Error.domainObject?_ofCause, hfault]
  · -- Only known names are compared, so what is found has an object.
    exact Option.ne_none_iff_exists'.mp fun hnone =>
      Keyed.find?_eq_none_iff.mp hnone (mem_of_resolve_eq_resolved h)
  · -- A cause of classification is the fault of the owner, and a broken promise is nobody's.
    cases classify_error h

/-- Every object of the railway keeps the rules. A literal that declares a natural key does not, and
is at fault. -/
theorem derive_iff_isAccepted_railway :
    ∃ known : Universe, known.toList = railway ∧
      (∀ object ∈ railway, object.IsAccepted known {}) ∧
      ¬ keyedSeat.IsAccepted known {} ∧
      ∃ cause, derive known {} keyedSeat = .error cause ∧
        (Error.ofCause cause).domainObject? = some "Seat" := by
  obtain ⟨compilation, h⟩ := exists_compile_railway
  obtain ⟨known, hknown, hderive, -⟩ := compile_ok_iff.mp h
  -- The key is refused before anything is looked up, so the universe need not be evaluated.
  have hfails : derive known {} keyedSeat =
      .error (.configuration "Seat" none .uniqueLiteral) := rfl
  refine ⟨known, hknown, fun object hobject => ?_, fun hkeeps => ?_, _, hfails,
    ((derive_iff_isAccepted known {} keyedSeat).2.2.1 _ hfails).2.2.2⟩
  · obtain ⟨relationship, -, hok⟩ :=
      exists_right_of_forall₂ (deriveAll_ok_iff.mp hderive) (hknown ▸ hobject)
    exact (derive_iff_isAccepted known {} object).1.mp ⟨relationship, hok⟩
  · obtain ⟨relationship, hok⟩ := (derive_iff_isAccepted known {} keyedSeat).1.mpr hkeeps
    rw [hfails] at hok
    cases hok

end DomainTables
