import Mathlib.Tactic.MkIffOfInductiveProp
import DomainTables.Derivation.Table
import DomainTables.Proofs.Classification
import DomainTables.Proofs.Steps

/-!
# The columns that derivation makes

A derivation that succeeds is determined by its parts (`derive_ok_iff`): a column for each reserved
column of the variant, which makes no reference (`mapReserved_column`), and a column for each
further property, which makes the reference that the classification of the property finds
(`mapProperty_ok_iff`). Hence the columns of a derived table that make references are those of the
further properties that are classified as references (`exists_property_of_derive`,
`exists_mapping_of_derive`). A derivation that fails finds fault with the object whose table is
derived (`derive_error`).
-/

namespace DomainTables

/-- A column stores a property of a name if the property that it carries has the name. -/
theorem ColumnMapping.stores_iff {mapping : ColumnMapping} {name : String} :
    mapping.stores name = true ↔ ∃ property, mapping.property = some property ∧
      property.name = name := by
  simp only [stores, Option.any_eq_true, beq_iff_eq]

namespace DomainObject

variable {object : DomainObject} {known : Universe} {limits : Limits}

/-! ## Decorations and natural keys -/

/-- The decorations are those that the variant of the object asks for. -/
@[mk_iff]
structure IsDecorated (object : DomainObject) : Prop where
  /-- A literal sets neither list. -/
  literal : object.variant = .literal →
    object.decorations.unique = none ∧ object.decorations.updatable = none
  /-- An entity or an event names the properties of its natural key. -/
  unique : object.variant ≠ .literal →
    ∃ entries, object.decorations.unique = some entries ∧ entries ≠ []
  /-- An entity says what may be updated. -/
  updatable : object.variant = .entity → object.decorations.updatable ≠ none

/-- Decorations break no rule exactly if they are what the variant asks for. -/
theorem decorationFault?_eq_none_iff : object.decorationFault? = none ↔ object.IsDecorated := by
  rw [isDecorated_iff]
  obtain ⟨name, variant, properties, unique, updatable, alternativeName⟩ := object
  -- The rules tell apart whether each list is set, and whether the natural key is empty.
  cases variant <;> rcases unique with _ | _ | ⟨entry, rest⟩ <;> cases updatable <;>
    simp [decorationFault?]

/-- Decorations are accepted exactly if they are what the variant asks for. -/
theorem checkDecorations_ok_iff : object.checkDecorations = .ok () ↔ object.IsDecorated := by
  rw [← decorationFault?_eq_none_iff, checkDecorations]
  cases object.decorationFault? <;> simp

/-- Decorations that are refused are the fault of the object. -/
theorem checkDecorations_error {cause : Cause} (h : object.checkDecorations = .error cause) :
    cause.domainObject? = some object.name := by
  unfold checkDecorations at h
  split at h
  · cases h
    rfl
  · cases h

/-- A natural key is found exactly if for each of its entries a column stores a property of that
name. -/
theorem exists_uniqueKey_iff {reserved further : List ColumnMapping} :
    (∃ unique, object.uniqueKey reserved further = .ok unique) ↔
      ∀ entries, object.decorations.unique = some entries → ∀ entry ∈ entries,
        ∃ mapping ∈ reserved ++ further, mapping.stores entry = true := by
  -- An entry has a column exactly if the search among all columns finds one.
  have hcolumn : ∀ entry, (∃ column, object.uniqueColumn (reserved ++ further) entry = .ok column) ↔
      ∃ mapping ∈ reserved ++ further, mapping.stores entry = true := by
    intro entry
    rw [← List.find?_isSome, uniqueColumn]
    cases (reserved ++ further).find? fun mapping => mapping.stores entry <;> simp
  unfold uniqueKey
  cases object.decorations.unique with
  | none => simp
  | some entries =>
    simp only [Option.some.injEq, forall_eq', ← hcolumn, ← exists_mapM_ok_iff, bind_ok_iff,
      pure_ok_iff]
    constructor
    · rintro ⟨_, columns, hcolumns, -⟩
      exact ⟨columns, hcolumns⟩
    · rintro ⟨columns, hcolumns⟩
      exact ⟨_, columns, hcolumns, rfl⟩

/-- An entry of the natural key that is refused is the fault of the object. -/
theorem uniqueColumn_error {mappings : List ColumnMapping} {entry : String} {cause : Cause}
    (h : object.uniqueColumn mappings entry = .error cause) :
    cause.domainObject? = some object.name := by
  unfold uniqueColumn at h
  split at h
  · cases h
  · cases h
    rfl

/-- A natural key that is refused is the fault of the object. -/
theorem uniqueKey_error {reserved further : List ColumnMapping} {cause : Cause}
    (h : object.uniqueKey reserved further = .error cause) :
    cause.domainObject? = some object.name := by
  unfold uniqueKey at h
  split at h
  · simp only [bind_error_iff, pure_ne_error, and_false, exists_false, or_false] at h
    obtain ⟨_, entry, _, _, _, hentry⟩ := mapM_error_iff.mp h
    exact uniqueColumn_error hentry
  · cases h

/-! ## Reserved columns -/

/-- The column of a reserved column is the one that the database fills in. -/
theorem mapReserved_column {reserved : ReservedColumn} {mapping : ColumnMapping}
    (h : object.mapReserved reserved = .ok mapping) :
    mapping.column = .reserved reserved.column := by
  unfold mapReserved at h
  split at h
  · cases h
    rfl
  · split at h
    · cases h
      rfl
    · cases h

/-- A reserved column is mapped exactly if the property under its key, where there is one, has the
type of the column. -/
theorem exists_mapReserved_iff {reserved : ReservedColumn} :
    (∃ mapping, object.mapReserved reserved = .ok mapping) ↔
      ∀ property, object.property? reserved.property = some property →
        property.type = reserved.type := by
  unfold mapReserved
  cases object.property? reserved.property with
  | none => simp
  | some property => by_cases htype : property.type = reserved.type <;> simp [htype]

/-- A property that repeats a reserved column has the type of the column. -/
theorem type_of_mapReserved {reserved : ReservedColumn} {mapping : ColumnMapping}
    (h : object.mapReserved reserved = .ok mapping) {property : Property}
    (hproperty : mapping.property = some property) : property.type = reserved.type := by
  unfold mapReserved at h
  -- Without a property under its key the column stores none; with one, the types are compared.
  split at h
  · cases h
    cases hproperty
  · split at h
    · next htype =>
      cases h
      cases hproperty
      exact htype
    · cases h

/-- A reserved column that is refused is the fault of the object. -/
theorem mapReserved_error {reserved : ReservedColumn} {cause : Cause}
    (h : object.mapReserved reserved = .error cause) : cause.domainObject? = some object.name := by
  unfold mapReserved at h
  split at h
  · cases h
  · split at h
    · cases h
    · cases h
      rfl

/-! ## Further columns -/

/-- An array is accepted if it nests objects, or if its elements are uuids by the name of the
property. -/
theorem checkArray_ok_iff {owner : String} {property : Property} :
    checkArray owner property = .ok () ↔
      ∀ element, property.type = .array element →
        (∃ target, element = .reference target) ∨
          element = .string ∧ ∃ stem, property.name = stem ++ "Uuids" := by
  rw [← Text.endsWith_iff]
  unfold checkArray
  cases property.type with
  | array element => cases element <;> simp [PropertyType.element?, uuidEnding]
  | reference | string | number | boolean | date | enum => simp [PropertyType.element?]

/-- An array that is refused is the fault of the property's owner. -/
theorem checkArray_error {owner : String} {property : Property} {cause : Cause}
    (h : checkArray owner property = .error cause) : cause.domainObject? = some owner := by
  unfold checkArray at h
  split at h
  · cases h
  · cases h
  · split at h
    · cases h
    · cases h
      rfl

/-- A further property is stored in the column that its declaration and its classification give. -/
theorem mapProperty_ok_iff {property : Property} {mapping : ColumnMapping} :
    object.mapProperty known limits property = .ok mapping ↔
      checkArray object.name property = .ok () ∧
        ∃ reference, classify known limits object.name property = .ok reference ∧
          ⟨some property,
            { name := columnName property reference.isSome
              isNullable := property.nullable
              isUpdatable := object.isUpdatable property.name
              isArray := property.type.isArray
              reference := reference }⟩ = mapping := by
  simp only [mapProperty, bind_ok_iff, pure_ok_iff]
  constructor
  · rintro ⟨⟨⟩, harray, h⟩
    exact ⟨harray, h⟩
  · rintro ⟨harray, h⟩
    exact ⟨(), harray, h⟩

/-- A further property is mapped exactly if its arrays are accepted and it can be classified. -/
theorem exists_mapProperty_iff {property : Property} :
    (∃ mapping, object.mapProperty known limits property = .ok mapping) ↔
      checkArray object.name property = .ok () ∧
        ∃ reference, classify known limits object.name property = .ok reference := by
  simp only [mapProperty_ok_iff]
  constructor
  · rintro ⟨mapping, harray, reference, hclassify, -⟩
    exact ⟨harray, reference, hclassify⟩
  · rintro ⟨harray, reference, hclassify⟩
    exact ⟨_, harray, reference, hclassify, rfl⟩

/-- A further property that is refused is the fault of the object. -/
theorem mapProperty_error {property : Property} {cause : Cause}
    (h : object.mapProperty known limits property = .error cause) :
    cause.domainObject? = some object.name := by
  simp only [mapProperty, bind_error_iff, pure_ne_error, and_false, exists_false, or_false] at h
  rcases h with h | ⟨_, _, h⟩
  · exact checkArray_error h
  · exact classify_error h

end DomainObject

/-! ## Tables -/

section

variable {known : Universe} {limits : Limits} {object : DomainObject}

/-- The table of an object is put together from its reserved columns, its further columns and its
natural key. -/
theorem derive_ok_iff {relationship : Relationship} :
    derive known limits object = .ok relationship ↔
      object.checkDecorations = .ok () ∧
        ∃ reserved further unique,
          List.Forall₂ (fun column mapping => object.mapReserved column = .ok mapping)
            object.variant.reserved reserved ∧
          List.Forall₂ (fun property mapping =>
              object.mapProperty known limits property = .ok mapping)
            object.furtherProperties further ∧
          object.uniqueKey reserved further = .ok unique ∧
          ⟨Text.snakeCase object.name, object.name, reserved ++ further, unique⟩ =
            relationship := by
  simp only [derive, bind_ok_iff, pure_ok_iff, mapM_ok_iff]
  constructor
  · rintro ⟨⟨⟩, hchecked, reserved, hreserved, further, hfurther, unique, hunique, h⟩
    exact ⟨hchecked, reserved, further, unique, hreserved, hfurther, hunique, h⟩
  · rintro ⟨hchecked, reserved, further, unique, hreserved, hfurther, hunique, h⟩
    exact ⟨(), hchecked, reserved, hreserved, further, hfurther, unique, hunique, h⟩

/-- The relationship of an object is under the object's name. -/
theorem domainObject_of_derive {relationship : Relationship}
    (h : derive known limits object = .ok relationship) :
    relationship.domainObject = object.name := by
  obtain ⟨-, _, _, _, -, -, -, rfl⟩ := derive_ok_iff.mp h
  rfl

/-- A table that cannot be derived is the fault of its object. -/
theorem derive_error {cause : Cause} (h : derive known limits object = .error cause) :
    cause.domainObject? = some object.name := by
  simp only [derive, bind_error_iff, pure_ne_error, and_false, exists_false, or_false] at h
  rcases h with h | ⟨_, _, h | ⟨_, _, h | ⟨_, _, h⟩⟩⟩
  · exact DomainObject.checkDecorations_error h
  · obtain ⟨_, _, _, _, _, hcolumn⟩ := mapM_error_iff.mp h
    exact DomainObject.mapReserved_error hcolumn
  · obtain ⟨_, _, _, _, _, hproperty⟩ := mapM_error_iff.mp h
    exact DomainObject.mapProperty_error hproperty
  · exact DomainObject.uniqueKey_error h

/-- A column of a table is that of a reserved column, or that of a further property. -/
theorem exists_source_of_derive {relationship : Relationship}
    (h : derive known limits object = .ok relationship) {mapping : ColumnMapping}
    (hmapping : mapping ∈ relationship.mappings) :
    (∃ reserved ∈ object.variant.reserved, object.mapReserved reserved = .ok mapping) ∨
      ∃ property ∈ object.furtherProperties,
        object.mapProperty known limits property = .ok mapping := by
  obtain ⟨-, reserved, further, unique, hreserved, hfurther, -, rfl⟩ := derive_ok_iff.mp h
  rcases List.mem_append.mp hmapping with hmem | hmem
  · exact Or.inl (exists_left_of_forall₂ hreserved hmem)
  · exact Or.inr (exists_left_of_forall₂ hfurther hmem)

/-- The first column with the name of a reserved column is the reserved one. -/
theorem column?_of_derive {relationship : Relationship}
    (h : derive known limits object = .ok relationship) {reserved : ReservedColumn}
    (hreserved : reserved ∈ object.variant.reserved) :
    ∃ mapping, relationship.column? reserved.column = some mapping ∧
      mapping.column = .reserved reserved.column := by
  obtain ⟨-, mappings, further, unique, hmappings, -, -, rfl⟩ := derive_ok_iff.mp h
  obtain ⟨mapping, hmem, hmap⟩ := exists_right_of_forall₂ hmappings hreserved
  have hname : (mapping.column.name == reserved.column) = true := by
    rw [DomainObject.mapReserved_column hmap]
    exact beq_self_eq_true _
  -- The reserved columns come first, and one of them has the name.
  have hfound : (mappings.find? fun m => m.column.name == reserved.column).isSome = true :=
    List.find?_isSome.mpr ⟨mapping, hmem, hname⟩
  obtain ⟨first, hfirst⟩ := Option.isSome_iff_exists.mp hfound
  obtain ⟨column, -, hcolumn⟩ := exists_left_of_forall₂ hmappings (List.mem_of_find?_eq_some hfirst)
  have hsame : column.column = reserved.column := by
    have heq := List.find?_some hfirst
    rw [DomainObject.mapReserved_column hcolumn] at heq
    exact beq_iff_eq.mp heq
  refine ⟨first, ?_, ?_⟩
  · rw [Relationship.column?, List.find?_append, hfirst, Option.some_or]
  · rw [DomainObject.mapReserved_column hcolumn, hsame]

/-- A column that makes a reference stores a further property that is classified as that
reference. -/
theorem exists_property_of_derive {relationship : Relationship}
    (h : derive known limits object = .ok relationship) {mapping : ColumnMapping}
    (hmapping : mapping ∈ relationship.mappings) {reference : ColumnReference}
    (hreference : mapping.column.reference = some reference) :
    ∃ property ∈ object.furtherProperties,
      classify known limits object.name property = .ok (some reference) := by
  rcases exists_source_of_derive h hmapping with
    ⟨reserved, -, hreserved⟩ | ⟨property, hproperty, hmap⟩
  · -- Reserved columns make no references.
    rw [DomainObject.mapReserved_column hreserved] at hreference
    cases hreference
  · obtain ⟨-, found, hclassify, rfl⟩ := DomainObject.mapProperty_ok_iff.mp hmap
    dsimp only at hreference
    exact ⟨property, hproperty, hreference ▸ hclassify⟩

/-- A further property of a derived table is stored in a column that makes the reference as which
the property is classified. -/
theorem exists_mapping_of_derive {relationship : Relationship}
    (h : derive known limits object = .ok relationship) {property : Property}
    (hproperty : property ∈ object.furtherProperties) :
    ∃ mapping ∈ relationship.mappings,
      classify known limits object.name property = .ok mapping.column.reference := by
  obtain ⟨-, reserved, further, unique, -, hfurther, -, rfl⟩ := derive_ok_iff.mp h
  obtain ⟨mapping, hmem, hmap⟩ := exists_right_of_forall₂ hfurther hproperty
  obtain ⟨-, found, hclassify, rfl⟩ := DomainObject.mapProperty_ok_iff.mp hmap
  exact ⟨_, List.mem_append_right _ hmem, hclassify⟩

end

end DomainTables
