import DomainTables.Proofs.Acceptance

/-!
# What becomes of the updatable properties

Each name that an object lists as updatable has one of three fates, which are decided apart from
each other. The column of a further property of the name may be updated (`updates_iff`). If no
property is declared under the name, there is a warning about it (`warnsAbout_iff`). And a declared
property may repeat a reserved column, which the database fills in: the column is never updated, and
the name is declared, so there is no warning either. Where the keys of properties are their names,
there is no fourth fate, and the last one excludes the others (`fate_of_updatable`).
-/

namespace DomainTables

/-- A column that stores a property of the name may be updated. -/
def Relationship.Updates (relationship : Relationship) (name : String) : Prop :=
  ∃ mapping ∈ relationship.mappings, mapping.stores name = true ∧
    mapping.column.isUpdatable = true

instance (relationship : Relationship) (name : String) : Decidable (relationship.Updates name) :=
  inferInstanceAs (Decidable (∃ mapping ∈ relationship.mappings, _))

namespace DomainObject

/-- The derivation of the object's table gives a warning about a property of the name. -/
def WarnsAbout (object : DomainObject) (name : String) : Prop :=
  ∃ warning ∈ object.warnings, warning.property? = some name

instance (object : DomainObject) (name : String) : Decidable (object.WarnsAbout name) :=
  inferInstanceAs (Decidable (∃ warning ∈ object.warnings, _))

/-- The object declares a property of the name, which is reserved for a column that the database
fills in. -/
def Repeats (object : DomainObject) (name : String) : Prop :=
  ∃ property ∈ object.propertyList, property.name = name ∧
    ∃ reserved ∈ object.variant.reserved, reserved.property = name

instance (object : DomainObject) (name : String) : Decidable (object.Repeats name) :=
  inferInstanceAs (Decidable (∃ property ∈ object.propertyList, _))

section

variable {known : Universe} {limits : Limits} {object : DomainObject} {relationship : Relationship}
  {name : String}

/-! ## Columns that may be updated -/

/-- A column with a property of a name may be updated exactly if the name is listed, and a further
property has it. -/
theorem updates_iff (h : derive known limits object = .ok relationship) :
    relationship.Updates name ↔
      name ∈ object.updatableNames ∧ ∃ property ∈ object.furtherProperties,
        property.name = name := by
  constructor
  · rintro ⟨mapping, hmapping, hstores, hupdatable⟩
    obtain ⟨property, hcarries, hname⟩ := ColumnMapping.stores_iff.mp hstores
    rcases exists_source_of_derive h hmapping with
      ⟨reserved, -, hmap⟩ | ⟨further, hfurther, hmap⟩
    · -- What the database fills in is not updated.
      rw [mapReserved_column hmap] at hupdatable
      cases hupdatable
    · obtain ⟨-, reference, -, rfl⟩ := mapProperty_ok_iff.mp hmap
      obtain rfl : further = property := Option.some.inj hcarries
      have hlisted : further.name ∈ object.updatableNames :=
        List.contains_iff_mem.mp hupdatable
      exact ⟨hname ▸ hlisted, further, hfurther, hname⟩
  · -- Every further property has a column, and that takes its flag from the list alone.
    rintro ⟨hlisted, property, hfurther, hname⟩
    obtain ⟨-, reserved, further, unique, -, hmappings, -, rfl⟩ := derive_ok_iff.mp h
    obtain ⟨mapping, hmem, hmap⟩ := exists_right_of_forall₂ hmappings hfurther
    obtain ⟨-, reference, -, rfl⟩ := mapProperty_ok_iff.mp hmap
    refine ⟨_, List.mem_append_right reserved hmem, ?_, ?_⟩
    · exact ColumnMapping.stores_iff.mpr ⟨property, rfl, hname⟩
    · exact List.contains_iff_mem.mpr (hname ▸ hlisted)

/-! ## Warnings -/

/-- There is a warning about a name exactly if the name is listed, and nothing is declared under it.
-/
theorem warnsAbout_iff (h : object.IsDecorated) :
    object.WarnsAbout name ↔ name ∈ object.updatableNames ∧ object.property? name = none := by
  have hwarnings : object.warnings = object.suspicions := by
    rw [warnings, decorationFault?_eq_none_iff.mpr h]
    rfl
  rw [WarnsAbout, hwarnings]
  constructor
  · rintro ⟨warning, hwarning, hname⟩
    rcases List.mem_append.mp hwarning with hmem | hmem
    · -- The warning about an event as a whole is about no property.
      split at hmem
      · obtain rfl := List.mem_singleton.mp hmem
        cases hname
      · cases hmem
    · obtain ⟨listed, hlisted, rfl⟩ := List.mem_map.mp hmem
      obtain rfl : listed = name := Option.some.inj hname
      obtain ⟨hlisted, hnone⟩ := List.mem_filter.mp hlisted
      exact ⟨hlisted, Option.isNone_iff_eq_none.mp hnone⟩
  · rintro ⟨hlisted, hnone⟩
    have hundeclared : name ∈ object.updatableNames.filter fun listed =>
        (object.property? listed).isNone :=
      List.mem_filter.mpr ⟨hlisted, Option.isNone_iff_eq_none.mpr hnone⟩
    exact ⟨.undeclaredUpdatable object.name name,
      List.mem_append_right _ (List.mem_map_of_mem hundeclared), rfl⟩

/-! ## Repeated columns -/

/-- Where keys are names, something is declared under a name exactly if a property has the name. -/
theorem IsKeyedByName.property?_ne_none_iff (hkeys : object.IsKeyedByName) :
    object.property? name ≠ none ↔ ∃ property ∈ object.propertyList, property.name = name := by
  simp only [Option.ne_none_iff_exists', property?_eq_some_iff, hkeys.mem_keysOf_iff]
  constructor
  · rintro ⟨property, hmem, rfl⟩
    exact ⟨property, hmem, rfl⟩
  · rintro ⟨property, hmem, rfl⟩
    exact ⟨property, hmem, rfl⟩

/-- A declared property either repeats a reserved column or is a further one. -/
theorem repeats_or_further {property : Property} (hmem : property ∈ object.propertyList) :
    object.Repeats property.name ∨ property ∈ object.furtherProperties := by
  by_cases hreserved : property.name ∈ object.variant.reserved.map ReservedColumn.property
  · obtain ⟨reserved, hcolumn, hname⟩ := List.mem_map.mp hreserved
    exact Or.inl ⟨property, hmem, rfl, reserved, hcolumn, hname⟩
  · exact Or.inr (mem_furtherProperties_iff.mpr ⟨hmem, hreserved⟩)

/-- No further property has a name that is repeated. -/
theorem Repeats.name_ne (h : object.Repeats name) {property : Property}
    (hfurther : property ∈ object.furtherProperties) : property.name ≠ name := by
  rintro rfl
  obtain ⟨-, -, -, reserved, hcolumn, hname⟩ := h
  exact (mem_furtherProperties_iff.mp hfurther).2 (List.mem_map.mpr ⟨reserved, hcolumn, hname⟩)

/-- A repeated column stores the property that repeats it. -/
theorem Repeats.exists_mapping (h : object.Repeats name) (hkeys : object.IsKeyedByName)
    (hderive : derive known limits object = .ok relationship) :
    ∃ reserved ∈ object.variant.reserved, reserved.property = name ∧
      ∃ mapping ∈ relationship.mappings, mapping.stores name = true ∧
        mapping.column = .reserved reserved.column := by
  obtain ⟨property, hmem, hproperty, reserved, hcolumn, hname⟩ := h
  obtain ⟨-, mappings, further, unique, hmappings, -, -, rfl⟩ := derive_ok_iff.mp hderive
  obtain ⟨mapping, hmapping, hmap⟩ := exists_right_of_forall₂ hmappings hcolumn
  have hcarries : mapping.property = some property :=
    ((isReserved_of_mapReserved hkeys hmap).carries_iff property).mpr
      ⟨hmem, hproperty.trans hname.symm⟩
  exact ⟨reserved, hcolumn, hname, mapping, List.mem_append_left further hmapping,
    ColumnMapping.stores_iff.mpr ⟨property, hcarries, hproperty⟩, mapReserved_column hmap⟩

end

end DomainObject

/-- A name that an object lists as updatable is that of a column which may be updated, or there is a
warning about it, or it repeats a reserved column. In the last case the table stores it in that
column, which the database fills in, and there is neither another column for it nor a warning. -/
theorem fate_of_updatable {known : Universe} {limits : Limits} {object : DomainObject}
    {relationship : Relationship} (hkeys : object.IsKeyedByName)
    (h : derive known limits object = .ok relationship) {name : String}
    (hlisted : name ∈ object.updatableNames) :
    (relationship.Updates name ∨ object.WarnsAbout name ∨ object.Repeats name) ∧
    (object.Repeats name →
      ¬ relationship.Updates name ∧ ¬ object.WarnsAbout name ∧
      ∃ reserved ∈ object.variant.reserved, reserved.property = name ∧
        ∃ mapping ∈ relationship.mappings, mapping.stores name = true ∧
          mapping.column = .reserved reserved.column) := by
  have hdecorated : object.IsDecorated :=
    DomainObject.checkDecorations_ok_iff.mp (derive_ok_iff.mp h).1
  constructor
  · -- Without a declaration under the name there is a warning; a declared one is reserved or not.
    cases hproperty : object.property? name with
    | none =>
      exact Or.inr (Or.inl ((DomainObject.warnsAbout_iff hdecorated).mpr ⟨hlisted, hproperty⟩))
    | some declared =>
      have hsome : object.property? name ≠ none := by
        rw [hproperty]
        exact Option.some_ne_none declared
      obtain ⟨property, hmem, rfl⟩ := hkeys.property?_ne_none_iff.mp hsome
      rcases DomainObject.repeats_or_further hmem with hrepeats | hfurther
      · exact Or.inr (Or.inr hrepeats)
      · exact Or.inl ((DomainObject.updates_iff h).mpr ⟨hlisted, property, hfurther, rfl⟩)
  · intro hrepeats
    refine ⟨fun hupdates => ?_, fun hwarns => ?_, hrepeats.exists_mapping hkeys h⟩
    · obtain ⟨-, property, hfurther, hname⟩ := (DomainObject.updates_iff h).mp hupdates
      exact hrepeats.name_ne hfurther hname
    · have hnone := ((DomainObject.warnsAbout_iff hdecorated).mp hwarns).2
      obtain ⟨property, hmem, hname, -⟩ := hrepeats
      exact hkeys.property?_ne_none_iff.mpr ⟨property, hmem, hname⟩ hnone

/-- A workshop that repeats its uuid, and lists this, its manager and a code as updatable. -/
def workshop : DomainObject :=
  { ((DomainObject.bare "Workshop" .entity).addProperty (.ofType "name" .string)
      |>.addProperty (.ofType "manager" .string)
      |>.addProperty (.ofType "uuid" .string)) with
    decorations := ⟨some ["name"], some ["manager", "code", "uuid"], none⟩ }

/-- The workshop declares its properties under their names. -/
theorem isKeyedByName_workshop : workshop.IsKeyedByName :=
  DomainObject.IsKeyedByName.bare "Workshop" .entity |>.addProperty _ |>.addProperty _
    |>.addProperty _ |>.decorate _

/-- The manager of the workshop may be updated, there is a warning about its code, and its uuid
repeats a reserved column. -/
theorem fate_of_updatable_workshop :
    ∃ relationship, derive .empty {} workshop = .ok relationship ∧
      relationship.Updates "manager" ∧ workshop.WarnsAbout "code" ∧
      ∃ mapping ∈ relationship.mappings, mapping.stores "uuid" = true ∧
        mapping.column = .reserved "uuid" := by
  obtain ⟨relationship, h⟩ := exists_ok_of_toBool
    (show (derive .empty {} workshop).toBool = true by decide +kernel)
  have hmanager := fate_of_updatable isKeyedByName_workshop h
    (show "manager" ∈ workshop.updatableNames by decide)
  have huuid := fate_of_updatable isKeyedByName_workshop h
    (show "uuid" ∈ workshop.updatableNames by decide)
  refine ⟨relationship, h, ?_, by decide, ?_⟩
  · -- Of the three fates the other two can be decided, so this one is what is left.
    rcases hmanager.1 with hupdates | hwarns | hrepeats
    · exact hupdates
    · exact absurd hwarns (by decide)
    · exact absurd hrepeats (by decide)
  · obtain ⟨reserved, hreserved, hname, mapping, hmem, hstores, hcolumn⟩ :=
      (huuid.2 (by decide)).2.2
    obtain rfl : reserved = .uuid :=
      List.inj_on_of_nodup_map workshop.variant.nodup_map_property_reserved hreserved (by decide)
        hname
    exact ⟨mapping, hmem, hstores, hcolumn⟩

/-- The uuid of the workshop is listed as updatable, but no column of it may be updated, and there
is no warning about it. -/
theorem not_updates_workshop :
    workshop.IsKeyedByName ∧ "uuid" ∈ workshop.updatableNames ∧
      ∃ relationship, derive .empty {} workshop = .ok relationship ∧
        ¬ relationship.Updates "uuid" ∧ ¬ workshop.WarnsAbout "uuid" := by
  obtain ⟨relationship, h, hupdates⟩ := exists_ok_of_any
    (show (derive .empty {} workshop).toOption.any
      (fun relationship => decide (¬ relationship.Updates "uuid")) = true by decide +kernel)
  exact ⟨isKeyedByName_workshop, by decide, relationship, h, hupdates, by decide⟩

end DomainTables
