import DomainTables.Proofs.Carrying
import DomainTables.Proofs.ColumnNames

/-!
# The natural key on both sides

A relationship has the natural key of its object twice, in the names of properties and in those of
columns. Where an object declares its key, the first list is the declaration, and each column is
that of the first mapping that stores a property named by the entry
(`DomainObject.uniqueKey_of_some`). A literal declares none, and its key consists of the mappings
behind the reserved ones on either side (`DomainObject.uniqueKey_of_none`).

Which column an entry names depends on where the mapping comes from. Reserved mappings stand in
front, so what is declared under the key of a reserved column is found there, whatever else has its
name (`isKeyMapping_of_property?`). All other mappings are those of further properties, and if these
refer to objects, their columns have the endings of references.
-/

namespace DomainTables

/-- The mapping in which an entry of the natural key of an object is found. -/
structure ColumnMapping.IsKeyMapping (object : DomainObject) (entry : String)
    (mapping : ColumnMapping) : Prop where
  /-- It carries a property whose name is the entry. -/
  carries : ∃ property, mapping.property = some property ∧ property.name = entry
  /-- If a property of that name is declared under the key of a reserved column, the mapping is that
  of a reserved column. -/
  repeats : ∀ reserved ∈ object.variant.reserved, ∀ property,
    object.property? reserved.property = some property → property.name = entry →
      ∃ own ∈ object.variant.reserved, object.property? own.property = mapping.property ∧
        mapping.column = .reserved own.column
  /-- Where keys are names, it is the one that the name is reserved for. -/
  reserved : object.IsKeyedByName → ∀ reserved ∈ object.variant.reserved,
    reserved.property = entry → mapping.column = .reserved reserved.column
  /-- A column that makes a reference ends in `_id`, or in `_ids` if it is an array. -/
  reference : mapping.column.reference ≠ none →
    ∃ stem, mapping.column.name = stem ++ idEnding mapping.column.isArray

/-! ## Declared keys -/

namespace DomainObject

variable {object : DomainObject} {reserved further : List ColumnMapping}

/-- An entry of a natural key is stored in the column of the first mapping that stores a property of
that name. -/
theorem uniqueColumn_ok_iff {mappings : List ColumnMapping} {entry column : String} :
    object.uniqueColumn mappings entry = .ok column ↔
      ∃ mapping, mappings.find? (fun mapping => mapping.stores entry) = some mapping ∧
        mapping.column.name = column := by
  unfold uniqueColumn
  cases mappings.find? fun mapping => mapping.stores entry with
  | none => simp
  | some mapping => simp

/-- A declared natural key is kept, and each of its entries has its column. -/
theorem uniqueKey_of_some {entries : List String} {unique : UniqueKey}
    (hdeclared : object.decorations.unique = some entries)
    (h : object.uniqueKey reserved further = .ok unique) :
    unique.properties = entries ∧
      List.Forall₂ (fun entry column => ∃ mapping,
        (reserved ++ further).find? (fun mapping => mapping.stores entry) = some mapping ∧
          mapping.column.name = column) entries unique.columns := by
  unfold uniqueKey at h
  rw [hdeclared] at h
  obtain ⟨columns, hcolumns, h⟩ := bind_ok_iff.mp h
  obtain rfl := pure_ok_iff.mp h
  exact ⟨rfl, (mapM_ok_iff.mp hcolumns).imp fun _ _ => uniqueColumn_ok_iff.mp⟩

/-- Without a declared natural key, the key consists of all further columns. -/
theorem uniqueKey_of_none {unique : UniqueKey} (hdeclared : object.decorations.unique = none)
    (h : object.uniqueKey reserved further = .ok unique) :
    unique.properties = further.map ColumnMapping.domainName ∧
      unique.columns = further.map (·.column.name) := by
  unfold uniqueKey at h
  rw [hdeclared] at h
  cases h
  exact ⟨rfl, rfl⟩

end DomainObject

/-! ## Columns of entries -/

section

variable {known : Universe} {limits : Limits} {object : DomainObject}
  {relationship : Relationship} (h : derive known limits object = .ok relationship)
  {entry : String} {mapping : ColumnMapping}
  (hfind : relationship.property? entry = some mapping)

include h hfind

/-- If a property of a name is declared under the key of a reserved column, the first mapping that
stores a property of that name is the one of a reserved column. -/
theorem exists_reserved_of_property? {column : ReservedColumn}
    (hcolumn : column ∈ object.variant.reserved) {property : Property}
    (hproperty : object.property? column.property = some property)
    (hname : property.name = entry) :
    ∃ own ∈ object.variant.reserved, object.property? own.property = mapping.property ∧
      mapping.column = .reserved own.column := by
  obtain ⟨-, reserved, further, unique, hreserved, -, -, rfl⟩ := derive_ok_iff.mp h
  obtain ⟨carrier, hcarrier, hmap⟩ := exists_right_of_forall₂ hreserved hcolumn
  have hstores : carrier.stores entry = true := by
    rw [ColumnMapping.stores_iff, ← DomainObject.property_of_mapReserved hmap]
    exact ⟨property, hproperty, hname⟩
  -- Some reserved mapping stores such a property, so the first mapping to do so is reserved.
  have hsome : (reserved.find? fun mapping => mapping.stores entry).isSome = true :=
    List.find?_isSome.mpr ⟨carrier, hcarrier, hstores⟩
  obtain ⟨first, hfirst⟩ := Option.isSome_iff_exists.mp hsome
  rw [Relationship.property?, List.find?_append, hfirst, Option.some_or] at hfind
  obtain rfl : first = mapping := Option.some.inj hfind
  obtain ⟨own, hown, hmapOwn⟩ :=
    exists_left_of_forall₂ hreserved (List.mem_of_find?_eq_some hfirst)
  exact ⟨own, hown, DomainObject.property_of_mapReserved hmapOwn,
    DomainObject.mapReserved_column hmapOwn⟩

/-- The first mapping that stores a property with the name of an entry is the mapping of the entry.
-/
theorem isKeyMapping_of_property? : mapping.IsKeyMapping object entry := by
  have hstores := ColumnMapping.stores_iff.mp
    (List.find?_some (p := fun mapping : ColumnMapping => mapping.stores entry) hfind)
  have hsource := exists_source_of_derive h (List.mem_of_find?_eq_some hfind)
  -- A mapping is reserved or further; that decides each of the claims about its column.
  refine ⟨hstores, fun column hcolumn property hproperty hname => ?_,
    fun hkeys column hcolumn hentry => ?_, fun hreference => ?_⟩
  · exact exists_reserved_of_property? h hfind hcolumn hproperty hname
  · obtain ⟨property, hproperty, hname⟩ := hstores
    rcases hsource with ⟨own, hown, hmap⟩ | ⟨further, hfurther, hmap⟩
    · -- The key of the reserved column is the name of the property, and no other has that key.
      rw [← DomainObject.property_of_mapReserved hmap, DomainObject.property?_eq_some_iff,
        hkeys.mem_keysOf_iff] at hproperty
      have hsame : own.property = column.property := by rw [hproperty.2, hname, hentry]
      obtain rfl : own = column :=
        List.inj_on_of_nodup_map object.variant.nodup_map_property_reserved hown hcolumn hsame
      exact DomainObject.mapReserved_column hmap
    · -- The names of further properties are not reserved.
      obtain rfl : further = property := Option.some.inj
        ((DomainObject.isFurther_of_mapProperty hmap).carries.symm.trans hproperty)
      have hnot := (List.mem_filter.mp hfurther).2
      have hyes : object.variant.isReserved further.name = true :=
        Variant.isReserved_iff.mpr (List.mem_map.mpr ⟨column, hcolumn, hentry.trans hname.symm⟩)
      rw [hyes] at hnot
      cases hnot
  · rcases hsource with ⟨own, hown, hmap⟩ | ⟨further, hfurther, hmap⟩
    · rw [DomainObject.mapReserved_column hmap] at hreference
      exact absurd rfl hreference
    · obtain ⟨-, reference, -, rfl⟩ := DomainObject.mapProperty_ok_iff.mp hmap
      have hsome : reference.isSome = true := Option.isSome_iff_ne_none.mpr hreference
      refine ⟨referenceStem further, ?_⟩
      dsimp only
      rw [hsome]
      exact columnName_true further

end

/-- The natural key of a table has a column for each of its properties. The key of an entity or an
event is the declared one, which is not empty, and the column of each entry is that of the first
mapping that stores a property of that name. The key of a literal consists of the mappings behind
the reserved ones, in their order. -/
theorem naturalKey_of_derive {known : Universe} {limits : Limits} {object : DomainObject}
    {relationship : Relationship} (h : derive known limits object = .ok relationship) :
    relationship.unique.properties.length = relationship.unique.columns.length ∧
    (object.variant ≠ .literal →
      relationship.unique.properties ≠ [] ∧ relationship.unique.columns ≠ [] ∧
      object.decorations.unique = some relationship.unique.properties ∧
      List.Forall₂ (fun entry column => ∃ mapping, relationship.property? entry = some mapping ∧
          mapping.column.name = column ∧ mapping.IsKeyMapping object entry)
        relationship.unique.properties relationship.unique.columns) ∧
    (object.variant = .literal →
      ∃ reserved further, relationship.mappings = reserved ++ further ∧
        reserved.map ColumnMapping.column =
          object.variant.reserved.map (fun own => Column.reserved own.column) ∧
        relationship.unique.properties = further.map ColumnMapping.domainName ∧
        relationship.unique.columns = further.map (·.column.name)) := by
  obtain ⟨hchecked, reserved, further, unique, hreserved, -, hunique, rfl⟩ := derive_ok_iff.mp h
  have hdecorated := DomainObject.checkDecorations_ok_iff.mp hchecked
  dsimp only
  -- Only a literal goes without a declared key; its further columns stand in for one.
  by_cases hliteral : object.variant = .literal
  · have hundeclared := (hdecorated.literal hliteral).1
    obtain ⟨hproperties, hcolumns⟩ := DomainObject.uniqueKey_of_none hundeclared hunique
    refine ⟨?_, fun hnot => absurd hliteral hnot,
      fun _ => ⟨reserved, further, rfl, ?_, hproperties, hcolumns⟩⟩
    · rw [hproperties, hcolumns, List.length_map, List.length_map]
    · symm
      refine map_eq_map_of_forall₂ (fun own mapping hmap => ?_) hreserved
      exact (DomainObject.mapReserved_column hmap).symm
  · obtain ⟨entries, hdeclared, hne⟩ := hdecorated.unique hliteral
    obtain ⟨rfl, hcolumns⟩ := DomainObject.uniqueKey_of_some hdeclared hunique
    have hlength := hcolumns.length_eq
    refine ⟨hlength, fun _ => ⟨hne, fun hnil => hne ?_, hdeclared, ?_⟩,
      fun hyes => absurd hyes hliteral⟩
    · rw [hnil] at hlength
      exact List.length_eq_zero_iff.mp hlength
    · refine hcolumns.imp fun entry column hcolumn => ?_
      obtain ⟨mapping, hfind, hname⟩ := hcolumn
      exact ⟨mapping, hfind, hname, isKeyMapping_of_property? h hfind⟩

/-- An engineer boards at a platform, at the time that the row is written. -/
def boarding : DomainObject :=
  { ((DomainObject.bare "Boarding" .event).addProperty (.ofType "engineerUuid" .string)
      |>.addProperty (.ofType "platform" .string)
      |>.addProperty (.ofType "createdAt" .date)) with
    decorations := ⟨some ["createdAt", "engineerUuid", "platform"], none, none⟩ }

/-- The natural key of a boarding has one column of each kind: a reserved one, one that makes a
reference, and a plain one. -/
theorem naturalKey_of_boarding :
    ∃ relationship, derive engineers {} boarding = .ok relationship ∧
      relationship.unique.properties = ["createdAt", "engineerUuid", "platform"] ∧
      relationship.unique.columns = ["created_at", "engineer_id", "platform"] ∧
      ∃ mapping, relationship.property? "createdAt" = some mapping ∧
        mapping.column = .reserved "created_at" := by
  have hkeys : boarding.IsKeyedByName :=
    DomainObject.IsKeyedByName.bare "Boarding" .event |>.addProperty _ |>.addProperty _
      |>.addProperty _ |>.decorate _
  obtain ⟨relationship, h, hcolumns⟩ := exists_ok_of_any
    (show (derive engineers {} boarding).toOption.any (fun relationship =>
      decide (relationship.unique.columns = ["created_at", "engineer_id", "platform"])) = true by
        decide +kernel)
  obtain ⟨-, hdeclares, -⟩ := naturalKey_of_derive h
  obtain ⟨-, -, hunique, hall⟩ := hdeclares (by decide)
  have hproperties : relationship.unique.properties = ["createdAt", "engineerUuid", "platform"] :=
    (Option.some.inj hunique).symm
  rw [hproperties, hcolumns] at hall
  -- The first entry of the key is the reserved one.
  obtain ⟨⟨mapping, hfind, -, hkey⟩, -⟩ := List.forall₂_cons.mp hall
  have hcreated : ReservedColumn.createdAt ∈ boarding.variant.reserved := by decide
  exact ⟨relationship, h, hproperties, hcolumns, mapping, hfind,
    hkey.reserved hkeys _ hcreated rfl⟩

end DomainTables
