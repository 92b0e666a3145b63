import Mathlib.Data.List.Count
import DomainTables.Metadata.Object
import DomainTables.Proofs.Compilation

/-!
# The properties that columns carry

The reserved columns look up by key whether a property repeats them, and the further columns are
those of the properties whose names are not reserved. So a property has a column for each reserved
key that it is declared under, and one more for each key at all unless its name is reserved
(`carriers_of_derive`).

An object that is built property by property has each under its own name
(`DomainObject.IsKeyedByName.addProperty`). Then the two rules complement each other, and every
property has exactly one column (`columns_of_derive`). Objects that are read from a text can have
any keys, and a property whose key and name are not reserved alike has two columns or none
(`carriers_of_compile`).
-/

namespace DomainTables

/-! ## Reserved names -/

namespace Variant

/-- The reserved names of a variant are those of the properties that repeat its columns. -/
theorem isReserved_iff {variant : Variant} {name : String} :
    variant.isReserved name = true ↔ name ∈ variant.reserved.map ReservedColumn.property := by
  simp only [isReserved, List.any_eq_true, beq_iff_eq, List.mem_map]

/-- No two reserved columns of a variant are repeated by the same property. -/
theorem nodup_map_property_reserved (variant : Variant) :
    (variant.reserved.map ReservedColumn.property).Nodup := by
  cases variant <;> decide

end Variant

/-! ## Declarations -/

namespace DomainObject

variable {object : DomainObject} {property : Property}

/-- The keys under which an object declares a property. -/
def keysOf (object : DomainObject) (property : Property) : List String :=
  (object.properties.toList.filter fun entry => entry.2 == property).map (·.1)

/-- The keys of a property are those of the entries that hold it. -/
theorem mem_keysOf_iff {key : String} :
    key ∈ object.keysOf property ↔ (key, property) ∈ object.properties.toList := by
  simp [keysOf]

/-- A property has no key twice. -/
theorem nodup_keysOf (object : DomainObject) (property : Property) :
    (object.keysOf property).Nodup :=
  object.properties.nodup.sublist (List.filter_sublist.map _)

/-- A property has a key for each of its declarations. -/
theorem length_keysOf (object : DomainObject) (property : Property) :
    (object.keysOf property).length = object.propertyList.count property := by
  rw [keysOf, List.length_map, propertyList, List.count, List.countP_map,
    List.countP_eq_length_filter]
  rfl

/-- The property under a key is the one that the key is a key of. -/
theorem property?_eq_some_iff {key : String} :
    object.property? key = some property ↔ key ∈ object.keysOf property := by
  rw [mem_keysOf_iff, property?, Option.map_eq_some_iff]
  constructor
  · rintro ⟨entry, hentry, rfl⟩
    obtain ⟨hmem, rfl⟩ := Keyed.find?_eq_some_iff.mp hentry
    exact hmem
  · intro hmem
    exact ⟨(key, property), Keyed.find?_eq_some_iff.mpr ⟨hmem, rfl⟩, rfl⟩

/-- An object that declares its properties under their own names. -/
def IsKeyedByName (object : DomainObject) : Prop :=
  ∀ entry ∈ object.properties.toList, entry.1 = entry.2.name

namespace IsKeyedByName

/-- An object without properties declares them all under their names. -/
theorem bare (name : String) (variant : Variant) : (bare name variant).IsKeyedByName :=
  fun _ h => nomatch h

/-- A property that is added is declared under its name. -/
theorem addProperty (h : object.IsKeyedByName) (property : Property) :
    (object.addProperty property).IsKeyedByName := by
  intro entry hentry
  rcases Keyed.eq_or_mem_of_mem_insert hentry with rfl | hmem
  · rfl
  · exact h entry hmem

/-- Decorations change no key. -/
theorem decorate (h : object.IsKeyedByName) (decorations : Decorations) :
    { object with decorations := decorations }.IsKeyedByName :=
  h

/-- A key of a property is the name of the property. -/
theorem mem_keysOf_iff (h : object.IsKeyedByName) {key : String} :
    key ∈ object.keysOf property ↔ property ∈ object.propertyList ∧ key = property.name := by
  rw [DomainObject.mem_keysOf_iff]
  constructor
  · intro hmem
    exact ⟨List.mem_map.mpr ⟨_, hmem, rfl⟩, h _ hmem⟩
  · rintro ⟨hproperty, rfl⟩
    obtain ⟨entry, hentry, rfl⟩ := List.mem_map.mp hproperty
    rw [← h entry hentry]
    exact hentry

/-- A declared property has one key. -/
theorem length_keysOf (h : object.IsKeyedByName) (property : Property) :
    (object.keysOf property).length = if property ∈ object.propertyList then 1 else 0 := by
  split
  · next hproperty =>
    -- Keys do not repeat, so the one that is the property's name is all there is.
    have hperm : (object.keysOf property).Perm [property.name] := by
      refine (List.perm_ext_iff_of_nodup (object.nodup_keysOf property)
        (List.nodup_singleton _)).mpr fun key => ?_
      rw [h.mem_keysOf_iff, and_iff_right hproperty, List.mem_singleton]
    exact hperm.length_eq
  · next hproperty =>
    rw [DomainObject.length_keysOf, List.count_eq_zero]
    exact hproperty

end IsKeyedByName

end DomainObject

/-- A type is an array if it has elements. -/
theorem PropertyType.isArray_iff {type : PropertyType} :
    type.isArray = true ↔ ∃ element, type = .array element := by
  cases type <;> simp [isArray]

/-! ## Columns -/

/-- The number of columns that carry a property. -/
def Relationship.carriers (relationship : Relationship) (property : Property) : Nat :=
  (relationship.mappings.map ColumnMapping.property).count (some property)

namespace ColumnMapping

/-- The mapping of a reserved column: the database fills the column in, and it carries the property
that repeats it. -/
structure IsReserved (object : DomainObject) (reserved : ReservedColumn)
    (mapping : ColumnMapping) : Prop where
  /-- The column has its fixed name. -/
  name : mapping.column.name = reserved.column
  /-- It is never null. -/
  isNullable : mapping.column.isNullable = false
  /-- It is never updated. -/
  isUpdatable : mapping.column.isUpdatable = false
  /-- It holds no list. -/
  isArray : mapping.column.isArray = false
  /-- It makes no reference. -/
  reference : mapping.column.reference = none
  /-- It carries the declared property of the name that is reserved for it, if there is one. -/
  carries_iff : ∀ property, mapping.property = some property ↔
    property ∈ object.propertyList ∧ property.name = reserved.property

/-- The mapping of a property that repeats no reserved column: the column has the flags of the
declaration. -/
structure IsFurther (object : DomainObject) (property : Property)
    (mapping : ColumnMapping) : Prop where
  /-- The column carries the property, unchanged. -/
  carries : mapping.property = some property
  /-- It may be null if the property may. -/
  isNullable : mapping.column.isNullable = property.nullable
  /-- It may be updated if the object lists the name of the property as updatable. -/
  isUpdatable : mapping.column.isUpdatable = true ↔
    ∃ names ∈ object.decorations.updatable, property.name ∈ names
  /-- It holds a list if the property is one. -/
  isArray : mapping.column.isArray = true ↔ ∃ element, property.type = .array element

end ColumnMapping

namespace DomainObject

variable {object : DomainObject} {property : Property} {mapping : ColumnMapping}

/-- A property may be updated if it is in the list of updatable properties. -/
theorem isUpdatable_iff {name : String} :
    object.isUpdatable name = true ↔ ∃ names ∈ object.decorations.updatable, name ∈ names := by
  rw [isUpdatable, updatableNames, List.contains_iff_mem]
  cases object.decorations.updatable <;> simp

/-- A reserved column carries what is declared under its key. -/
theorem property_of_mapReserved {reserved : ReservedColumn}
    (h : object.mapReserved reserved = .ok mapping) :
    object.property? reserved.property = mapping.property := by
  unfold mapReserved at h
  -- What is declared under the key is taken over or refused; it is never dropped silently.
  split at h
  · next hnone =>
    cases h
    exact hnone
  · next found hsome =>
    split at h
    · cases h
      exact hsome
    · cases h

/-- Where keys are names, a reserved column carries the property that has its name. -/
theorem isReserved_of_mapReserved (hkeys : object.IsKeyedByName) {reserved : ReservedColumn}
    (h : object.mapReserved reserved = .ok mapping) : mapping.IsReserved object reserved := by
  have hcarries : ∀ property, mapping.property = some property ↔
      property ∈ object.propertyList ∧ property.name = reserved.property := by
    intro property
    rw [← property_of_mapReserved h, property?_eq_some_iff, hkeys.mem_keysOf_iff, eq_comm]
  obtain ⟨carried, column⟩ := mapping
  obtain rfl : column = .reserved reserved.column := mapReserved_column h
  exact ⟨rfl, rfl, rfl, rfl, rfl, hcarries⟩

/-- A further column has the flags of its property. -/
theorem isFurther_of_mapProperty {known : Universe} {limits : Limits}
    (h : object.mapProperty known limits property = .ok mapping) :
    mapping.IsFurther object property := by
  obtain ⟨-, found, -, rfl⟩ := mapProperty_ok_iff.mp h
  exact ⟨rfl, rfl, isUpdatable_iff, PropertyType.isArray_iff⟩

/-- Further columns carry the properties that they are made for. -/
theorem map_property_of_mapProperty {known : Universe} {limits : Limits}
    {properties : List Property} {further : List ColumnMapping}
    (h : List.Forall₂ (fun property mapping =>
      object.mapProperty known limits property = .ok mapping) properties further) :
    further.map ColumnMapping.property = properties.map some := by
  refine (map_eq_map_of_forall₂ (fun property mapping hmap => ?_) h).symm
  exact (isFurther_of_mapProperty hmap).carries.symm

/-- What the columns of an object's table carry, in their order: a reserved column what is declared
under its key, if anything is, and each further column its property. -/
def carried (object : DomainObject) : List (Option Property) :=
  (object.variant.reserved.map fun reserved => object.property? reserved.property) ++
    object.furtherProperties.map some

/-- The columns of an object carry these properties, whether or not its table is derived. -/
theorem map_property_append {known : Universe} {limits : Limits}
    {reserved further : List ColumnMapping}
    (hreserved : List.Forall₂ (fun column mapping => object.mapReserved column = .ok mapping)
      object.variant.reserved reserved)
    (hfurther : List.Forall₂ (fun property mapping =>
      object.mapProperty known limits property = .ok mapping) object.furtherProperties further) :
    (reserved ++ further).map ColumnMapping.property = object.carried := by
  rw [List.map_append, carried, map_property_of_mapProperty hfurther]
  congr 1
  exact (map_eq_map_of_forall₂ (fun _ _ hmap => property_of_mapReserved hmap) hreserved).symm

/-- Lists without repetitions have equally many elements in common with each other. -/
theorem countP_mem_comm {names names' : List String} (h : names.Nodup) (h' : names'.Nodup) :
    names.countP (· ∈ names') = names'.countP (· ∈ names) := by
  rw [List.countP_eq_length_filter, List.countP_eq_length_filter]
  refine ((List.perm_ext_iff_of_nodup (h.filter _) (h'.filter _)).mpr fun name => ?_).length_eq
  simp only [List.mem_filter, decide_eq_true_eq, and_comm]

/-- A property is found under as many reserved keys as it is declared under. -/
theorem count_property?_reserved (object : DomainObject) (property : Property) :
    (object.variant.reserved.map fun reserved => object.property? reserved.property).count
        (some property) =
      (object.keysOf property).countP object.variant.isReserved := by
  have hlookup : ∀ key, (object.property? key == some property) =
      decide (key ∈ object.keysOf property) := by
    intro key
    rw [Bool.eq_iff_iff, beq_iff_eq, decide_eq_true_eq, property?_eq_some_iff]
  have hreserved : ∀ key, object.variant.isReserved key =
      decide (key ∈ object.variant.reserved.map ReservedColumn.property) := by
    intro key
    rw [Bool.eq_iff_iff, decide_eq_true_eq, Variant.isReserved_iff]
  -- Neither the reserved names nor the keys repeat, so it does not matter which of them are looked
  -- up among the others.
  calc (object.variant.reserved.map fun reserved => object.property? reserved.property).count
        (some property)
      = (object.variant.reserved.map ReservedColumn.property).countP
          (· ∈ object.keysOf property) := by
        simp only [List.count, List.countP_map, Function.comp_def, hlookup]
    _ = (object.keysOf property).countP
          (· ∈ object.variant.reserved.map ReservedColumn.property) :=
        countP_mem_comm object.variant.nodup_map_property_reserved (object.nodup_keysOf property)
    _ = (object.keysOf property).countP object.variant.isReserved := by
        simp only [← hreserved]

/-- A property is among the further ones as often as it is declared, unless its name is reserved. -/
theorem count_furtherProperties (object : DomainObject) (property : Property) :
    object.furtherProperties.count property =
      if object.variant.isReserved property.name then 0
      else (object.keysOf property).length := by
  split
  · next hreserved =>
    refine List.count_eq_zero.mpr fun hmem => ?_
    simp [furtherProperties, hreserved] at hmem
  · next hfurther =>
    rw [furtherProperties, List.count_filter (by simpa using hfurther), length_keysOf]

end DomainObject

section

variable {known : Universe} {limits : Limits} {object : DomainObject} {relationship : Relationship}

/-- The properties that the columns of a table carry: those under the reserved keys, and those with
further names. -/
theorem map_property_of_derive (h : derive known limits object = .ok relationship) :
    relationship.mappings.map ColumnMapping.property = object.carried := by
  obtain ⟨-, reserved, further, unique, hreserved, hfurther, -, rfl⟩ := derive_ok_iff.mp h
  exact DomainObject.map_property_append hreserved hfurther

/-- A property has a column for each of its reserved keys, and one more for each key at all unless
its name is reserved. -/
theorem carriers_of_derive (h : derive known limits object = .ok relationship)
    (property : Property) :
    relationship.carriers property =
      (object.keysOf property).countP object.variant.isReserved +
        if object.variant.isReserved property.name then 0
        else (object.keysOf property).length := by
  have hfurther : (object.furtherProperties.map some).count (some property) =
      object.furtherProperties.count property :=
    List.count_map_of_injective _ some (fun _ _ => Option.some.inj) property
  rw [Relationship.carriers, map_property_of_derive h, DomainObject.carried, List.count_append,
    object.count_property?_reserved, hfurther, object.count_furtherProperties]

/-- A property has a column for each of its keys exactly if its keys are reserved as its name is. -/
theorem carriers_eq_length_keysOf_iff (h : derive known limits object = .ok relationship)
    (property : Property) :
    relationship.carriers property = (object.keysOf property).length ↔
      ∀ key ∈ object.keysOf property,
        object.variant.isReserved key = object.variant.isReserved property.name := by
  rw [carriers_of_derive h]
  cases object.variant.isReserved property.name with
  | true =>
    -- Only the reserved keys count, so all of them have to be reserved.
    rw [if_pos rfl, Nat.add_zero, List.countP_eq_length]
  | false =>
    -- All keys count already, so a reserved one would count twice.
    rw [if_neg Bool.false_ne_true, Nat.add_eq_right, List.countP_eq_zero]
    simp only [Bool.not_eq_true]

/-- Derivation loses and duplicates nothing. Where properties are declared under their names, a
table has the reserved columns of the variant, and after them a column for each further property in
the order of declaration. Every declared property has exactly one column, and the columns carry no
other. -/
theorem columns_of_derive (hkeys : object.IsKeyedByName)
    (h : derive known limits object = .ok relationship) :
    (∃ reserved further, relationship.mappings = reserved ++ further ∧
      List.Forall₂ (fun column mapping => mapping.IsReserved object column)
        object.variant.reserved reserved ∧
      List.Forall₂ (fun property mapping => mapping.IsFurther object property)
        (object.propertyList.filter fun property => !object.variant.isReserved property.name)
        further) ∧
    ∀ property, relationship.carriers property =
      if property ∈ object.propertyList then 1 else 0 := by
  constructor
  · obtain ⟨-, reserved, further, unique, hreserved, hfurther, -, rfl⟩ := derive_ok_iff.mp h
    exact ⟨reserved, further, rfl,
      hreserved.imp fun _ _ hmap => DomainObject.isReserved_of_mapReserved hkeys hmap,
      hfurther.imp fun _ _ hmap => DomainObject.isFurther_of_mapProperty hmap⟩
  · -- The only key of a property is its name, so key and name are reserved alike.
    intro property
    rw [← hkeys.length_keysOf, carriers_eq_length_keysOf_iff h]
    intro key hkey
    rw [(hkeys.mem_keysOf_iff.mp hkey).2]

/-- In a compilation, every object has the table that is derived for it. -/
theorem exists_derive_of_compile {objects : List DomainObject} {compilation : Compilation}
    (h : compile limits objects = .ok compilation) (hobject : object ∈ objects) :
    ∃ known relationship, compilation.relationships.find? object.name = some relationship ∧
      derive known limits object = .ok relationship := by
  obtain ⟨known, rfl, hderiveAll, -⟩ := compile_ok_iff.mp h
  exact ⟨known, exists_find?_of_deriveAll hderiveAll hobject⟩

/-- In a compilation, the columns of an object carry each of its properties as often as the keys and
the name of the property say. They do so once for each declaration exactly if all keys of the
property are reserved as its name is. -/
theorem carriers_of_compile {objects : List DomainObject} {compilation : Compilation}
    (h : compile limits objects = .ok compilation) (hobject : object ∈ objects) :
    ∃ relationship, compilation.relationships.find? object.name = some relationship ∧
      ∀ property,
        (relationship.carriers property =
          (object.keysOf property).countP object.variant.isReserved +
            if object.variant.isReserved property.name then 0
            else (object.keysOf property).length) ∧
        (relationship.carriers property = (object.keysOf property).length ↔
          ∀ key ∈ object.keysOf property,
            object.variant.isReserved key = object.variant.isReserved property.name) := by
  obtain ⟨known, relationship, hfind, hderive⟩ := exists_derive_of_compile h hobject
  exact ⟨relationship, hfind, fun property =>
    ⟨carriers_of_derive hderive property, carriers_eq_length_keysOf_iff hderive property⟩⟩

end

/-- A locomotive that repeats two of its reserved columns, one of them with a property that may be
null. -/
def locomotive : DomainObject :=
  { ((DomainObject.bare "Locomotive" .entity).addProperty (.ofType "ein" .string)
      |>.addProperty (Property.ofType "id" .number).asNullable
      |>.addProperty (.ofType "uuid" .string)
      |>.addProperty (.ofType "gauge" .number)) with
    decorations := ⟨some ["ein"], some ["gauge"], none⟩ }

/-- Each property of the locomotive has exactly one column, and the number of its row is never
null. -/
theorem columns_of_locomotive :
    locomotive.IsKeyedByName ∧
      ∃ relationship, derive .empty {} locomotive = .ok relationship ∧
        (∀ property ∈ locomotive.propertyList, relationship.carriers property = 1) ∧
        ∃ mapping ∈ relationship.mappings,
          mapping.property = some (Property.ofType "id" .number).asNullable ∧
          mapping.column.isNullable = false := by
  have hkeys : locomotive.IsKeyedByName :=
    DomainObject.IsKeyedByName.bare "Locomotive" .entity |>.addProperty _ |>.addProperty _
      |>.addProperty _ |>.addProperty _ |>.decorate _
  have hderives : (derive .empty {} locomotive).toBool = true := by decide +kernel
  obtain ⟨relationship, h⟩ := exists_ok_of_toBool hderives
  obtain ⟨⟨reserved, further, hmappings, hreserved, -⟩, hcarriers⟩ := columns_of_derive hkeys h
  refine ⟨hkeys, relationship, h, fun property hproperty => ?_, ?_⟩
  · rw [hcarriers, if_pos hproperty]
  · -- The id is declared nullable, but its column is reserved, and so keeps its flags.
    have hid : ReservedColumn.id ∈ locomotive.variant.reserved := by decide
    obtain ⟨mapping, hmem, hmapping⟩ := exists_right_of_forall₂ hreserved hid
    exact ⟨mapping, hmappings ▸ List.mem_append_left _ hmem,
      (hmapping.carries_iff _).mpr (by decide), hmapping.isNullable⟩

/-- A tally that declares its number and its count under the given keys. -/
def tally (idKey countKey : String) : DomainObject :=
  { DomainObject.bare "Tally" .literal with
    properties := .ofList [(idKey, ⟨"id", .number, false, false⟩),
      (countKey, ⟨"count", .number, false, false⟩)] }

/-- The properties of a tally whose keys are their names have one column each. -/
theorem carriers_of_tally :
    ∃ compilation relationship, compile {} [tally "id" "count"] = .ok compilation ∧
      compilation.relationships.find? "Tally" = some relationship ∧
      relationship.carriers ⟨"id", .number, false, false⟩ = 1 ∧
      relationship.carriers ⟨"count", .number, false, false⟩ = 1 := by
  have hcompiles : (compile {} [tally "id" "count"]).toBool = true := by decide +kernel
  obtain ⟨compilation, h⟩ := exists_ok_of_toBool hcompiles
  obtain ⟨relationship, hfind, hcarriers⟩ := carriers_of_compile h (List.mem_singleton_self _)
  refine ⟨compilation, relationship, h, hfind, ?_, ?_⟩
  · exact (hcarriers _).2.mpr (by decide)
  · exact (hcarriers _).2.mpr (by decide)

/-- The text of a tally that declares its number and its count under the name of each other. -/
def crossedTallyText : String :=
  "[\x7b\"name\":\"Tally\",\"variant\":\"LITERAL\",\"properties\":\x7b" ++
    "\"count\":\x7b\"name\":\"id\",\"type\":\x7b\"kind\":\"number\"\x7d\x7d," ++
    "\"id\":\x7b\"name\":\"count\",\"type\":\x7b\"kind\":\"number\"\x7d\x7d\x7d\x7d]"

/-- The crossed tally is read from its text and compiled, but its number has no column, and its
count has two. -/
theorem carriers_of_crossedTally :
    Metadata.readObjects? crossedTallyText = some [tally "count" "id"] ∧
      ∃ compilation relationship, compile {} [tally "count" "id"] = .ok compilation ∧
        compilation.relationships.find? "Tally" = some relationship ∧
        (tally "count" "id").propertyList =
          [⟨"id", .number, false, false⟩, ⟨"count", .number, false, false⟩] ∧
        relationship.carriers ⟨"id", .number, false, false⟩ = 0 ∧
        relationship.carriers ⟨"count", .number, false, false⟩ = 2 := by
  -- The text is read before it is counted, so such keys are known to come in from outside.
  have hread : Metadata.readObjects? crossedTallyText = some [tally "count" "id"] := by
    decide +kernel
  have hcompiles : (compile {} [tally "count" "id"]).toBool = true := by decide +kernel
  obtain ⟨compilation, h⟩ := exists_ok_of_toBool hcompiles
  obtain ⟨known, relationship, hfind, hderive⟩ :=
    exists_derive_of_compile h (List.mem_singleton_self _)
  refine ⟨hread, compilation, relationship, h, hfind, rfl, ?_, ?_⟩
  · rw [carriers_of_derive hderive]
    decide
  · rw [carriers_of_derive hderive]
    decide

end DomainTables
