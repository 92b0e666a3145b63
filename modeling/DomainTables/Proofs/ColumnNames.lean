import DomainTables.Proofs.Derivation

/-!
# Names of columns

The columns of a derived table are named after the reserved columns of the variant and after the
further properties (`map_name_of_derive`). A property that refers to no object gives its name in
snake case. One that does gives a stem and an ending (`columnName_true`): the ending is that of its
shape, and the stem is what is left of the name without a mark of a uuid or a number. Different
properties can leave the same (`DomainObject.SharesColumn`), and nothing compares the results.

The endings keep references apart from reserved columns (`append_idEnding_ne_column`), and
references to one object from references to several (`append_idEnding_inj`). So the columns of a
table are distinct exactly if no plain property is spelled like a reserved column and no two
properties share a column (`columnNames_nodup_iff`).
-/

namespace DomainTables

/-! ## Stems and endings -/

/-- The end of the name of a column that refers to another object, or to several. -/
def idEnding (isArray : Bool) : String :=
  if isArray then "_ids" else "_id"

/-- The name of a column that refers to another object, without its ending. -/
def referenceStem (property : Property) : String :=
  let name := Text.snakeCase property.name
  if property.type.isArray then
    match Text.stemBefore? name "_uuids", Text.stemBefore? name "_ids" with
    | some stem, _ => stem
    | none, some stem => stem
    | none, none => English.singularize name
  else
    match Text.stemBefore? name "_uuid", Text.stemBefore? name "_id" with
    | some stem, _ => stem
    | none, some stem => stem
    | none, none => name

/-- A property that refers to no object names its column. -/
theorem columnName_false (property : Property) :
    columnName property false = Text.snakeCase property.name :=
  rfl

/-- The column of a property that refers to objects has the stem of the property and the ending of
its shape. -/
theorem columnName_true (property : Property) :
    columnName property true = referenceStem property ++ idEnding property.type.isArray := by
  unfold columnName referenceStem idEnding
  generalize Text.snakeCase property.name = name
  -- Where the name has the ending of its shape already, its stem is what stands before that.
  cases property.type.isArray with
  | true =>
    simp only [Bool.not_true, Bool.false_eq_true, if_false, if_true, Text.endsWith_eq_isSome]
    cases Text.stemBefore? name "_uuids" with
    | some stem => rfl
    | none =>
      cases hids : Text.stemBefore? name "_ids" with
      | some stem => exact Text.stemBefore?_eq_some_iff.mp hids
      | none => rfl
  | false =>
    simp only [Bool.not_true, Bool.false_eq_true, if_false, Text.endsWith_eq_isSome]
    cases Text.stemBefore? name "_uuid" with
    | some stem => rfl
    | none =>
      cases hid : Text.stemBefore? name "_id" with
      | some stem => exact Text.stemBefore?_eq_some_iff.mp hid
      | none => rfl

/-- Stem and ending can be told from the name of a column. -/
theorem append_idEnding_inj {stem stem' : String} {isArray isArray' : Bool} :
    stem ++ idEnding isArray = stem' ++ idEnding isArray' ↔
      stem = stem' ∧ isArray = isArray' := by
  constructor
  · intro h
    -- The last characters differ for the two endings.
    have hlast := congrArg (fun text : String => text.toList.getLast?) h
    obtain rfl : isArray = isArray' := by
      cases isArray <;> cases isArray' <;> simp [idEnding] at hlast <;> rfl
    exact ⟨(String.append_left_inj _).mp h, rfl⟩
  · rintro ⟨rfl, rfl⟩
    rfl

/-- No reserved column ends as columns do that refer to objects. -/
theorem append_idEnding_ne_column {variant : Variant} {reserved : ReservedColumn}
    (hreserved : reserved ∈ variant.reserved) (stem : String) (isArray : Bool) :
    stem ++ idEnding isArray ≠ reserved.column := by
  intro h
  have hends : Text.endsWith reserved.column (idEnding isArray) = true :=
    Text.endsWith_iff.mpr ⟨stem, h.symm⟩
  have hnone : ∀ reserved ∈ variant.reserved, ∀ isArray,
      Text.endsWith reserved.column (idEnding isArray) = false := by
    cases variant <;> decide
  rw [hnone reserved hreserved isArray] at hends
  cases hends

/-- A property is stored beside a reserved column if it refers to an object, or if it is spelled
differently. -/
theorem column_ne_columnName_iff {variant : Variant} {reserved : ReservedColumn}
    (hreserved : reserved ∈ variant.reserved) {property : Property} {isReference : Bool} :
    reserved.column ≠ columnName property isReference ↔
      (isReference = false → Text.snakeCase property.name ≠ reserved.column) := by
  cases isReference with
  | false => simp only [columnName_false, ne_comm, forall_const]
  | true =>
    rw [columnName_true]
    refine iff_of_true ?_ (fun h => by cases h)
    exact (append_idEnding_ne_column hreserved _ _).symm

/-- The reserved columns of a variant are distinct. -/
theorem Variant.nodup_reserved (variant : Variant) :
    (variant.reserved.map ReservedColumn.column).Nodup := by
  cases variant <;> decide

/-! ## Columns of a table -/

namespace DomainObject

/-- Tells whether a property of the object is classified as a reference. -/
def refers (known : Universe) (limits : Limits) (object : DomainObject) (property : Property) :
    Bool :=
  match classify known limits object.name property with
  | .ok (some _) => true
  | _ => false

/-- Two properties of an object whose columns have the same name. -/
inductive SharesColumn (known : Universe) (limits : Limits) (object : DomainObject)
    (property other : Property) : Prop where
  /-- Neither refers to an object, and both have the same name in snake case. -/
  | plain : object.refers known limits property = false →
      object.refers known limits other = false →
      Text.snakeCase property.name = Text.snakeCase other.name →
      SharesColumn known limits object property other
  /-- Both refer to one object, or both to several, and their names leave the same stem. -/
  | references : object.refers known limits property = true →
      object.refers known limits other = true →
      property.type.isArray = other.type.isArray → referenceStem property = referenceStem other →
      SharesColumn known limits object property other
  /-- The first is named like the column of the second, which refers to an object. -/
  | plainReference : object.refers known limits property = false →
      object.refers known limits other = true →
      Text.snakeCase property.name = referenceStem other ++ idEnding other.type.isArray →
      SharesColumn known limits object property other
  /-- The second is named like the column of the first, which refers to an object. -/
  | referencePlain : object.refers known limits property = true →
      object.refers known limits other = false →
      referenceStem property ++ idEnding property.type.isArray = Text.snakeCase other.name →
      SharesColumn known limits object property other

section

variable {known : Universe} {limits : Limits} {object : DomainObject}

/-- Properties share a column exactly if the names of their columns are equal. -/
theorem columnName_eq_iff {property other : Property} :
    columnName property (object.refers known limits property) =
        columnName other (object.refers known limits other) ↔
      object.SharesColumn known limits property other := by
  -- Each of the two properties refers to an object or does not, which makes four cases.
  constructor
  · intro h
    cases hp : object.refers known limits property <;>
      cases ho : object.refers known limits other <;> rw [hp, ho] at h
    case false.false => exact .plain hp ho h
    case false.true => exact .plainReference hp ho (columnName_true other ▸ h)
    case true.false => exact .referencePlain hp ho (columnName_true property ▸ h)
    case true.true =>
      rw [columnName_true, columnName_true, append_idEnding_inj] at h
      exact .references hp ho h.2 h.1
  · intro h
    cases h with
    | plain hp ho hname => rw [hp, ho, columnName_false, columnName_false, hname]
    | references hp ho hshape hstem =>
      rw [hp, ho, columnName_true, columnName_true, hshape, hstem]
    | plainReference hp ho hname => rw [hp, ho, columnName_false, columnName_true, hname]
    | referencePlain hp ho hname => rw [hp, ho, columnName_true, columnName_false, hname]

instance (property other : Property) :
    Decidable (object.SharesColumn known limits property other) :=
  decidable_of_iff _ columnName_eq_iff

/-- The column of a further property is named after the property. -/
theorem name_of_mapProperty {property : Property} {mapping : ColumnMapping}
    (h : object.mapProperty known limits property = .ok mapping) :
    columnName property (object.refers known limits property) = mapping.column.name := by
  obtain ⟨-, found, hclassify, rfl⟩ := mapProperty_ok_iff.mp h
  rw [refers, hclassify]
  cases found <;> rfl

end

end DomainObject

section

variable {known : Universe} {limits : Limits} {object : DomainObject} {relationship : Relationship}

/-- The columns of a table have the names of the reserved columns, and then those that the further
properties give. -/
theorem map_name_of_derive (h : derive known limits object = .ok relationship) :
    relationship.mappings.map (·.column.name) =
      object.variant.reserved.map ReservedColumn.column ++
        object.furtherProperties.map fun property =>
          columnName property (object.refers known limits property) := by
  obtain ⟨-, reserved, further, unique, hreserved, hfurther, -, rfl⟩ := derive_ok_iff.mp h
  rw [List.map_append]
  congr 1
  · refine (map_eq_map_of_forall₂ (fun column mapping hmap => ?_) hreserved).symm
    rw [DomainObject.mapReserved_column hmap]
    rfl
  · exact (map_eq_map_of_forall₂
      (fun _ _ hmap => DomainObject.name_of_mapProperty hmap) hfurther).symm

/-- The columns of a table are distinct exactly if no two further properties share a column, and
none that refers to no object is spelled like a reserved column. -/
theorem columnNames_nodup_iff (h : derive known limits object = .ok relationship) :
    (relationship.mappings.map (·.column.name)).Nodup ↔
      object.furtherProperties.Pairwise
        (fun property other => ¬ object.SharesColumn known limits property other) ∧
      ∀ property ∈ object.furtherProperties, object.refers known limits property = false →
        ∀ reserved ∈ object.variant.reserved,
          Text.snakeCase property.name ≠ reserved.column := by
  rw [map_name_of_derive h, List.nodup_append]
  -- The columns of further properties are distinct among themselves if none is shared.
  have hfurther : (object.furtherProperties.map fun property =>
        columnName property (object.refers known limits property)).Nodup ↔
      object.furtherProperties.Pairwise
        (fun property other => ¬ object.SharesColumn known limits property other) := by
    simp only [List.Nodup, List.pairwise_map, ne_eq, DomainObject.columnName_eq_iff]
  -- They are distinct from the reserved columns if no plain one is spelled like one of these.
  have hreserved : (∀ column ∈ object.variant.reserved.map ReservedColumn.column,
        ∀ name ∈ object.furtherProperties.map fun property =>
          columnName property (object.refers known limits property), column ≠ name) ↔
      ∀ property ∈ object.furtherProperties, object.refers known limits property = false →
        ∀ reserved ∈ object.variant.reserved,
          Text.snakeCase property.name ≠ reserved.column := by
    simp only [List.forall_mem_map]
    constructor
    · intro hall property hproperty hplain reserved hmem
      exact (column_ne_columnName_iff hmem).mp (hall reserved hmem property hproperty) hplain
    · intro hall reserved hmem property hproperty
      exact (column_ne_columnName_iff hmem).mpr fun hplain =>
        hall property hproperty hplain reserved hmem
  rw [hfurther, hreserved]
  exact and_iff_right object.variant.nodup_reserved

end

/-- The engineers that a shift can be given to. -/
def engineers : Universe :=
  ⟨[{ (DomainObject.bare "Engineer" .entity).addProperty (.ofType "code" .string) with
    decorations := ⟨some ["code"], some [], none⟩ }], by decide⟩

/-- A shift of an engineer, with a number under the given name. -/
def shift (name : String) : DomainObject :=
  (DomainObject.bare "Shift" .literal).addProperty (.ofType "engineerUuid" .string)
    |>.addProperty (.ofType name .number)

/-- The columns of a shift with its hours are distinct. -/
theorem columnNames_nodup_of_hours :
    ∃ relationship, derive engineers {} (shift "hours") = .ok relationship ∧
      (relationship.mappings.map (·.column.name)).Nodup := by
  obtain ⟨relationship, h⟩ := exists_ok_of_toBool
    (show (derive engineers {} (shift "hours")).toBool = true by decide +kernel)
  exact ⟨relationship, h, (columnNames_nodup_iff h).mpr (by decide +kernel)⟩

/-- A shift that has the number of its engineer next to the uuid has two columns of one name. -/
theorem columnNames_of_engineerId :
    ∃ relationship, derive engineers {} (shift "engineerId") = .ok relationship ∧
      relationship.mappings.map (·.column.name) = ["id", "engineer_id", "engineer_id"] ∧
      ¬ (relationship.mappings.map (·.column.name)).Nodup := by
  obtain ⟨relationship, h⟩ := exists_ok_of_toBool
    (show (derive engineers {} (shift "engineerId")).toBool = true by decide +kernel)
  have hnames : relationship.mappings.map (·.column.name) =
      ["id", "engineer_id", "engineer_id"] := by
    rw [map_name_of_derive h]
    decide +kernel
  refine ⟨relationship, h, hnames, ?_⟩
  rw [hnames]
  decide

end DomainTables
