import DomainTables.Proofs.ColumnNames
import DomainTables.Proofs.Nesting
import DomainTables.Proofs.References

/-!
# What generators rely on

A generator reads columns without asking again what they are: it takes for granted that a column
with a reference stores a property whose declaration says so, that the table referred to is there
and has the columns by which its rows are found, and that arrays are arrays on both sides. A mapping
of which all this is true is coherent (`ColumnMapping.IsCoherent`). The facts come from different
places: the shape of the property from its classification (`declares_of_classify`), the columns of
the other table from the variant of its object (`column?_of_derive`), the presence of that table
from the order of provisioning, and the ending of the name from the stem (`columnName_true`).

Every mapping of a compilation is coherent, and so every key by which an expression finds the rows
that a column refers to is a column of a table (`Sql.keys_of_read`). That a nested object is a
literal is said by the type of the property. The declaration may differ, which is the one thing that
a compilation does not see to (`isCoherent_of_compile`).
-/

namespace DomainTables

/-! ## Coherent columns -/

/-- The declaration of a property says that its column makes a reference, by nesting a literal or by
a uuid. -/
inductive Property.Declares (property : Property) : ColumnReference → Prop where
  /-- The property nests a literal. -/
  | nested {target : ObjectReference} : property.type = .reference target →
      target.variant = .literal → Declares property ⟨.directByNesting, target⟩
  /-- The property nests a list of literals. -/
  | nestedList {target : ObjectReference} : property.type = .array (.reference target) →
      target.variant = .literal → Declares property ⟨.directByNesting, target⟩
  /-- The property is a text, and its name a stem and the mark of a uuid. -/
  | uuid {stem : String} {target : ObjectReference} : property.type = .string →
      property.name = stem ++ "Uuid" → stem ≠ "" → Declares property ⟨.implicitByUuid, target⟩
  /-- The property is a list of texts, and its name a stem and the mark of uuids. -/
  | uuids {stem : String} {target : ObjectReference} : property.type = .array .string →
      property.name = stem ++ "Uuids" → stem ≠ "" → Declares property ⟨.implicitByUuid, target⟩

/-- The first column of a name is one that the database fills in. -/
def Relationship.HasReserved (relationship : Relationship) (name : String) : Prop :=
  ∃ mapping, relationship.column? name = some mapping ∧ mapping.column = .reserved name

/-- The table that a reference is to is there and has the columns by which its rows are found: a
column `id`, and a column `uuid` if a uuid refers to them. -/
def ColumnReference.HasTarget (relationships : Relationships) (reference : ColumnReference) :
    Prop :=
  ∃ target, relationships.get reference.target.name = .ok target ∧
    target.HasReserved "id" ∧ (reference.method = .implicitByUuid → target.HasReserved "uuid")

/-- The reference of a column is one that its property declares, to a table whose rows are found. -/
structure ColumnReference.IsCoherent (relationships : Relationships) (mapping : ColumnMapping)
    (reference : ColumnReference) : Prop where
  /-- The column stores a property that declares the reference. -/
  property : ∃ property, mapping.property = some property ∧ property.Declares reference
  /-- The other table is there, with its columns. -/
  target : reference.HasTarget relationships
  /-- The name of the column ends in `_id`, or in `_ids` if the column is an array. -/
  name : ∃ stem, mapping.column.name = stem ++ idEnding mapping.column.isArray

/-- A column agrees with the property that it stores and with the table that it refers to. -/
structure ColumnMapping.IsCoherent (relationships : Relationships) (mapping : ColumnMapping) :
    Prop where
  /-- The column is an array exactly if it stores a property that is one. -/
  isArray : mapping.column.isArray = mapping.property.any fun property => property.type.isArray
  /-- An array without a reference is a list of texts that are uuids by the name. -/
  plain : mapping.column.reference = none → mapping.column.isArray = true →
    ∃ property stem, mapping.property = some property ∧ property.type = .array .string ∧
      property.name = stem ++ "Uuids"
  /-- A reference is coherent. -/
  reference : ∀ reference, mapping.column.reference = some reference →
    reference.IsCoherent relationships mapping

/-- An object that the reference nests is declared as a literal. -/
def ColumnReference.NestsLiteral (objects : List DomainObject) (reference : ColumnReference) :
    Prop :=
  reference.method = .directByNesting →
    ∃ declared ∈ objects, declared.name = reference.target.name ∧ declared.variant = .literal

section

variable {known : Universe} {limits : Limits} {object : DomainObject}

/-- A property that is classified as a reference declares it. -/
theorem declares_of_classify {owner : String} {property : Property} {reference : ColumnReference}
    (h : classify known limits owner property = .ok (some reference)) :
    property.Declares reference := by
  -- Nesting shows in the type alone, a uuid in the type and the name.
  rcases classify_some_iff.mp h with ⟨target, hnests, hdirect⟩ | ⟨stem, hcandidate, himplicit⟩
  · obtain ⟨hliteral, -, rfl⟩ := classifyDirect_ok_iff.mp hdirect
    unfold PropertyType.nested? at hnests
    split at hnests
    · next htype =>
      cases hnests
      exact .nested htype hliteral
    · next htype =>
      cases hnests
      exact .nestedList htype hliteral
    · cases hnests
  · obtain ⟨target, -, -, -, rfl⟩ := classifyImplicit_some_iff.mp himplicit
    obtain ⟨hstem, ⟨htype, hname⟩ | ⟨htype, hname⟩⟩ :=
      Candidate.ofProperty_eq_implicit_iff.mp hcandidate
    · exact .uuid htype hname hstem
    · exact .uuids htype hname hstem

/-- Every table has a column `id`. -/
theorem Variant.id_mem_reserved (variant : Variant) : ReservedColumn.id ∈ variant.reserved := by
  cases variant <;> simp [reserved]

/-- The tables of objects with a uuid have a column `uuid`. -/
theorem Variant.uuid_mem_reserved {variant : Variant} (h : variant.isIdentifiable = true) :
    ReservedColumn.uuid ∈ variant.reserved := by
  cases variant with
  | literal => cases h
  | entity | event => simp [reserved]

/-- No reserved column holds a list. -/
theorem Variant.isArray_reserved {variant : Variant} {reserved : ReservedColumn}
    (h : reserved ∈ variant.reserved) : reserved.type.isArray = false := by
  have hall : ∀ reserved ∈ variant.reserved, reserved.type.isArray = false := by
    cases variant <;> decide
  exact hall reserved h

/-- A reserved column is coherent: it makes no reference and holds no list. -/
theorem isCoherent_of_mapReserved (relationships : Relationships) {reserved : ReservedColumn}
    (hreserved : reserved ∈ object.variant.reserved) {mapping : ColumnMapping}
    (h : object.mapReserved reserved = .ok mapping) : mapping.IsCoherent relationships := by
  have hcolumn := DomainObject.mapReserved_column h
  refine ⟨?_, fun _ harray => ?_, fun reference hreference => ?_⟩
  · rw [hcolumn]
    cases hproperty : mapping.property with
    | none => rfl
    | some property =>
      have htype := DomainObject.type_of_mapReserved h hproperty
      -- No reserved column is an array, so a property that takes one over has a plain type too.
      rw [Option.any_some, htype, Variant.isArray_reserved hreserved]
      rfl
  · rw [hcolumn] at harray
    cases harray
  · rw [hcolumn] at hreference
    cases hreference

/-- A further column is coherent if the table that it refers to is there, with its columns. -/
theorem isCoherent_of_mapProperty {relationships : Relationships} {property : Property}
    {mapping : ColumnMapping} (h : object.mapProperty known limits property = .ok mapping)
    (htarget : ∀ reference, mapping.column.reference = some reference →
      reference.HasTarget relationships) :
    mapping.IsCoherent relationships := by
  obtain ⟨harray, found, hclassify, rfl⟩ := DomainObject.mapProperty_ok_iff.mp h
  refine ⟨rfl, fun hnone hlist => ?_, fun reference hreference => ?_⟩
  · dsimp only at hnone hlist
    rw [hnone] at hclassify
    -- Without a reference only a type that is itself an array could make a list of the column.
    cases htype : property.type with
    | array element =>
      rcases DomainObject.checkArray_ok_iff.mp harray element htype with
        ⟨target, rfl⟩ | ⟨rfl, stem, hname⟩
      · -- A list of references is not plain.
        have hnests : target ∈ property.type.nested? := by
          rw [htype]
          rfl
        cases (eq_directByNesting_of_nests hnests hclassify).1
      · exact ⟨property, stem, rfl, htype, hname⟩
    | reference | string | number | boolean | date | enum =>
      rw [htype] at hlist
      cases hlist
  · -- What is left is the column that refers, where the classification settles type and name.
    refine ⟨⟨property, rfl, ?_⟩, htarget reference hreference, referenceStem property, ?_⟩
    · dsimp only at hreference
      exact declares_of_classify (hreference ▸ hclassify)
    · dsimp only at hreference ⊢
      rw [hreference]
      exact columnName_true property

end

section

variable {known : Universe} {limits : Limits} {relationships : Relationships}
  (hderive : deriveAll known limits = .ok relationships) (hclosed : relationships.IsClosed)
  {relationship : Relationship} (hr : relationship ∈ relationships.toList)
  {mapping : ColumnMapping} (hmapping : mapping ∈ relationship.mappings)

include hderive hclosed hr hmapping

/-- The table that a column refers to is there and has the columns by which its rows are found. -/
theorem hasTarget_of_deriveAll {reference : ColumnReference}
    (hreference : mapping.column.reference = some reference) :
    reference.HasTarget relationships := by
  obtain ⟨target, hget⟩ := Sql.exists_get_of_isClosed hclosed hr hmapping hreference
  obtain ⟨ht, hname⟩ := Relationships.get_ok_iff.mp hget
  obtain ⟨object, hobject, hfrom⟩ := exists_left_of_forall₂ (deriveAll_ok_iff.mp hderive) ht
  have hid : target.HasReserved "id" := column?_of_derive hfrom object.variant.id_mem_reserved
  refine ⟨target, hget, hid, fun himplicit => ?_⟩
  -- The object referred to by uuid is the one whose table was found, and it has a uuid.
  have hidentifiable : object.variant.isIdentifiable = true := by
    rcases reference_of_deriveAll hderive hr hmapping hreference with
      ⟨_, _, _, _, _, _, _, rfl⟩ | ⟨declared, hdeclared, hdeclaredId, rfl⟩
    · cases himplicit
    · have hsame : object.name = declared.name := (domainObject_of_derive hfrom).symm.trans hname
      rwa [Keyed.eq_of_key_eq hobject hdeclared hsame]
  exact column?_of_derive hfrom (Variant.uuid_mem_reserved hidentifiable)

/-- Every column of relationships that are derived and closed is coherent. -/
theorem isCoherent_of_deriveAll : mapping.IsCoherent relationships := by
  obtain ⟨object, -, hfrom⟩ := exists_left_of_forall₂ (deriveAll_ok_iff.mp hderive) hr
  rcases exists_source_of_derive hfrom hmapping with
    ⟨reserved, hreserved, hmap⟩ | ⟨property, -, hmap⟩
  · exact isCoherent_of_mapReserved relationships hreserved hmap
  · exact isCoherent_of_mapProperty hmap fun _ => hasTarget_of_deriveAll hderive hclosed hr hmapping

/-- A reference is accurate exactly if what it nests is declared as a literal. -/
theorem isAccurate_iff_nestsLiteral {reference : ColumnReference}
    (hreference : mapping.column.reference = some reference) :
    reference.IsAccurate known.toList ↔ reference.NestsLiteral known.toList := by
  constructor
  · rintro ⟨declared, hdeclared, htarget, hliteral⟩ hmethod
    exact ⟨declared, hdeclared, congrArg ObjectReference.name htarget, hliteral hmethod⟩
  · intro hnests
    obtain ⟨declared, hdeclared, hname, hiff⟩ :=
      exists_declared hderive hclosed hr hmapping hreference
    -- The literal that is declared under the name is the one object that is.
    have hliteral : reference.method = .directByNesting → declared.variant = .literal := by
      intro hmethod
      obtain ⟨other, hother, hother', hvariant⟩ := hnests hmethod
      rwa [Keyed.eq_of_key_eq hdeclared hother (hname.trans hother'.symm)]
    refine ⟨declared, hdeclared, hiff.mpr ?_, hliteral⟩
    rintro ⟨hmethod, hid⟩
    rw [hliteral hmethod] at hid
    cases hid

end

/-! ## Keys in expressions -/

namespace Sql

mutual

/-- The columns by which a reading finds the rows that it refers to, each behind its table. -/
def Reading.keys : Reading → List (String × String)
  | .stored _ => []
  | .uuid table _ => [(table, "uuid"), (table, "id")]
  | .uuids table _ => [(table, "uuid"), (table, "id")]
  | .object table _ entries => (table, "id") :: entryKeys entries
  | .objects table _ entries => (table, "id") :: entryKeys entries
  | .named reading _ => reading.keys

/-- The columns by which the entries of an object find the rows that they refer to. -/
def entryKeys : List (String × Reading) → List (String × String)
  | [] => []
  | (_, reading) :: rest => reading.keys ++ entryKeys rest

end

/-- The keys of entries are those of their readings. -/
theorem mem_entryKeys_iff {entries : List (String × Reading)} {key : String × String} :
    key ∈ entryKeys entries ↔ ∃ entry ∈ entries, key ∈ entry.2.keys := by
  induction entries with
  | nil => simp [entryKeys]
  | cons entry rest ih => simp [entryKeys, ih]

/-- A key is a reserved column of a table. -/
def IsKey (relationships : Relationships) (key : String × String) : Prop :=
  ∃ target ∈ relationships.toList, target.table = key.1 ∧ target.HasReserved key.2

section

variable {relationships : Relationships}

/-- The reading of a reference names only keys if the table referred to has them, and if the
readings of nested objects name only keys. -/
theorem keys_of_readReference
    {entries : Relationship → Except Cause (List (String × Reading))} {method : ReferenceMethod}
    {isArray : Bool} {source : String} {target : Relationship} {reading : Reading}
    (hid : IsKey relationships (target.table, "id"))
    (huuid : method.isDirect = false → IsKey relationships (target.table, "uuid"))
    (hentries : ∀ found, entries target = .ok found →
      ∀ key ∈ entryKeys found, IsKey relationships key)
    (h : readReference entries method isArray source target = .ok reading) :
    ∀ key ∈ reading.keys, IsKey relationships key := by
  unfold readReference at h
  -- Uuids are read from the rows themselves, nested objects from the columns of the rows.
  cases hmethod : method.isDirect with
  | false =>
    have hkeys : reading.keys = [(target.table, "uuid"), (target.table, "id")] := by
      rw [hmethod] at h
      cases isArray <;> cases h <;> rfl
    rw [hkeys, List.forall_mem_cons, List.forall_mem_singleton]
    exact ⟨huuid hmethod, hid⟩
  | true =>
    have hnested : ∃ found, entries target = .ok found ∧
        reading.keys = (target.table, "id") :: entryKeys found := by
      rw [hmethod] at h
      cases isArray <;> obtain ⟨found, hfound, rfl⟩ := map_ok_iff.mp h
      · exact ⟨found, hfound, by rw [Reading.keys]⟩
      · exact ⟨found, hfound, by rw [Reading.keys]⟩
    obtain ⟨found, hfound, hkeys⟩ := hnested
    rw [hkeys, List.forall_mem_cons]
    exact ⟨hid, hentries found hfound⟩

/-- A coherent column that refers to a table finds its rows by keys. -/
theorem isKey_of_isCoherent {mapping : ColumnMapping} {reference : ColumnReference}
    {target : Relationship} (hcoherent : reference.IsCoherent relationships mapping)
    (hget : relationships.get reference.target.name = .ok target) :
    IsKey relationships (target.table, "id") ∧
      (reference.method.isDirect = false → IsKey relationships (target.table, "uuid")) := by
  obtain ⟨target', hget', hid, huuid⟩ := hcoherent.target
  obtain rfl : target' = target := Except.ok.inj (hget'.symm.trans hget)
  have ht := (Relationships.get_ok_iff.mp hget).1
  refine ⟨⟨target', ht, rfl, hid⟩, fun hmethod => ⟨target', ht, rfl, huuid ?_⟩⟩
  cases hkind : reference.method with
  | implicitByUuid => rfl
  | directByNesting | directByDeclaration =>
    rw [hkind] at hmethod
    cases hmethod

/-- The reading of a coherent column names only keys if the readings of nested objects do. -/
theorem keys_of_readColumn
    {entries : Relationship → Except Cause (List (String × Reading))} {depth : Nat}
    {table : String} {mapping : ColumnMapping} {reading : Reading}
    (hcoherent : mapping.IsCoherent relationships)
    (hentries : ∀ target ∈ relationships.toList, ∀ found, entries target = .ok found →
      ∀ key ∈ entryKeys found, IsKey relationships key)
    (h : readColumn relationships entries depth table mapping = .ok reading) :
    ∀ key ∈ reading.keys, IsKey relationships key := by
  unfold readColumn at h
  cases hreference : mapping.column.reference with
  | none =>
    rw [hreference] at h
    cases h
    exact List.forall_mem_nil _
  | some reference =>
    rw [hreference] at h
    obtain ⟨target, hget, h⟩ := bind_ok_iff.mp h
    obtain ⟨inner, hinner, h⟩ := bind_ok_iff.mp h
    -- At depth zero the reading gets a name, which changes no key.
    have hkeys : reading.keys = inner.keys := by
      split at h
      · cases h
        rw [Reading.keys]
      · cases h
        rfl
    rw [hkeys]
    obtain ⟨hid, huuid⟩ := isKey_of_isCoherent (hcoherent.reference reference hreference) hget
    exact keys_of_readReference hid huuid
      (hentries target (Relationships.get_ok_iff.mp hget).1) hinner

/-- Where all columns are coherent, a reading names only keys, however many objects are nested. -/
theorem keys_of_read
    (hall : ∀ relationship ∈ relationships.toList, ∀ mapping ∈ relationship.mappings,
      mapping.IsCoherent relationships)
    {levels depth : Nat} {table : String} {mapping : ColumnMapping} {reading : Reading}
    (hcoherent : mapping.IsCoherent relationships)
    (h : read relationships levels depth table mapping = .ok reading) :
    ∀ key ∈ reading.keys, IsKey relationships key := by
  refine read_induction (p := fun _ inner => inner.IsCoherent relationships)
    (q := fun _ nested => ∀ key ∈ nested.keys, IsKey relationships key)
    hall (fun hinner hentries hread => ?_) hcoherent h
  refine keys_of_readColumn hinner (fun target ht found hfound key hkey => ?_) hread
  obtain ⟨entry, hentry, hkey⟩ := mem_entryKeys_iff.mp hkey
  exact hentries target ht found hfound entry hentry key hkey

/-- A coherent column that refers to an object by uuid is written by looking the uuid up among
keys. -/
theorem input_of_isCoherent {mapping : ColumnMapping} {reference : ColumnReference}
    (hreference : mapping.column.reference = some reference)
    (hmethod : reference.method = .implicitByUuid)
    (hcoherent : reference.IsCoherent relationships mapping) :
    ∃ table, IsKey relationships (table, "id") ∧ IsKey relationships (table, "uuid") ∧
      input relationships mapping =
        .ok (lookUp table (":" ++ parameterName mapping) mapping.column.isArray) := by
  obtain ⟨target, hget, -⟩ := hcoherent.target
  -- Every table has an id, but only a reference that is not direct promises a uuid beside it.
  obtain ⟨hid, huuid⟩ := isKey_of_isCoherent hcoherent hget
  have himplicit : reference.method.isDirect = false := by
    rw [hmethod]
    rfl
  refine ⟨target.table, hid, huuid himplicit, ?_⟩
  rw [input, hreference]
  dsimp only
  rw [himplicit, hget]
  rfl

end

/-- The expressions of a column find the rows that it refers to by columns of their tables. -/
structure FindsByKeys (relationships : Relationships) (mapping : ColumnMapping) : Prop where
  /-- A reading names only keys. -/
  read : ∀ levels depth table reading,
    read relationships levels depth table mapping = .ok reading →
      ∀ key ∈ reading.keys, IsKey relationships key
  /-- A uuid is looked up in a table that has the columns to compare it with and to return. -/
  input : ∀ reference, mapping.column.reference = some reference →
    reference.method = .implicitByUuid →
      ∃ table, IsKey relationships (table, "id") ∧ IsKey relationships (table, "uuid") ∧
        input relationships mapping =
          .ok (lookUp table (":" ++ parameterName mapping) mapping.column.isArray)

end Sql

/-- Every column of a compilation is coherent, and its expressions find what it refers to by columns
of the tables. What columns nest is declared as a literal exactly if no object nests one with a
uuid. -/
theorem isCoherent_of_compile {limits : Limits} {objects : List DomainObject}
    {compilation : Compilation} (h : compile limits objects = .ok compilation) :
    (∀ relationship ∈ compilation.relationships.toList, ∀ mapping ∈ relationship.mappings,
      mapping.IsCoherent compilation.relationships ∧
        Sql.FindsByKeys compilation.relationships mapping) ∧
    ((∀ relationship ∈ compilation.relationships.toList, ∀ mapping ∈ relationship.mappings,
      ∀ reference, mapping.column.reference = some reference →
        reference.NestsLiteral objects) ↔
      ¬ NestsIdentifiable objects) := by
  obtain ⟨known, rfl, hderive, horder⟩ := compile_ok_iff.mp h
  -- An order was found, so every reference leads to a table of the compilation.
  have hclosed := (Relationships.provisioningOrder_ok_iff.mp horder).1
  have hcoherent : ∀ relationship ∈ compilation.relationships.toList,
      ∀ mapping ∈ relationship.mappings, mapping.IsCoherent compilation.relationships :=
    fun _ hr _ hmapping => isCoherent_of_deriveAll hderive hclosed hr hmapping
  refine ⟨fun relationship hr mapping hmapping => ⟨hcoherent _ hr _ hmapping, ?_, ?_⟩, ?_, ?_⟩
  · exact fun _ _ _ _ hread => Sql.keys_of_read hcoherent (hcoherent _ hr _ hmapping) hread
  · exact fun reference hreference hmethod => Sql.input_of_isCoherent hreference hmethod
      ((hcoherent _ hr _ hmapping).reference reference hreference)
  · -- For each reference alone the two sides agree; here that is taken over all of them at once.
    intro hnests
    refine not_nestsIdentifiable_of_isAccurate hderive fun relationship hr mapping hmapping => ?_
    exact fun reference hreference => (isAccurate_iff_nestsLiteral hderive hclosed hr hmapping
      hreference).mpr (hnests relationship hr mapping hmapping reference hreference)
  · intro hplain relationship hr mapping hmapping reference hreference
    exact (isAccurate_iff_nestsLiteral hderive hclosed hr hmapping hreference).mp
      (isAccurate_of_not_nestsIdentifiable hderive hclosed hplain hr hmapping hreference)

/-- The columns of the railway are coherent, and what they nest is declared as a literal. -/
theorem isCoherent_of_railway :
    ∃ compilation, compile {} railway = .ok compilation ∧
      ∀ relationship ∈ compilation.relationships.toList, ∀ mapping ∈ relationship.mappings,
        mapping.IsCoherent compilation.relationships ∧
          ∀ reference, mapping.column.reference = some reference →
            reference.NestsLiteral railway := by
  obtain ⟨compilation, h⟩ := exists_compile_railway
  have hplain : ¬ NestsIdentifiable railway := by decide +kernel
  refine ⟨compilation, h, fun relationship hr mapping hmapping => ⟨?_, ?_⟩⟩
  · exact ((isCoherent_of_compile h).1 relationship hr mapping hmapping).1
  · exact (isCoherent_of_compile h).2.mpr hplain relationship hr mapping hmapping

/-- A depot nests a list of engines as literals, and the engine is declared as an event. -/
def depot : List DomainObject := [
  { (DomainObject.bare "Engine" .event).addProperty (.ofType "number" .number) with
    decorations := ⟨some ["number"], none, none⟩ },
  (DomainObject.bare "Depot" .literal).addProperty
    (.ofType "engines" (.array (.reference ⟨"Engine", .literal⟩)))]

/-- The depot compiles, and what a column nests is not declared as a literal. -/
theorem depot_nests_event :
    ∃ compilation, compile {} depot = .ok compilation ∧
      ∃ relationship ∈ compilation.relationships.toList, ∃ mapping ∈ relationship.mappings,
        ∃ reference, mapping.column.reference = some reference ∧
          ¬ reference.NestsLiteral depot := by
  obtain ⟨compilation, h⟩ := exists_ok_of_toBool
    (show (compile {} depot).toBool = true by decide +kernel)
  obtain ⟨known, hknown, hderive, -⟩ := compile_ok_iff.mp h
  have hnests : NestsIdentifiable depot := by decide +kernel
  rw [← hknown] at hnests ⊢
  obtain ⟨object, hobject, property, hproperty, target, htype, declared, hdeclared, hname, hid⟩ :=
    hnests
  obtain ⟨-, relationship, hr, mapping, hmapping, hreference⟩ :=
    exists_column_of_nests hderive hobject hproperty htype
  refine ⟨compilation, hknown ▸ h, relationship, hr, mapping, hmapping, _, hreference, ?_⟩
  -- Only one object has the name, and that one is no literal.
  intro hliteral
  obtain ⟨other, hother, hother', hvariant⟩ := hliteral rfl
  rw [Keyed.eq_of_key_eq hdeclared hother (hname.trans hother'.symm), hvariant] at hid
  cases hid

end DomainTables
