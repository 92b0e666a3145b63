import DomainTables.Proofs.Compilation

/-!
# References and declarations

Every reference of a compilation is to a listed object, since its table is ordered with the others.
A reference by uuid also has the variant that is declared, because it is read off the declaration.
A nested object comes with a variant of its own, that of the property's type, and only that one is
checked. It is a literal; what is declared under its name may be an entity or an event. These are
the only references that differ from the declarations (`target_eq_declaration_iff`).
-/

namespace DomainTables

/-- The reference is to a listed object as that is declared, and to a literal if it nests it. -/
def ColumnReference.IsAccurate (objects : List DomainObject) (reference : ColumnReference) : Prop :=
  ∃ declared ∈ objects, declared.reference = reference.target ∧
    (reference.method = .directByNesting → declared.variant = .literal)

/-- A listed object has a further property that nests an object which is declared as one with a
uuid. -/
def NestsIdentifiable (objects : List DomainObject) : Prop :=
  ∃ object ∈ objects, ∃ property ∈ object.furtherProperties, ∃ target ∈ property.type.nested?,
    ∃ declared ∈ objects, declared.name = target.name ∧ declared.variant.isIdentifiable = true

instance (objects : List DomainObject) : Decidable (NestsIdentifiable objects) := by
  unfold NestsIdentifiable
  infer_instance

/-- A literal is declared as it is nested exactly if it is declared without a uuid. -/
theorem reference_eq_literal_iff {declared : DomainObject} {target : ObjectReference}
    (hname : declared.name = target.name) (hliteral : target.variant = .literal) :
    declared.reference = target ↔ ¬ declared.variant.isIdentifiable = true := by
  obtain ⟨name, variant⟩ := target
  dsimp only at hname hliteral
  subst hname hliteral
  rw [Bool.not_eq_true, Variant.isIdentifiable_eq_false_iff, DomainObject.reference]
  simp

section

variable {limits : Limits} {known : Universe} {relationships : Relationships}

/-- A reference of relationships that are closed is to a known object. It has the variant that is
declared, unless it nests an object with a uuid. -/
theorem exists_declared (hderive : deriveAll known limits = .ok relationships)
    (hclosed : relationships.IsClosed) {relationship : Relationship}
    (hr : relationship ∈ relationships.toList) {mapping : ColumnMapping}
    (hmapping : mapping ∈ relationship.mappings) {reference : ColumnReference}
    (hreference : mapping.column.reference = some reference) :
    ∃ declared ∈ known.toList, declared.name = reference.target.name ∧
      (declared.reference = reference.target ↔
        ¬ (reference.method = .directByNesting ∧ declared.variant.isIdentifiable = true)) := by
  have hkey : reference.target.name ∈ known.keys := by
    rw [← keys_of_deriveAll hderive]
    exact hclosed.mem_keys hr hmapping hreference
  obtain ⟨declared, hdeclared, hname⟩ := Keyed.mem_keys_iff.mp hkey
  refine ⟨declared, hdeclared, hname, ?_⟩
  rcases reference_of_deriveAll hderive hr hmapping hreference with
    ⟨_, _, _, _, target, -, hliteral, rfl⟩ | ⟨target, htarget, -, rfl⟩
  · simp only [true_and]
    exact reference_eq_literal_iff hname hliteral
  · -- The uuid means the one known object of the name.
    obtain rfl : declared = target := Keyed.eq_of_key_eq hdeclared htarget hname
    simp

/-- A reference of relationships that are closed is accurate if no known object nests one with a
uuid. -/
theorem isAccurate_of_not_nestsIdentifiable (hderive : deriveAll known limits = .ok relationships)
    (hclosed : relationships.IsClosed) (hnests : ¬ NestsIdentifiable known.toList)
    {relationship : Relationship} (hr : relationship ∈ relationships.toList)
    {mapping : ColumnMapping} (hmapping : mapping ∈ relationship.mappings)
    {reference : ColumnReference} (hreference : mapping.column.reference = some reference) :
    reference.IsAccurate known.toList := by
  obtain ⟨declared, hdeclared, hname, hiff⟩ :=
    exists_declared hderive hclosed hr hmapping hreference
  rcases reference_of_deriveAll hderive hr hmapping hreference with
    ⟨object, hobject, property, hproperty, target, htype, -, rfl⟩ | ⟨target, htarget, -, rfl⟩
  · -- A nested object has no uuid then, so the variant that it is nested with is its own.
    have hplain : ¬ declared.variant.isIdentifiable = true := fun hid =>
      hnests ⟨object, hobject, property, hproperty, target, htype, declared, hdeclared, hname, hid⟩
    refine ⟨declared, hdeclared, hiff.mpr fun hboth => hplain hboth.2, fun _ => ?_⟩
    rwa [Bool.not_eq_true, Variant.isIdentifiable_eq_false_iff] at hplain
  · -- A uuid leads to the known object itself.
    exact ⟨target, htarget, rfl, fun hmethod => by cases hmethod⟩

/-- A column nests an object as a literal that is declared as an entity or an event, if an object
nests one with a uuid. -/
theorem not_nestsIdentifiable_of_isAccurate
    (hderive : deriveAll known limits = .ok relationships)
    (haccurate : ∀ relationship ∈ relationships.toList, ∀ mapping ∈ relationship.mappings,
      ∀ reference, mapping.column.reference = some reference →
        reference.IsAccurate known.toList) :
    ¬ NestsIdentifiable known.toList := by
  rintro ⟨object, hobject, property, hproperty, target, htype, declared, hdeclared, hname, hid⟩
  -- The property has a column that refers to a literal by the name, which is that of one object.
  obtain ⟨-, relationship, hr, mapping, hmapping, hreference⟩ :=
    exists_column_of_nests hderive hobject hproperty htype
  obtain ⟨other, hother, htarget, hvariant⟩ :=
    haccurate relationship hr mapping hmapping _ hreference
  have hsame : declared = other :=
    Keyed.eq_of_key_eq hdeclared hother (hname.trans (congrArg ObjectReference.name htarget).symm)
  rw [hsame, hvariant rfl] at hid
  cases hid

end

/-- A reference of a compilation is to a listed object. It has the variant that is declared, except
where it nests an object that is declared as an entity or an event. Hence all references are
accurate exactly if no object nests one with a uuid. -/
theorem target_eq_declaration_iff {limits : Limits} {objects : List DomainObject}
    {compilation : Compilation} (h : compile limits objects = .ok compilation) :
    (∀ relationship ∈ compilation.relationships.toList, ∀ mapping ∈ relationship.mappings,
      ∀ reference, mapping.column.reference = some reference →
        ∃ declared ∈ objects, declared.name = reference.target.name ∧
          (declared.reference = reference.target ↔
            ¬ (reference.method = .directByNesting ∧
              declared.variant.isIdentifiable = true))) ∧
    ((∀ relationship ∈ compilation.relationships.toList, ∀ mapping ∈ relationship.mappings,
      ∀ reference, mapping.column.reference = some reference → reference.IsAccurate objects) ↔
        ¬ NestsIdentifiable objects) := by
  obtain ⟨known, rfl, hderive, horder⟩ := compile_ok_iff.mp h
  have hclosed := (Relationships.provisioningOrder_ok_iff.mp horder).1
  refine ⟨?_, not_nestsIdentifiable_of_isAccurate hderive, ?_⟩
  · intro relationship hr mapping hmapping reference hreference
    exact exists_declared hderive hclosed hr hmapping hreference
  · intro hnests relationship hr mapping hmapping reference hreference
    exact isAccurate_of_not_nestsIdentifiable hderive hclosed hnests hr hmapping hreference

/-- All references of the railway are accurate. -/
theorem target_eq_declaration_of_railway :
    ∃ compilation, compile {} railway = .ok compilation ∧
      ∀ relationship ∈ compilation.relationships.toList, ∀ mapping ∈ relationship.mappings,
        ∀ reference, mapping.column.reference = some reference →
          reference.IsAccurate railway := by
  obtain ⟨compilation, h⟩ := exists_compile_railway
  have hplain : ¬ NestsIdentifiable railway := by decide +kernel
  exact ⟨compilation, h, (target_eq_declaration_iff h).2.mpr hplain⟩

/-- A crew nests an engineer as a literal, and the engineer is declared as an entity. -/
def crew : List DomainObject := [
  { (DomainObject.bare "Engineer" .entity).addProperty (.ofType "code" .string) with
    decorations := ⟨some ["code"], some [], none⟩ },
  (DomainObject.bare "Crew" .literal).addProperty
    (.ofType "engineer" (.reference ⟨"Engineer", .literal⟩))]

/-- The crew compiles, and a column nests the entity. -/
theorem crew_nests_entity :
    ∃ compilation, compile {} crew = .ok compilation ∧
      ∃ relationship ∈ compilation.relationships.toList, ∃ mapping ∈ relationship.mappings,
        mapping.column.reference = some ⟨.directByNesting, ⟨"Engineer", .literal⟩⟩ ∧
        ¬ ColumnReference.IsAccurate crew ⟨.directByNesting, ⟨"Engineer", .literal⟩⟩ := by
  have hfound : ((compile {} crew).toOption.any fun compilation =>
      compilation.relationships.toList.any fun relationship =>
        relationship.mappings.any fun mapping =>
          mapping.column.reference == some ⟨.directByNesting, ⟨"Engineer", .literal⟩⟩) = true := by
    decide +kernel
  have hentity : ∀ declared ∈ crew, declared.reference ≠ ⟨"Engineer", .literal⟩ := by
    decide +kernel
  -- The compilation was computed, so it cannot have failed.
  cases h : compile {} crew with
  | error error =>
    rw [h] at hfound
    cases hfound
  | ok compilation =>
    simp only [h, Except.toOption, Option.any_some, List.any_eq_true, beq_iff_eq] at hfound
    obtain ⟨relationship, hr, mapping, hmapping, hreference⟩ := hfound
    refine ⟨compilation, rfl, relationship, hr, mapping, hmapping, hreference, ?_⟩
    rintro ⟨declared, hdeclared, htarget, -⟩
    exact hentity declared hdeclared htarget

end DomainTables
