import Mathlib.Data.List.Forall2
import DomainTables.Proofs.Nesting

/-!
# Declared references

A column holds another object either because its property nests the object or because the reference
was declared. Whatever is generated for a column looks at the target of the reference and at whether
the object itself is held (`ColumnReference.outline`), and these are the same in both cases.

So any references that nest may be declared instead, in the column itself and in every relationship
(`IsRedeclaredAs`). Names lead to the same relationships up to such references
(`Relationships.IsRedeclaredAs.get_cases`), so what a column nests is read alike one level further
down, and by induction on the levels the column is read alike (`Sql.read_redeclared`). Nothing else
is generated differently either, and nothing that fails fails differently
(`generators_of_redeclared`).
-/

namespace DomainTables

/-! ## References that are declared instead of nesting -/

/-- A column is kept, or its reference that nests an object is declared. -/
inductive ColumnMapping.IsRedeclaredAs (mapping : ColumnMapping) : ColumnMapping → Prop where
  /-- The column is kept. -/
  | kept : IsRedeclaredAs mapping mapping
  /-- The reference of the column is declared. -/
  | declared {target : ObjectReference} :
      mapping.column.reference = some ⟨.directByNesting, target⟩ →
      IsRedeclaredAs mapping (mapping.withMethod .directByDeclaration)

/-- A relationship in which some references that nest objects are declared. -/
structure Relationship.IsRedeclaredAs (relationship relationship' : Relationship) : Prop where
  /-- The table keeps its name. -/
  table : relationship'.table = relationship.table
  /-- It is the table of the same object. -/
  domainObject : relationship'.domainObject = relationship.domainObject
  /-- Each column is kept, or its reference is declared. -/
  mappings : List.Forall₂ ColumnMapping.IsRedeclaredAs relationship.mappings relationship'.mappings
  /-- The natural key is kept. -/
  unique : relationship'.unique = relationship.unique

/-- Relationships in which some references that nest objects are declared. -/
def Relationships.IsRedeclaredAs (relationships relationships' : Relationships) : Prop :=
  List.Forall₂ Relationship.IsRedeclaredAs relationships.toList relationships'.toList

/-- What matters of a reference: its target, and whether the object itself is held. -/
def ColumnReference.outline (reference : ColumnReference) : ObjectReference × Bool :=
  (reference.target, reference.method.isDirect)

section

variable {mapping mapping' : ColumnMapping} {relationship relationship' : Relationship}
  {relationships relationships' : Relationships}

/-- A redeclared column differs in its reference at most, and not in the outline of that. -/
theorem ColumnMapping.IsRedeclaredAs.exists_reference (h : mapping.IsRedeclaredAs mapping') :
    ∃ reference' : Option ColumnReference,
      mapping' = { mapping with column.reference := reference' } ∧
      reference'.map ColumnReference.outline =
        mapping.column.reference.map ColumnReference.outline := by
  cases h with
  | kept => exact ⟨mapping.column.reference, rfl, rfl⟩
  | declared hreference =>
    refine ⟨_, rfl, ?_⟩
    rw [hreference]
    rfl

/-- References of one outline are both absent, or they have the same target and hold the object both
or neither. -/
theorem reference_cases {reference reference' : Option ColumnReference}
    (h : reference'.map ColumnReference.outline = reference.map ColumnReference.outline) :
    (reference = none ∧ reference' = none) ∨
      ∃ found found', reference = some found ∧ reference' = some found' ∧
        found'.target = found.target ∧ found'.method.isDirect = found.method.isDirect := by
  cases reference with
  | none => exact Or.inl ⟨rfl, Option.map_eq_none_iff.mp h⟩
  | some found =>
    obtain ⟨found', rfl, houtline⟩ := Option.map_eq_some_iff.mp h
    obtain ⟨htarget, hdirect⟩ := Prod.mk.inj houtline
    exact Or.inr ⟨found, found', rfl, rfl, htarget, hdirect⟩

/-- A redeclared column holds the same object itself, or both columns hold none. -/
theorem ColumnMapping.IsRedeclaredAs.directReference?_cases (h : mapping.IsRedeclaredAs mapping') :
    (mapping.directReference? = none ∧ mapping'.directReference? = none) ∨
      ∃ found found', mapping.directReference? = some found ∧
        mapping'.directReference? = some found' ∧ found'.target = found.target := by
  obtain ⟨reference', rfl, houtline⟩ := h.exists_reference
  unfold directReference?
  rcases reference_cases houtline with ⟨hnone, rfl⟩ | ⟨found, found', hfound, rfl, htarget, hdirect⟩
  · rw [hnone]
    exact Or.inl ⟨rfl, rfl⟩
  · rw [hfound, Option.filter_some, Option.filter_some, hdirect]
    split
    · exact Or.inr ⟨found, found', rfl, rfl, htarget⟩
    · exact Or.inl ⟨rfl, rfl⟩

/-- A redeclared column has the same parameter. -/
theorem Sql.parameterName_redeclared (hmapping : mapping.IsRedeclaredAs mapping') :
    parameterName mapping' = parameterName mapping := by
  unfold parameterName
  obtain ⟨reference', hsame, -⟩ := hmapping.exists_reference
  rcases hmapping.directReference?_cases with ⟨hnone, hnone'⟩ | ⟨_, _, hfound, hfound', -⟩
  · rw [hnone, hnone', hsame]
    rfl
  · rw [hfound, hfound', hsame]

/-- A redeclared relationship refers to the same names. -/
theorem Relationship.IsRedeclaredAs.referencedNames_eq
    (h : relationship.IsRedeclaredAs relationship') :
    relationship'.referencedNames = relationship.referencedNames := by
  unfold referencedNames
  -- Column by column the name that is referred to is the same, if there is one.
  have hnames := map_eq_map_of_forall₂
    (f := fun mapping : ColumnMapping => mapping.column.reference.map (·.target.name))
    (g := fun mapping : ColumnMapping => mapping.column.reference.map (·.target.name))
    (fun mapping mapping' hmapping => ?_) h.mappings
  · have hall := congrArg (List.filterMap id) hnames
    rw [List.filterMap_map, List.filterMap_map] at hall
    exact hall.symm
  · obtain ⟨reference', rfl, houtline⟩ := hmapping.exists_reference
    rcases reference_cases houtline with ⟨hnone, rfl⟩ | ⟨found, found', hfound, rfl, htarget, -⟩
    · rw [hnone]
    · rw [hfound, Option.map_some, Option.map_some, htarget]

/-- The columns of a redeclared object are read alike if each of them is. -/
theorem Sql.readEntries_redeclared {readColumn readColumn' : ColumnMapping → Except Cause Reading}
    (hobject : relationship.IsRedeclaredAs relationship')
    (hcolumn : ∀ inner inner' : ColumnMapping, inner.IsRedeclaredAs inner' →
      readColumn' inner' = readColumn inner) :
    readEntries readColumn' relationship' = readEntries readColumn relationship := by
  -- The columns that store properties correspond, since each keeps its property.
  have hstored : List.Forall₂ ColumnMapping.IsRedeclaredAs
      (relationship.mappings.filter fun inner => inner.property.isSome)
      (relationship'.mappings.filter fun inner => inner.property.isSome) := by
    refine List.rel_filter (fun inner inner' hinner => ?_) hobject.mappings
    obtain ⟨reference', rfl, -⟩ := hinner.exists_reference
    exact Iff.rfl
  refine (mapM_eq_mapM_of_forall₂ (hstored.imp fun inner inner' hinner => ?_)).symm
  rw [hcolumn inner inner' hinner]
  obtain ⟨reference', rfl, -⟩ := hinner.exists_reference
  rfl

/-! ## What is generated -/

variable (h : relationships.IsRedeclaredAs relationships')

include h

/-- Redeclared relationships are those of the same objects. -/
theorem Relationships.IsRedeclaredAs.keys_eq : relationships'.keys = relationships.keys :=
  (map_eq_map_of_forall₂ (fun _ _ hr => hr.domainObject.symm) h).symm

/-- A name leads to a relationship and to the redeclared one, or to the same failure. -/
theorem Relationships.IsRedeclaredAs.get_cases (name : String) :
    (∃ found found', relationships.get name = .ok found ∧ relationships'.get name = .ok found' ∧
        found.IsRedeclaredAs found') ∨
      ∃ cause, relationships.get name = .error cause ∧ relationships'.get name = .error cause := by
  by_cases hname : name ∈ relationships.keys
  · obtain ⟨found, hget⟩ := exists_get_ok_iff.mpr hname
    obtain ⟨hmem, rfl⟩ := get_ok_iff.mp hget
    obtain ⟨found', hmem', hfound⟩ := exists_right_of_forall₂ h hmem
    exact Or.inl ⟨found, found', hget, get_ok_iff.mpr ⟨hmem', hfound.domainObject⟩, hfound⟩
  · have hname' : name ∉ relationships'.keys := h.keys_eq ▸ hname
    refine Or.inr ⟨.internalConsistency (.missingRelationship name), ?_, ?_⟩
    · rw [get, Keyed.find?_eq_none_iff.mpr hname]
    · rw [get, Keyed.find?_eq_none_iff.mpr hname']

/-- What is done with a relationship is the same if it is the same for the redeclared one. -/
theorem Relationships.IsRedeclaredAs.get_bind {α : Type} (name : String)
    {next next' : Relationship → Except Cause α}
    (hnext : ∀ found found', found.IsRedeclaredAs found' → next' found' = next found) :
    relationships'.get name >>= next' = relationships.get name >>= next := by
  rcases h.get_cases name with ⟨found, found', hget, hget', hfound⟩ | ⟨cause, hget, hget'⟩
  · rw [hget, hget']
    exact hnext found found' hfound
  · rw [hget, hget']
    rfl

/-- A redeclared column is read alike if redeclared objects are read alike where it nests them. -/
theorem Sql.readColumn_redeclared
    {entries entries' : Relationship → Except Cause (List (String × Reading))}
    (hentries : ∀ target target', target.IsRedeclaredAs target' → entries' target' = entries target)
    (hmapping : mapping.IsRedeclaredAs mapping') (depth : Nat) (table : String) :
    readColumn relationships' entries' depth table mapping' =
      readColumn relationships entries depth table mapping := by
  obtain ⟨reference', rfl, houtline⟩ := hmapping.exists_reference
  unfold readColumn
  rcases reference_cases houtline with ⟨hnone, rfl⟩ | ⟨found, found', hfound, rfl, htarget, hdirect⟩
  · rw [hnone]
  · -- The outlines agree on name and method, and the target is read from a redeclared table.
    rw [hfound]
    dsimp only
    rw [htarget]
    refine h.get_bind _ fun target target' hr => ?_
    unfold readReference
    rw [hdirect, hr.table, hentries target target' hr]
    rfl

/-- A redeclared column is read alike with any number of levels. -/
theorem Sql.read_redeclared (hmapping : mapping.IsRedeclaredAs mapping') (levels depth : Nat)
    (table : String) :
    read relationships' levels depth table mapping' =
      read relationships levels depth table mapping := by
  -- What a column nests is redeclared too, and it is read with one level less.
  induction levels generalizing depth table mapping mapping' with
  | zero =>
    unfold read
    refine readColumn_redeclared h (fun target target' htarget => ?_) hmapping depth table
    rw [htarget.domainObject]
  | succ levels ih =>
    unfold read
    refine readColumn_redeclared h (fun target target' htarget => ?_) hmapping depth table
    refine readEntries_redeclared htarget fun inner inner' hinner => ?_
    rw [htarget.table]
    exact ih hinner (depth + 1) target.table

/-- A redeclared column is read by the same expression. -/
theorem Sql.select_redeclared (hmapping : mapping.IsRedeclaredAs mapping') (table : String) :
    select relationships' table mapping' = select relationships table mapping := by
  have hsize : relationships'.size = relationships.size := (List.Forall₂.length_eq h).symm
  unfold select selectAt
  rw [hsize, read_redeclared h hmapping]

/-- A redeclared column is written by the same expression. -/
theorem Sql.input_redeclared (hmapping : mapping.IsRedeclaredAs mapping') :
    input relationships' mapping' = input relationships mapping := by
  unfold input
  rw [parameterName_redeclared hmapping]
  obtain ⟨reference', rfl, houtline⟩ := hmapping.exists_reference
  rcases reference_cases houtline with ⟨hnone, rfl⟩ | ⟨found, found', hfound, rfl, htarget, hdirect⟩
  · rw [hnone]
  · rw [hfound]
    dsimp only
    rw [htarget, hdirect]
    -- Only a uuid looks at the target at all, and there only at its table.
    refine if_congr Iff.rfl rfl (h.get_bind _ fun target target' hr => ?_)
    rw [hr.table]

/-- Client code binds the same expression for a redeclared column. -/
theorem Client.argument_redeclared (hmapping : mapping.IsRedeclaredAs mapping') (owner : String)
    (context : Context) :
    argument relationships' owner mapping' context =
      argument relationships owner mapping context := by
  unfold argument
  obtain ⟨reference', hsame, -⟩ := hmapping.exists_reference
  rcases hmapping.directReference?_cases with ⟨hnone, hnone'⟩ | ⟨_, _, hfound, hfound', htarget⟩
  · rw [hnone, hnone', hsame]
    rfl
  · rw [hfound, hfound', hsame]
    dsimp only
    rw [htarget]
    refine h.get_bind _ fun target target' hr => ?_
    -- Of the target the code uses the table and the name of the object, which are both kept.
    unfold storedRows
    rw [hr.table, hr.domainObject]
    rfl

namespace Relationships

/-- Redeclared relationships depend on each other in the same way. -/
theorem IsRedeclaredAs.dependencies_eq :
    relationships'.dependencies = relationships.dependencies := by
  unfold dependencies
  have hentries : ∀ found found' : Relationship, found.IsRedeclaredAs found' →
      relationships.suppliedReferences found = relationships'.suppliedReferences found' := by
    intro found found' hr
    unfold suppliedReferences
    rw [hr.referencedNames_eq]
    exact mapM_congr fun name _ => (h.get_bind name fun _ _ _ => rfl).symm
  rw [mapM_eq_mapM_of_forall₂ (List.Forall₂.imp (fun found found' hr => ?_) h)]
  rw [hentries found found' hr, hr.domainObject]

/-- Redeclared relationships are provisioned in the same order. -/
theorem IsRedeclaredAs.provisioningOrder_eq (limits : Limits) :
    relationships'.provisioningOrder limits = relationships.provisioningOrder limits := by
  unfold provisioningOrder
  rw [h.dependencies_eq]

end Relationships

end

/-- Declaring references that nest objects, any of them and at any depth, changes nothing that is
generated for a column, be it a text or a failure, and nothing about the order of provisioning. -/
theorem generators_of_redeclared {relationships relationships' : Relationships}
    (h : relationships.IsRedeclaredAs relationships') {mapping mapping' : ColumnMapping}
    (hmapping : mapping.IsRedeclaredAs mapping') :
    Sql.parameterName mapping' = Sql.parameterName mapping ∧
    (∀ table, Sql.select relationships' table mapping' = Sql.select relationships table mapping) ∧
    (∀ levels depth table, Sql.read relationships' levels depth table mapping' =
      Sql.read relationships levels depth table mapping) ∧
    Sql.input relationships' mapping' = Sql.input relationships mapping ∧
    (∀ owner context, Client.argument relationships' owner mapping' context =
      Client.argument relationships owner mapping context) ∧
    relationships'.dependencies = relationships.dependencies ∧
    ∀ limits, relationships'.provisioningOrder limits = relationships.provisioningOrder limits :=
  ⟨Sql.parameterName_redeclared hmapping, Sql.select_redeclared h hmapping,
    Sql.read_redeclared h hmapping, Sql.input_redeclared h hmapping,
    Client.argument_redeclared h hmapping, h.dependencies_eq, h.provisioningOrder_eq⟩

/-- The column with its reference declared, if that nests an object. -/
def ColumnMapping.declareNested (mapping : ColumnMapping) : ColumnMapping :=
  match mapping.column.reference with
  | some ⟨.directByNesting, _⟩ => mapping.withMethod .directByDeclaration
  | _ => mapping

/-- The relationships with all references declared that nest objects. -/
def Relationships.declareNested (relationships : Relationships) : Relationships where
  toList := relationships.toList.map fun relationship =>
    { relationship with mappings := relationship.mappings.map ColumnMapping.declareNested }
  nodup := by
    rw [List.map_map]
    exact relationships.nodup

/-- Declaring all references is one way to declare some. -/
theorem isRedeclaredAs_declareNested (mapping : ColumnMapping) :
    mapping.IsRedeclaredAs mapping.declareNested := by
  unfold ColumnMapping.declareNested
  split
  · next hreference => exact .declared hreference
  · exact .kept

/-- On the railway every nested object can be declared instead, in all tables at once: the same
expressions are generated, for a train and for what it nests, and the tables are created in the same
order. -/
theorem generators_of_redeclared_railway :
    ∃ compilation, compile {} railway = .ok compilation ∧
      compilation.relationships.declareNested ≠ compilation.relationships ∧
      compilation.relationships.IsRedeclaredAs compilation.relationships.declareNested ∧
      ∀ relationship ∈ compilation.relationships.toList, ∀ mapping ∈ relationship.mappings,
        mapping.IsRedeclaredAs mapping.declareNested ∧
        ∀ table, Sql.select compilation.relationships.declareNested table mapping.declareNested =
          Sql.select compilation.relationships table mapping := by
  obtain ⟨compilation, h⟩ := exists_compile_railway
  have hdeclared : compilation.relationships.IsRedeclaredAs
      compilation.relationships.declareNested := by
    refine List.forall₂_map_right_iff.mpr (List.forall₂_same.mpr fun relationship _ => ?_)
    refine ⟨rfl, rfl, ?_, rfl⟩
    exact List.forall₂_map_right_iff.mpr
      (List.forall₂_same.mpr fun mapping _ => isRedeclaredAs_declareNested mapping)
  refine ⟨compilation, h, ?_, hdeclared, fun relationship _ mapping _ =>
    ⟨isRedeclaredAs_declareNested mapping, fun table => ?_⟩⟩
  · -- A train nests its geocode, so something is declared indeed.
    have hnests : (compile {} railway).map (fun found =>
        decide (found.relationships.declareNested = found.relationships)) = .ok false := by
      decide +kernel
    rw [h] at hnests
    exact of_decide_eq_false (Except.ok.inj hnests)
  · exact (generators_of_redeclared hdeclared (isRedeclaredAs_declareNested mapping)).2.1 table

end DomainTables
