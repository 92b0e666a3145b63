import DomainTables.Proofs.Compilation

/-!
# What a table depends on

The table of an object is derived among all known objects, but little of these is looked at.
Resolution goes by the set of their names (`resolve_congr`), and of the object that a uuid means
only the variant is read (`classifyImplicit_congr`). So universes that know the same names with the
same variants (`Universe.SameReferences`) give the same outcome, be it a table or an error
(`derive_congr`). The order of declaration makes no difference, and neither does the body of any
other object (`derive_eq_of_sameReferences`).
-/

namespace DomainTables

/-! ## The same references -/

namespace Universe

/-- Two universes know the same names with the same variants. -/
def SameReferences (known known' : Universe) : Prop :=
  ∀ reference, reference ∈ known.toList.map DomainObject.reference ↔
    reference ∈ known'.toList.map DomainObject.reference

variable {known known' : Universe}

/-- The order in which objects are declared does not change the references. -/
theorem sameReferences_of_perm (h : (known.toList.map DomainObject.reference).Perm
    (known'.toList.map DomainObject.reference)) : known.SameReferences known' :=
  fun _ => h.mem_iff

/-- The object of a name, as others point to it, is the reference that has the name. -/
theorem map_reference_find?_eq_some_iff {name : String} {reference : ObjectReference} :
    (known.find? name).map DomainObject.reference = some reference ↔
      reference ∈ known.toList.map DomainObject.reference ∧ reference.name = name := by
  rw [Option.map_eq_some_iff, List.mem_map]
  constructor
  · rintro ⟨object, hfind, rfl⟩
    obtain ⟨hobject, hname⟩ := Keyed.find?_eq_some_iff.mp hfind
    exact ⟨⟨object, hobject, rfl⟩, hname⟩
  · rintro ⟨⟨object, hobject, rfl⟩, hname⟩
    exact ⟨object, Keyed.find?_eq_some_iff.mpr ⟨hobject, hname⟩, rfl⟩

/-- Universes with the same references have objects of the same variant under a name. -/
theorem SameReferences.map_reference_find? (h : known.SameReferences known') (name : String) :
    (known.find? name).map DomainObject.reference =
      (known'.find? name).map DomainObject.reference := by
  apply Option.ext
  intro reference
  rw [map_reference_find?_eq_some_iff, map_reference_find?_eq_some_iff, h reference]

/-- Universes with the same references know the same names. -/
theorem SameReferences.mem_keys_iff (h : known.SameReferences known') (name : String) :
    name ∈ known.keys ↔ name ∈ known'.keys := by
  rw [← not_iff_not, ← Keyed.find?_eq_none_iff, ← Keyed.find?_eq_none_iff,
    ← Option.map_eq_none_iff (f := DomainObject.reference), h.map_reference_find?,
    Option.map_eq_none_iff]

/-- An object in the place of one of the same variant keeps the references. -/
theorem sameReferences_replace {edited : DomainObject}
    (hvariant : ∀ object ∈ known.toList, object.name = edited.name →
      object.variant = edited.variant) : known.SameReferences (known.replace edited) := by
  have hsame : (known.replace edited).toList.map DomainObject.reference =
      known.toList.map DomainObject.reference := by
    unfold Keyed.replace
    rw [List.map_map]
    apply List.map_congr_left
    intro object hobject
    rw [Function.comp_apply]
    -- Only the object of that name is exchanged, and a reference is just name and variant.
    split
    · next hname =>
      unfold DomainObject.reference
      rw [hname, hvariant object hobject hname]
    · rfl
  intro reference
  rw [hsame]

end Universe

/-! ## Tables -/

section

variable {known known' : Universe} {limits : Limits} {object : DomainObject}

/-- A nested object is accepted or refused by the known names. -/
theorem classifyDirect_congr (h : known.SameReferences known') (owner : String)
    (property : Property) (target : ObjectReference) :
    classifyDirect known limits owner property target =
      classifyDirect known' limits owner property target := by
  have hnames : ∀ name, name ∈ known.keys ++ [target.name] ↔
      name ∈ known'.keys ++ [target.name] := by
    intro name
    rw [List.mem_append, List.mem_append, h.mem_keys_iff]
  unfold classifyDirect
  rw [resolve_congr hnames]

/-- What a uuid means is a matter of the known names and of the variants under them. -/
theorem classifyImplicit_congr (h : known.SameReferences known') (owner : String)
    (property : Property) (stem : String) :
    classifyImplicit known limits owner property stem =
      classifyImplicit known' limits owner property stem := by
  unfold classifyImplicit
  rw [resolve_congr h.mem_keys_iff]
  split
  · rfl
  · rfl
  · next name _ =>
    -- The object found may differ, but not in the variant, which is all that is asked of it.
    have hfind := h.map_reference_find? name
    cases hknown : known.find? name with
    | none =>
      rw [hknown, Option.map_none, eq_comm, Option.map_eq_none_iff] at hfind
      rw [hfind]
    | some target =>
      rw [hknown, Option.map_some, eq_comm, Option.map_eq_some_iff] at hfind
      obtain ⟨target', hknown', hreference⟩ := hfind
      have hvariant : target'.variant = target.variant :=
        congrArg ObjectReference.variant hreference
      rw [hknown']
      dsimp only
      rw [hvariant, hreference]

/-- A further property is stored in the same column among the same references. -/
theorem DomainObject.mapProperty_congr (h : known.SameReferences known') :
    object.mapProperty known limits = object.mapProperty known' limits := by
  funext property
  have hclassify : classify known limits object.name property =
      classify known' limits object.name property := by
    unfold classify
    split
    · next target _ => rw [classifyDirect_congr h]
    · next stem _ => rw [classifyImplicit_congr h]
    · rfl
  -- What is checked of arrays and stored besides does not look at other objects.
  unfold DomainObject.mapProperty
  rw [hclassify]

/-- The table of an object is the same among the same references, and so is the error. -/
theorem derive_congr (h : known.SameReferences known') :
    derive known limits object = derive known' limits object := by
  unfold derive
  rw [DomainObject.mapProperty_congr h]

/-- What is stored under a name is the table of the object of that name. -/
theorem find?_of_deriveAll {relationships : Relationships}
    (h : deriveAll known limits = .ok relationships) (name : String) :
    relationships.find? name =
      (known.find? name).bind fun object => (derive known limits object).toOption := by
  cases hfind : known.find? name with
  | none =>
    -- The tables have the names of the objects, so a name without an object has no table either.
    have habsent : name ∉ relationships.keys := by
      rw [keys_of_deriveAll h]
      exact Keyed.find?_eq_none_iff.mp hfind
    exact Keyed.find?_eq_none_iff.mpr habsent
  | some object =>
    obtain ⟨hobject, rfl⟩ := Keyed.find?_eq_some_iff.mp hfind
    obtain ⟨relationship, hrelationship, hderive⟩ := exists_find?_of_deriveAll h hobject
    rw [Option.bind_some, hderive]
    exact hrelationship

/-- With another declaration of one object, of the same variant, the other tables stay. -/
theorem deriveAll_replace {relationships : Relationships}
    (h : deriveAll known limits = .ok relationships) {edited : DomainObject}
    (hvariant : ∀ declared ∈ known.toList, declared.name = edited.name →
      declared.variant = edited.variant)
    {relationship : Relationship} (hedited : derive known limits edited = .ok relationship) :
    deriveAll (known.replace edited) limits = .ok (relationships.replace relationship) := by
  have hsame := Universe.sameReferences_replace hvariant
  refine deriveAll_ok_iff.mpr (List.forall₂_map_left_iff.mpr (List.forall₂_map_right_iff.mpr ?_))
  refine (deriveAll_ok_iff.mp h).imp fun declared found hfound => ?_
  rw [← derive_congr hsame, domainObject_of_derive hfound, domainObject_of_derive hedited]
  split
  · exact hedited
  · exact hfound

end

/-- The derivation of a table depends on the names and the variants of the known objects alone. So
another body of one object changes no table but its own. -/
theorem derive_eq_of_sameReferences (limits : Limits) :
    (∀ (known known' : Universe) (object : DomainObject), known.SameReferences known' →
      derive known limits object = derive known' limits object) ∧
    ∀ (known : Universe) (edited : DomainObject),
      (∀ declared ∈ known.toList, declared.name = edited.name →
        declared.variant = edited.variant) →
      (∀ object, derive (known.replace edited) limits object = derive known limits object) ∧
      ∀ relationships relationships', deriveAll known limits = .ok relationships →
        deriveAll (known.replace edited) limits = .ok relationships' →
        ∀ name, name ≠ edited.name → relationships'.find? name = relationships.find? name := by
  refine ⟨fun _ _ _ h => derive_congr h, fun known edited hvariant => ?_⟩
  have hsame := Universe.sameReferences_replace hvariant
  refine ⟨fun object => (derive_congr hsame).symm, ?_⟩
  intro relationships relationships' h h' name hname
  rw [find?_of_deriveAll h, find?_of_deriveAll h', Keyed.find?_replace_of_ne hname]
  simp only [derive_congr hsame]

/-- The railway as it is declared. -/
def railwayUniverse : Universe :=
  ⟨railway, by decide⟩

/-- The objects of the railway without their properties, in the opposite order. -/
def railwayOutline : Universe :=
  ⟨railway.reverse.map fun object => .bare object.name object.variant, by decide⟩

/-- The tables of the railway are the same among the bare objects, and the train has the same one
if a geocode has no latitude. -/
theorem derive_eq_of_sameReferences_railway :
    railwayUniverse.SameReferences railwayOutline ∧
      (∀ object ∈ railway, ∃ relationship, derive railwayUniverse {} object = .ok relationship ∧
        derive railwayOutline {} object = .ok relationship) ∧
      ∃ relationships relationships', deriveAll railwayUniverse {} = .ok relationships ∧
        deriveAll (railwayUniverse.replace (.bare "Geocode" .literal)) {} = .ok relationships' ∧
        relationships'.find? "Train" = relationships.find? "Train" := by
  obtain ⟨hcongr, hedit⟩ := derive_eq_of_sameReferences {}
  have hsame : railwayUniverse.SameReferences railwayOutline :=
    Universe.sameReferences_of_perm (by decide +kernel)
  refine ⟨hsame, fun object hobject => ?_, ?_⟩
  · have hall : ∀ object ∈ railway, (derive railwayUniverse {} object).toBool = true := by
      decide +kernel
    obtain ⟨relationship, h⟩ := exists_ok_of_toBool (hall object hobject)
    exact ⟨relationship, h, (hcongr _ _ object hsame).symm.trans h⟩
  · obtain ⟨relationships, h⟩ := exists_ok_of_toBool
      (show (deriveAll railwayUniverse {}).toBool = true by decide +kernel)
    obtain ⟨relationships', h'⟩ := exists_ok_of_toBool
      (show (deriveAll (railwayUniverse.replace (.bare "Geocode" .literal)) {}).toBool = true by
        decide +kernel)
    have hedited := hedit railwayUniverse (.bare "Geocode" .literal) (by decide +kernel)
    exact ⟨relationships, relationships', h, h', hedited.2 _ _ h h' "Train" (by decide)⟩

end DomainTables
