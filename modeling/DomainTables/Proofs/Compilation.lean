import DomainTables.Compilation
import DomainTables.Proofs.Derivation
import DomainTables.Proofs.Provisioning

/-!
# What a compilation consists of

A compilation that succeeds has a relationship for each object of the list, in the order of the
list, and an order of provisioning of these relationships (`compile_ok_iff`). One that fails stops
at the first of the three steps that fails (`compile_error_iff`): the list repeats a name, a table
cannot be derived, or the tables cannot be ordered.

What is provisioned is every relationship once, after the ones it refers to
(`provisioned_after_references`), since that is what an order of provisioning is.
-/

namespace DomainTables

/-! ## The universe -/

/-- An object repeats the name of one before it, and it is the first one to repeat a name. -/
def IsFirstRepeat (before : List DomainObject) (object : DomainObject) : Prop :=
  (before.map DomainObject.name).Nodup ∧ object.name ∈ before.map DomainObject.name

namespace Universe

/-- Adding an object puts it at the end, and succeeds if that repeats no name. -/
theorem add_ok_iff {known next : Universe} {object : DomainObject} :
    known.add object = .ok next ↔ next.toList = known.toList ++ [object] := by
  unfold add
  split
  · next fresh =>
    constructor
    · intro h
      cases h
      rfl
    · intro h
      have heq : known.push object fresh = next := Keyed.ext_toList h.symm
      rw [heq]
  · next taken =>
    simp only [reduceCtorEq, false_iff]
    intro h
    -- A universe that ended with the object would have its name twice.
    have hnodup := next.nodup
    rw [h, List.map_append, List.nodup_append] at hnodup
    exact taken fun hmem => hnodup.2.2 _ hmem _ (by simp) rfl

/-- Adding objects one after another puts them at the end, and succeeds if that repeats no name. -/
theorem foldlM_add_ok_iff {objects : List DomainObject} {known found : Universe} :
    objects.foldlM add known = .ok found ↔ found.toList = known.toList ++ objects := by
  induction objects generalizing known with
  | nil =>
    rw [List.foldlM_nil, pure_ok_iff, List.append_nil]
    exact ⟨fun h => h ▸ rfl, fun h => Keyed.ext_toList h.symm⟩
  | cons object rest ih =>
    simp only [List.foldlM_cons, bind_ok_iff, add_ok_iff, ih]
    constructor
    · rintro ⟨next, hnext, h⟩
      rw [h, hnext, List.append_assoc, List.singleton_append]
    · intro h
      -- The names so far are some of those in the end, so they do not repeat either.
      have hsplit : found.toList = known.toList ++ [object] ++ rest := by
        rw [h, List.append_assoc, List.singleton_append]
      have hnodup : ((known.toList ++ [object]).map DomainObject.name).Nodup := by
        have hall := found.nodup
        rw [hsplit, List.map_append] at hall
        exact (List.nodup_append.mp hall).1
      exact ⟨⟨_, hnodup⟩, rfl, hsplit⟩

/-- The universe of a list has exactly the objects of the list. -/
theorem ofObjects_ok_iff {objects : List DomainObject} {known : Universe} :
    ofObjects objects = .ok known ↔ known.toList = objects := by
  rw [ofObjects, foldlM_add_ok_iff]
  rfl

/-- Adding an object fails exactly if its name is taken. -/
theorem add_error_iff {known : Universe} {object : DomainObject} {cause : Cause} :
    known.add object = .error cause ↔
      object.name ∈ known.keys ∧ cause = .configuration object.name none .declaredTwice := by
  unfold add
  split
  · next fresh => simp [fresh]
  · next taken =>
    rw [Decidable.not_not] at taken
    simp [taken, eq_comm]

/-- Adding objects one after another fails at the first one that repeats the name of an object
before it, be that known from the start or added. -/
theorem foldlM_add_error_iff {objects : List DomainObject} {known : Universe} {cause : Cause} :
    objects.foldlM add known = .error cause ↔
      ∃ before object after, objects = before ++ object :: after ∧
        IsFirstRepeat (known.toList ++ before) object ∧
        cause = .configuration object.name none .declaredTwice := by
  induction objects generalizing known with
  | nil =>
    rw [List.foldlM_nil]
    simp [pure_ne_error]
  | cons first rest ih =>
    -- What is added is known to all later objects, so `known` is general in the induction.
    simp only [List.foldlM_cons, bind_error_iff, add_error_iff, add_ok_iff, ih]
    constructor
    · rintro (⟨htaken, rfl⟩ | ⟨next, hnext, before, object, after, rfl, hrepeat, rfl⟩)
      · refine ⟨[], first, rest, rfl, ?_, rfl⟩
        rw [List.append_nil]
        exact ⟨known.nodup, htaken⟩
      · rw [hnext, List.append_assoc, List.singleton_append] at hrepeat
        exact ⟨first :: before, object, after, rfl, hrepeat, rfl⟩
    · -- The first object repeats a known name, or it is known to the objects after it.
      rintro ⟨before, object, after, hsplit, hrepeat, rfl⟩
      cases before with
      | nil =>
        obtain ⟨rfl, rfl⟩ := List.cons.inj hsplit
        rw [List.append_nil] at hrepeat
        exact Or.inl ⟨hrepeat.2, rfl⟩
      | cons other before =>
        obtain ⟨rfl, rfl⟩ := List.cons.inj hsplit
        have hsplit' : known.toList ++ first :: before = known.toList ++ [first] ++ before := by
          rw [List.append_assoc, List.singleton_append]
        rw [hsplit'] at hrepeat
        have hnodup : ((known.toList ++ [first]).map DomainObject.name).Nodup := by
          have hall := hrepeat.1
          rw [List.map_append] at hall
          exact (List.nodup_append.mp hall).1
        exact Or.inr ⟨⟨_, hnodup⟩, rfl, before, object, after, rfl, hrepeat, rfl⟩

/-- A list has no universe exactly if it repeats a name. The first object to do so is at fault. -/
theorem ofObjects_error_iff {objects : List DomainObject} {cause : Cause} :
    ofObjects objects = .error cause ↔
      ∃ before object after, objects = before ++ object :: after ∧ IsFirstRepeat before object ∧
        cause = .configuration object.name none .declaredTwice :=
  foldlM_add_error_iff

/-- A list without a universe is the fault of one of its objects. -/
theorem ofObjects_error {objects : List DomainObject} {cause : Cause}
    (h : ofObjects objects = .error cause) :
    ∃ object ∈ objects, cause.domainObject? = some object.name := by
  obtain ⟨before, object, after, rfl, -, rfl⟩ := ofObjects_error_iff.mp h
  exact ⟨object, by simp, rfl⟩

end Universe

/-! ## All tables -/

/-- Relationships have the names of the objects they are derived from. -/
theorem map_domainObject_of_derive {known : Universe} {limits : Limits}
    {objects : List DomainObject} {relationships : List Relationship}
    (h : List.Forall₂ (fun object relationship => derive known limits object = .ok relationship)
      objects relationships) :
    relationships.map Relationship.domainObject = objects.map DomainObject.name :=
  (map_eq_map_of_forall₂ (f := DomainObject.name) (g := Relationship.domainObject)
    (fun _ _ hderive => (domainObject_of_derive hderive).symm) h).symm

/-- The relationships of a universe are those of its objects, in their order. -/
theorem deriveAll_ok_iff {known : Universe} {limits : Limits} {relationships : Relationships} :
    deriveAll known limits = .ok relationships ↔
      List.Forall₂ (fun object relationship => derive known limits object = .ok relationship)
        known.toList relationships.toList := by
  -- The keys are the names of the objects, so the list is kept as it is.
  have hkeys : ∀ {rs : List Relationship},
      List.Forall₂ (fun object relationship => derive known limits object = .ok relationship)
        known.toList rs → (rs.map Relationship.domainObject).Nodup := by
    intro rs h
    rw [map_domainObject_of_derive h]
    exact known.nodup
  simp only [deriveAll, bind_ok_iff, mapM_ok_iff, pure_ok_iff]
  constructor
  · rintro ⟨rs, h, rfl⟩
    rwa [Keyed.toList_ofList (hkeys h)]
  · intro h
    exact ⟨_, h, Keyed.ext_toList (Keyed.toList_ofList (hkeys h))⟩

/-- The relationships of a universe are under the names of its objects. -/
theorem keys_of_deriveAll {known : Universe} {limits : Limits} {relationships : Relationships}
    (h : deriveAll known limits = .ok relationships) : relationships.keys = known.keys :=
  map_domainObject_of_derive (deriveAll_ok_iff.mp h)

/-- The relationship under the name of an object is the one that is derived for it. -/
theorem exists_find?_of_deriveAll {known : Universe} {limits : Limits}
    {relationships : Relationships} (h : deriveAll known limits = .ok relationships)
    {object : DomainObject} (hobject : object ∈ known.toList) :
    ∃ relationship, relationships.find? object.name = some relationship ∧
      derive known limits object = .ok relationship := by
  obtain ⟨relationship, hr, hderive⟩ := exists_right_of_forall₂ (deriveAll_ok_iff.mp h) hobject
  exact ⟨relationship, Keyed.find?_eq_some_iff.mpr ⟨hr, domainObject_of_derive hderive⟩, hderive⟩

/-- A column that makes a reference either nests the object that the type of a further property
nests, which is a literal by that type, or holds the uuid of a known object that has one. -/
theorem reference_of_deriveAll {known : Universe} {limits : Limits}
    {relationships : Relationships} (h : deriveAll known limits = .ok relationships)
    {relationship : Relationship} (hr : relationship ∈ relationships.toList)
    {mapping : ColumnMapping} (hmapping : mapping ∈ relationship.mappings)
    {reference : ColumnReference} (hreference : mapping.column.reference = some reference) :
    (∃ object ∈ known.toList, ∃ property ∈ object.furtherProperties,
      ∃ target ∈ property.type.nested?, target.variant = .literal ∧
        reference = ⟨.directByNesting, target⟩) ∨
    (∃ target ∈ known.toList, target.variant.isIdentifiable = true ∧
      reference = ⟨.implicitByUuid, target.reference⟩) := by
  obtain ⟨object, hobject, hderive⟩ := exists_left_of_forall₂ (deriveAll_ok_iff.mp h) hr
  obtain ⟨property, hproperty, hclassify⟩ :=
    exists_property_of_derive hderive hmapping hreference
  rcases classify_some_iff.mp hclassify with ⟨target, hnests, hdirect⟩ | ⟨stem, -, himplicit⟩
  · obtain ⟨hliteral, -, rfl⟩ := classifyDirect_ok_iff.mp hdirect
    exact Or.inl ⟨object, hobject, property, hproperty, target, hnests, hliteral, rfl⟩
  · obtain ⟨target, htarget, -, hid, rfl⟩ := classifyImplicit_some_iff.mp himplicit
    exact Or.inr ⟨target, htarget, hid, rfl⟩

/-- What the type of a further property nests is nested by a column, and the type calls it a
literal. -/
theorem exists_column_of_nests {known : Universe} {limits : Limits}
    {relationships : Relationships} (h : deriveAll known limits = .ok relationships)
    {object : DomainObject} (hobject : object ∈ known.toList) {property : Property}
    (hproperty : property ∈ object.furtherProperties) {target : ObjectReference}
    (hnests : target ∈ property.type.nested?) :
    target.variant = .literal ∧
      ∃ relationship ∈ relationships.toList, ∃ mapping ∈ relationship.mappings,
        mapping.column.reference = some ⟨.directByNesting, target⟩ := by
  obtain ⟨relationship, hr, hderive⟩ := exists_right_of_forall₂ (deriveAll_ok_iff.mp h) hobject
  obtain ⟨mapping, hmapping, hclassify⟩ := exists_mapping_of_derive hderive hproperty
  obtain ⟨hreference, hliteral⟩ := eq_directByNesting_of_nests hnests hclassify
  exact ⟨hliteral, relationship, hr, mapping, hmapping, hreference⟩

/-- Tables cannot be derived exactly if one object has no table, and the cause is that of the first
such object. -/
theorem deriveAll_error_iff {known : Universe} {limits : Limits} {cause : Cause} :
    deriveAll known limits = .error cause ↔
      ∃ before object after, known.toList = before ++ object :: after ∧
        (∀ earlier ∈ before, ∃ relationship, derive known limits earlier = .ok relationship) ∧
        derive known limits object = .error cause := by
  simp only [deriveAll, bind_error_iff, pure_ne_error, and_false, exists_false, or_false,
    mapM_error_iff]

/-- Tables that cannot be derived are the fault of an object. -/
theorem deriveAll_error {known : Universe} {limits : Limits} {cause : Cause}
    (h : deriveAll known limits = .error cause) :
    ∃ object ∈ known.toList, cause.domainObject? = some object.name := by
  obtain ⟨before, object, after, hlist, -, hderive⟩ := deriveAll_error_iff.mp h
  exact ⟨object, by simp [hlist], derive_error hderive⟩

/-! ## Compilations -/

/-- A step in a context succeeds as the step does. -/
theorem within_ok_iff {α : Type} {context : String} {step : Except Cause α} {a : α} :
    within context step = .ok a ↔ step = .ok a :=
  mapError_ok_iff

/-- A step in a context fails with the cause of the step in that context. -/
theorem within_error_iff {α : Type} {context : String} {step : Except Cause α} {error : Error} :
    within context step = .error error ↔
      ∃ cause, step = .error cause ∧
        (Error.ofCause cause).inContext (.message context) = error :=
  mapError_error_iff

section

variable {limits : Limits} {objects : List DomainObject}

/-- A compilation has the relationships of the listed objects, and an order of them. -/
theorem compile_ok_iff {compilation : Compilation} :
    compile limits objects = .ok compilation ↔
      ∃ known : Universe, known.toList = objects ∧
        deriveAll known limits = .ok compilation.relationships ∧
        compilation.relationships.provisioningOrder limits = .ok compilation.order := by
  simp only [compile, bind_ok_iff, mapError_ok_iff, within_ok_iff, pure_ok_iff,
    Universe.ofObjects_ok_iff]
  constructor
  · rintro ⟨known, hknown, relationships, hderive, order, horder, rfl⟩
    exact ⟨known, hknown, hderive, horder⟩
  · rintro ⟨known, hknown, hderive, horder⟩
    exact ⟨known, hknown, _, hderive, _, horder, rfl⟩

/-- A compilation fails with the cause of its first step that fails. -/
theorem compile_error_iff {error : Error} :
    compile limits objects = .error error ↔
      (∃ cause, Universe.ofObjects objects = .error cause ∧ Error.ofCause cause = error) ∨
      ∃ known : Universe, known.toList = objects ∧
        ((∃ cause, deriveAll known limits = .error cause ∧
            (Error.ofCause cause).inContext (.message "failed to derive relationships") =
              error) ∨
          ∃ relationships cause, deriveAll known limits = .ok relationships ∧
            relationships.provisioningOrder limits = .error cause ∧
            (Error.ofCause cause).inContext
                (.message "failed to order relationships for provisioning") =
              error) := by
  simp only [compile, bind_error_iff, mapError_error_iff, mapError_ok_iff, within_error_iff,
    within_ok_iff, pure_ne_error, and_false, exists_false, or_false, Universe.ofObjects_ok_iff,
    exists_and_left]

end

/-! ## What is provisioned -/

/-- Names that have relationships are looked up one after another. -/
theorem Relationships.exists_map_get_eq {relationships : Relationships} {names : List String}
    (h : ∀ name ∈ names, name ∈ relationships.keys) :
    ∃ found : List Relationship, names.map relationships.get = found.map .ok ∧
      found.map Relationship.domainObject = names ∧ found ⊆ relationships.toList := by
  induction names with
  | nil => exact ⟨[], rfl, rfl, List.nil_subset _⟩
  | cons name rest ih =>
    obtain ⟨hname, hrest⟩ := List.forall_mem_cons.mp h
    obtain ⟨relationship, hget⟩ := exists_get_ok_iff.mpr hname
    obtain ⟨found, hfound, hnames, hsub⟩ := ih hrest
    obtain ⟨hmem, rfl⟩ := get_ok_iff.mp hget
    refine ⟨relationship :: found, ?_, ?_, List.cons_subset.mpr ⟨hmem, hsub⟩⟩
    · rw [List.map_cons, List.map_cons, hget, hfound]
    · rw [List.map_cons, hnames]

/-- A name that stands before another one for the first time is in front of every place of the other
one. -/
theorem mem_of_idxOf_lt {before after : List String} {x y : String}
    (h : (before ++ x :: after).idxOf y < (before ++ x :: after).idxOf x) : y ∈ before := by
  by_contra hy
  rw [List.idxOf_append_of_notMem hy] at h
  by_cases hx : x ∈ before
  · rw [List.idxOf_append_of_mem hx] at h
    have hlt := List.idxOf_lt_length_of_mem hx
    omega
  · rw [List.idxOf_append_of_notMem hx, List.idxOf_cons_self] at h
    omega

/-- In an order of the relationships, each of them is provisioned once, and after those that it
refers to. -/
theorem Compilation.provisioned_of_isOrderedBy {compilation : Compilation}
    (h : compilation.relationships.IsOrderedBy compilation.order) :
    ∃ provisioned : List Relationship,
      compilation.provisioned = provisioned.map .ok ∧ provisioned.Nodup ∧
      provisioned.Perm compilation.relationships.toList ∧
      ∀ before relationship after, provisioned = before ++ relationship :: after →
        ∀ name ∈ relationship.referencedNames, ∃ target ∈ before, target.domainObject = name := by
  -- Every name of the order is that of a relationship, so all of them are found.
  have hkeys : ∀ name ∈ compilation.order, name ∈ compilation.relationships.keys :=
    fun name hname => Keyed.mem_keys_iff.mpr ((h.mem_iff name).mp hname)
  obtain ⟨provisioned, hget, hnames, hsub⟩ := Relationships.exists_map_get_eq hkeys
  have hnodup : provisioned.Nodup := by
    have horder := h.nodup
    rw [← hnames] at horder
    exact horder.of_map _
  refine ⟨provisioned, hget, hnodup, ?_, ?_⟩
  · -- Each relationship is provisioned, since its name is in the order.
    have hall := List.Nodup.of_map _ compilation.relationships.nodup
    refine (List.perm_ext_iff_of_nodup hnodup hall).mpr fun relationship => ⟨(hsub ·), ?_⟩
    intro hr
    have hname : relationship.domainObject ∈ compilation.order :=
      (h.mem_iff _).mpr ⟨relationship, hr, rfl⟩
    rw [← hnames] at hname
    obtain ⟨other, hother, heq⟩ := List.mem_map.mp hname
    exact Keyed.eq_of_key_eq (hsub hother) hr heq ▸ hother
  · -- A name referred to stands before in the order, and the order is that of what is provisioned.
    rintro before relationship after rfl name hname
    have hr : relationship ∈ compilation.relationships.toList := hsub (by simp)
    have hlt := h.before relationship hr name hname
    rw [← hnames, List.map_append, List.map_cons] at hlt
    exact List.mem_map.mp (mem_of_idxOf_lt hlt)

/-- An order of provisioning has every relationship once, and after the relationships that it
refers to; so has what a compilation provisions. -/
theorem provisioned_after_references (limits : Limits) :
    (∀ (relationships : Relationships) (order : List String),
      relationships.provisioningOrder limits = .ok order → relationships.IsOrderedBy order) ∧
    ∀ (objects : List DomainObject) (compilation : Compilation),
      compile limits objects = .ok compilation →
        ∃ provisioned : List Relationship,
          compilation.provisioned = provisioned.map .ok ∧ provisioned.Nodup ∧
          provisioned.Perm compilation.relationships.toList ∧
          ∀ before relationship after, provisioned = before ++ relationship :: after →
            ∀ name ∈ relationship.referencedNames,
              ∃ target ∈ before, target.domainObject = name := by
  refine ⟨fun _ _ h => Relationships.isOrderedBy_of_provisioningOrder h, ?_⟩
  intro objects compilation h
  obtain ⟨known, -, -, horder⟩ := compile_ok_iff.mp h
  exact Compilation.provisioned_of_isOrderedBy
    (Relationships.isOrderedBy_of_provisioningOrder horder)

/-- A train refers to the stations of its line, by uuid, and nests its position. A station nests its
address, and in that again a position. -/
def railway : List DomainObject := [
  { ((DomainObject.bare "Train" .entity).addProperty (.ofType "number" .string)
      |>.addProperty (.ofType "currentGeocode" (.reference ⟨"Geocode", .literal⟩))
      |>.addProperty (.ofType "originStationUuid" .string)
      |>.addProperty (.ofType "stationUuids" (.array .string))) with
    decorations := ⟨some ["number"], some ["currentGeocode"], none⟩ },
  { ((DomainObject.bare "Station" .entity).addProperty (.ofType "name" .string)
      |>.addProperty (.ofType "address" (.reference ⟨"Address", .literal⟩))) with
    decorations := ⟨some ["name"], some [], none⟩ },
  (DomainObject.bare "Address" .literal).addProperty (.ofType "street" .string)
    |>.addProperty (.ofType "geocode" (.reference ⟨"Geocode", .literal⟩)),
  (DomainObject.bare "Geocode" .literal).addProperty (.ofType "latitude" .number)]

/-- The railway compiles. -/
theorem exists_compile_railway : ∃ compilation, compile {} railway = .ok compilation :=
  exists_ok_of_toBool (by decide +kernel)

/-- The relationships of the railway are ordered, and provisioned in that order. -/
theorem provisioned_after_references_railway :
    ∃ compilation, compile {} railway = .ok compilation ∧
      compilation.relationships.IsOrderedBy compilation.order ∧
      ∃ provisioned : List Relationship, compilation.provisioned = provisioned.map .ok ∧
        provisioned.Perm compilation.relationships.toList := by
  obtain ⟨compilation, h⟩ := exists_compile_railway
  obtain ⟨known, -, -, horder⟩ := compile_ok_iff.mp h
  obtain ⟨provisioned, hget, -, hperm, -⟩ := (provisioned_after_references {}).2 railway _ h
  exact ⟨compilation, h, (provisioned_after_references {}).1 _ _ horder, provisioned, hget, hperm⟩

end DomainTables
