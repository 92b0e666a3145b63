import DomainTables.Proofs.Compilation

/-!
# Whose fault an error is

An error of a compilation is either about the declarations or about a promise that the library makes
to itself. Duplicates, decorations, types, references and natural keys are always faults of an
object, and an order that is not found is a cycle. What is left is the promise that every name
referred to has a relationship. The universe has every object that a uuid means, but a nested object
is known by its type alone, so the promise is broken exactly by objects that nest what is not listed
(`isClosed_iff_not_nestsUndeclared`).
-/

namespace DomainTables

/-! ## Families of errors -/

/-- A cause without context is of the family of the cause. -/
theorem Error.isConfiguration_ofCause (cause : Cause) :
    (ofCause cause).isConfiguration = cause.isConfiguration := by
  simp [isConfiguration, chain, ofCause]

/-- A cause without context breaks a promise as the cause does. -/
theorem Error.isInternalConsistency_ofCause (cause : Cause) :
    (ofCause cause).isInternalConsistency = cause.isInternalConsistency := by
  simp [isInternalConsistency, chain, ofCause]

/-- A message as context does not change whether the declarations are at fault. -/
theorem Error.isConfiguration_inContext (error : Error) (text : String) :
    (error.inContext (.message text)).isConfiguration = error.isConfiguration := by
  simp [isConfiguration, chain, inContext, Cause.isConfiguration]

/-- A message as context does not change whether a promise is broken. -/
theorem Error.isInternalConsistency_inContext (error : Error) (text : String) :
    (error.inContext (.message text)).isInternalConsistency = error.isInternalConsistency := by
  simp [isInternalConsistency, chain, inContext, Cause.isInternalConsistency]

/-- A cause without context is about a cycle if the cause is. -/
theorem Error.isCyclicReference_ofCause (cause : Cause) :
    (ofCause cause).isCyclicReference = cause.isCyclicReference := by
  simp [isCyclicReference, chain, ofCause]

/-- A cause without context is the fault of the same domain object. -/
theorem Error.domainObject?_ofCause (cause : Cause) :
    (ofCause cause).domainObject? = cause.domainObject? := by
  simp [domainObject?, chain, ofCause]

/-- A message as context does not change whether references form a cycle. -/
theorem Error.isCyclicReference_inContext (error : Error) (text : String) :
    (error.inContext (.message text)).isCyclicReference = error.isCyclicReference := by
  simp [isCyclicReference, chain, inContext, Cause.isCyclicReference]

/-- A cause that is the fault of a single object is not about a cycle. -/
theorem Cause.isCyclicReference_of_domainObject? {cause : Cause} {domainObject : String}
    (h : cause.domainObject? = some domainObject) : cause.isCyclicReference = false := by
  cases cause with
  | configuration => rfl
  | ambiguousReference => rfl
  | message | foreign | cyclicReference | internalConsistency => cases h

/-! ## Nested objects that are not listed -/

/-- A listed object has a further property that nests an object which is not listed. -/
def NestsUndeclared (objects : List DomainObject) : Prop :=
  ∃ object ∈ objects, ∃ property ∈ object.furtherProperties, ∃ target ∈ property.type.nested?,
    ∀ declared ∈ objects, declared.name ≠ target.name

instance (objects : List DomainObject) : Decidable (NestsUndeclared objects) := by
  unfold NestsUndeclared
  infer_instance

/-- The listed objects have distinct names, and each of them has a table. -/
def HaveTables (limits : Limits) (objects : List DomainObject) : Prop :=
  ∃ known : Universe, known.toList = objects ∧
    ∃ relationships, deriveAll known limits = .ok relationships

section

variable {limits : Limits} {objects : List DomainObject}

/-- Derived relationships refer to each other alone, unless an object nests one that is not
listed. -/
theorem isClosed_iff_not_nestsUndeclared {known : Universe} {relationships : Relationships}
    (h : deriveAll known limits = .ok relationships) :
    relationships.IsClosed ↔ ¬ NestsUndeclared known.toList := by
  constructor
  · rintro hclosed ⟨object, hobject, property, hproperty, target, hnests, habsent⟩
    -- The column of the property refers to the nested object, whether that is listed or not.
    obtain ⟨-, relationship, hr, mapping, hmapping, hreference⟩ :=
      exists_column_of_nests h hobject hproperty hnests
    have hkey := hclosed.mem_keys hr hmapping hreference
    rw [keys_of_deriveAll h] at hkey
    obtain ⟨declared, hdeclared, heq⟩ := Keyed.mem_keys_iff.mp hkey
    exact habsent declared hdeclared heq
  · intro hdeclared relationship hr name hname
    obtain ⟨mapping, hmapping, reference, hreference, rfl⟩ :=
      Relationships.mem_referencedNames_iff.mp hname
    rw [keys_of_deriveAll h]
    rcases reference_of_deriveAll h hr hmapping hreference with
      ⟨object, hobject, property, hproperty, target, hnests, -, rfl⟩ | ⟨target, htarget, -, rfl⟩
    · by_contra habsent
      refine hdeclared ⟨object, hobject, property, hproperty, target, hnests, ?_⟩
      exact fun declared hmem heq => habsent (Keyed.mem_keys_iff.mpr ⟨declared, hmem, heq⟩)
    · exact Keyed.key_mem_keys htarget

/-- Relationships that refer to one without relationship cannot be ordered, and that breaks a
promise. -/
theorem compile_error_of_not_isClosed {known : Universe} {relationships : Relationships}
    (hknown : known.toList = objects) (hderive : deriveAll known limits = .ok relationships)
    (hopen : ¬ relationships.IsClosed) :
    ∃ error, compile limits objects = .error error ∧ error.isInternalConsistency = true := by
  cases horder : relationships.provisioningOrder limits with
  | ok order => exact absurd (Relationships.provisioningOrder_ok_iff.mp horder).1 hopen
  | error cause =>
    refine ⟨_, compile_error_iff.mpr (Or.inr ⟨known, hknown, Or.inr
      ⟨relationships, cause, hderive, horder, rfl⟩⟩), ?_⟩
    -- Of the two ways to fail, a cycle needs that all names have relationships.
    rcases Relationships.provisioningOrder_error horder with ⟨-, name, rfl⟩ | ⟨hclosed, -⟩
    · rw [Error.isInternalConsistency_inContext, Error.isInternalConsistency_ofCause]
      rfl
    · exact absurd hclosed hopen

/-- An error is about the declarations, or else the tables are there and refer to one that is
not. -/
theorem family_of_compile_error {error : Error} (h : compile limits objects = .error error) :
    (error.isConfiguration = true ∧ error.isInternalConsistency = false) ∨
      ((error.isConfiguration = false ∧ error.isInternalConsistency = true) ∧
        ∃ known : Universe, known.toList = objects ∧
          ∃ relationships, deriveAll known limits = .ok relationships ∧
            ¬ relationships.IsClosed) := by
  rcases compile_error_iff.mp h with
    ⟨cause, hcause, rfl⟩ |
    ⟨known, hknown, ⟨cause, hcause, rfl⟩ | ⟨relationships, cause, hderive, hcause, rfl⟩⟩
  · -- A name is declared twice.
    obtain ⟨object, -, hfault⟩ := Universe.ofObjects_error hcause
    rw [Error.isConfiguration_ofCause, Error.isInternalConsistency_ofCause]
    exact Or.inl (Cause.isConfiguration_of_domainObject? hfault)
  · -- A table cannot be derived.
    obtain ⟨object, -, hfault⟩ := deriveAll_error hcause
    rw [Error.isConfiguration_inContext, Error.isInternalConsistency_inContext,
      Error.isConfiguration_ofCause, Error.isInternalConsistency_ofCause]
    exact Or.inl (Cause.isConfiguration_of_domainObject? hfault)
  · -- The tables cannot be ordered: one is missing, or they form a cycle.
    rw [Error.isConfiguration_inContext, Error.isInternalConsistency_inContext,
      Error.isConfiguration_ofCause, Error.isInternalConsistency_ofCause]
    rcases Relationships.provisioningOrder_error hcause with ⟨hopen, name, rfl⟩ | ⟨-, _, rfl⟩
    · exact Or.inr ⟨⟨rfl, rfl⟩, known, hknown, relationships, hderive, hopen⟩
    · exact Or.inl ⟨rfl, rfl⟩

end

/-- An error is either about the declarations or about a broken promise, and not about both. It is
about the declarations for every list of objects, except those that have tables while one of them
nests an object that is not listed. -/
theorem configuration_iff_not_nestsUndeclared (limits : Limits) (objects : List DomainObject) :
    (∀ error, compileProvided limits (.ok objects) = .error error →
      error.isConfiguration = !error.isInternalConsistency) ∧
    ((∀ error, compileProvided limits (.ok objects) = .error error →
        error.isConfiguration = true ∧ error.isInternalConsistency = false) ↔
      ¬ (HaveTables limits objects ∧ NestsUndeclared objects)) := by
  have hprovided : compileProvided limits (.ok objects) = compile limits objects := rfl
  rw [hprovided]
  refine ⟨fun error h => ?_, fun hall => ?_, fun hcond error h => ?_⟩
  · rcases family_of_compile_error h with ⟨hconf, hcons⟩ | ⟨⟨hconf, hcons⟩, -⟩
    · rw [hconf, hcons, Bool.not_false]
    · rw [hconf, hcons, Bool.not_true]
  · -- The tables are there but refer to one that is not, and that breaks a promise.
    rintro ⟨⟨known, rfl, relationships, hderive⟩, hnests⟩
    have hopen : ¬ relationships.IsClosed := by
      rw [isClosed_iff_not_nestsUndeclared hderive]
      exact not_not_intro hnests
    obtain ⟨error, h, hcons⟩ := compile_error_of_not_isClosed rfl hderive hopen
    rw [(hall error h).2] at hcons
    cases hcons
  · rcases family_of_compile_error h with hfamily | ⟨-, known, rfl, relationships, hderive, hopen⟩
    · exact hfamily
    · rw [isClosed_iff_not_nestsUndeclared hderive, not_not] at hopen
      exact absurd ⟨⟨known, rfl, relationships, hderive⟩, hopen⟩ hcond

/-- A coach in which a coach is nested: the references form a cycle. -/
def nestedCoach : DomainObject :=
  (DomainObject.bare "Coach" .literal).addProperty
    (.ofType "coach" (.reference ⟨"Coach", .literal⟩))

/-- The error about a cycle is about the declarations, since the nested coach is listed. -/
theorem configuration_of_nestedCoach :
    ∃ error, compileProvided {} (.ok [nestedCoach]) = .error error ∧
      error.isConfiguration = true ∧ error.isInternalConsistency = false := by
  have hfails : (compileProvided {} (.ok [nestedCoach])).toBool = false := by decide +kernel
  -- Both facts are on the list alone; the theorem then says which kind of error it is.
  have hlisted : ¬ NestsUndeclared [nestedCoach] := by decide +kernel
  cases h : compileProvided {} (.ok [nestedCoach]) with
  | ok compilation =>
    rw [h] at hfails
    cases hfails
  | error error =>
    have hcond : ¬ (HaveTables {} [nestedCoach] ∧ NestsUndeclared [nestedCoach]) :=
      fun hboth => hlisted hboth.2
    exact ⟨error, rfl, (configuration_iff_not_nestsUndeclared {} [nestedCoach]).2.mpr hcond _ h⟩

/-- A coach with a seat that is not listed. -/
def seatedCoach : DomainObject :=
  (DomainObject.bare "Coach" .literal).addProperty
    (.ofType "seat" (.reference ⟨"Seat", .literal⟩))

/-- The declaration of the coach alone is enough to break the promise. -/
theorem internalConsistency_of_seatedCoach :
    compileProvided {} (.ok [seatedCoach]) =
        .error ((Error.ofCause (.internalConsistency (.missingRelationship "Seat"))).inContext
          (.message "failed to order relationships for provisioning")) ∧
      ¬ ∀ error, compileProvided {} (.ok [seatedCoach]) = .error error →
        error.isConfiguration = true ∧ error.isInternalConsistency = false := by
  have h : compileProvided {} (.ok [seatedCoach]) =
      .error ((Error.ofCause (.internalConsistency (.missingRelationship "Seat"))).inContext
        (.message "failed to order relationships for provisioning")) := by
    decide +kernel
  refine ⟨h, fun hall => ?_⟩
  have hcons := (hall _ h).2
  revert hcons
  decide

end DomainTables
