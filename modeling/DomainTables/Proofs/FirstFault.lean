import DomainTables.Proofs.Fault

/-!
# The first fault of a list

A compilation takes the objects of its list one by one. It first collects them, and stops at the
first object whose name repeats an earlier one (`Universe.ofObjects_error_iff`). It then derives
their tables, and stops at the first object that has none (`deriveAll_error_iff`). If it gets
through, it has the table of each object alone, in the order of the list and under the name of the
object (`exists_relationships_of_derive`), and it is left to order them.

A cause of the second or third step gets a context that names the step. The context changes what is
displayed and nothing that is asked about the error (`Error.explains_inContext`), so what a
compilation returns for a list is told by its parts (`compile_pointwise`).
-/

namespace DomainTables

/-! ## Errors in the context of a step -/

/-- An error that shows a cause behind the name of a step, and that answers all questions as the
cause alone does. -/
structure Error.Explains (error : Error) (step : String) (cause : Cause) : Prop where
  /-- The message is that of the cause with the step in front. -/
  display : error.display = step ++ ": " ++ cause.display
  /-- The same domain object is at fault. -/
  domainObject? : error.domainObject? = (Error.ofCause cause).domainObject?
  /-- The same property is at fault. -/
  property? : error.property? = (Error.ofCause cause).property?
  /-- The same objects could be meant. -/
  candidates? : error.candidates? = (Error.ofCause cause).candidates?
  /-- The declarations are at fault as they are without the step. -/
  isConfiguration : error.isConfiguration = (Error.ofCause cause).isConfiguration
  /-- A promise is broken as it is without the step. -/
  isInternalConsistency :
    error.isInternalConsistency = (Error.ofCause cause).isInternalConsistency
  /-- References form a cycle as they do without the step. -/
  isCyclicReference : error.isCyclicReference = (Error.ofCause cause).isCyclicReference

/-- A cause without context shows its own message. -/
theorem Error.display_ofCause (cause : Cause) : (ofCause cause).display = cause.display := by
  show ": ".intercalate [cause.display] = _
  exact String.intercalate_singleton

/-- A message as context explains the cause. -/
theorem Error.explains_inContext (cause : Cause) (step : String) :
    ((ofCause cause).inContext (.message step)).Explains step cause where
  display := by
    show ": ".intercalate [step, cause.display] = _
    rw [String.intercalate_cons_of_ne_nil (List.cons_ne_nil _ _), String.intercalate_singleton]
  domainObject? := rfl
  property? := rfl
  candidates? := rfl
  isConfiguration := isConfiguration_inContext _ step
  isInternalConsistency := isInternalConsistency_inContext _ step
  isCyclicReference := isCyclicReference_inContext _ step

/-! ## Lists that are collected -/

section

variable {limits : Limits} {objects : List DomainObject}

/-- Tables of the objects of a universe are its relationships, each under the name of its object. -/
theorem exists_relationships_of_derive {known : Universe} {tables : List Relationship}
    (h : List.Forall₂ (fun object table => derive known limits object = .ok table)
      known.toList tables) :
    ∃ relationships : Relationships, deriveAll known limits = .ok relationships ∧
      relationships.toList = tables ∧ relationships.size = known.size ∧
      List.Forall₂ (fun object table => relationships.get object.name = .ok table)
        known.toList tables := by
  -- Tables are kept under the names of their objects, which are distinct in a universe.
  have hkeys : (tables.map Relationship.domainObject).Nodup := by
    rw [map_domainObject_of_derive h]
    exact known.nodup
  refine ⟨⟨tables, hkeys⟩, deriveAll_ok_iff.mpr h, rfl, h.length_eq.symm, ?_⟩
  refine (List.forall₂_iff_get.mpr ⟨h.length_eq, fun i hi hi' => ?_⟩)
  have hderive := (List.forall₂_iff_get.mp h).2 i hi hi'
  exact Relationships.get_ok_iff.mpr
    ⟨List.get_mem tables ⟨i, hi'⟩, domainObject_of_derive hderive⟩

/-- A list that repeats a name is refused for the first object that does so, without a context. -/
theorem compile_error_of_not_nodup (limits : Limits)
    (h : ¬ (objects.map DomainObject.name).Nodup) :
    ∃ before object after, objects = before ++ object :: after ∧ IsFirstRepeat before object ∧
      compile limits objects =
        .error (Error.ofCause (.configuration object.name none .declaredTwice)) := by
  cases hknown : Universe.ofObjects objects with
  | ok known =>
    rw [Universe.ofObjects_ok_iff] at hknown
    exact absurd (hknown ▸ known.nodup) h
  | error cause =>
    obtain ⟨before, object, after, hsplit, hrepeat, rfl⟩ := Universe.ofObjects_error_iff.mp hknown
    exact ⟨before, object, after, hsplit, hrepeat,
      compile_error_iff.mpr (Or.inl ⟨_, hknown, rfl⟩)⟩

/-- A list with an object that has no table is refused for the first such object. -/
theorem compile_error_of_derive_error {known : Universe}
    (h : ∃ object ∈ known.toList, ∃ cause, derive known limits object = .error cause) :
    ∃ before object after cause, known.toList = before ++ object :: after ∧
      (∀ earlier ∈ before, ∃ table, derive known limits earlier = .ok table) ∧
      derive known limits object = .error cause ∧
      compile limits known.toList = .error
        ((Error.ofCause cause).inContext (.message "failed to derive relationships")) := by
  cases hderive : deriveAll known limits with
  | ok relationships =>
    -- All tables would be derived, that of the object at fault too.
    obtain ⟨object, hobject, cause, hcause⟩ := h
    obtain ⟨_, -, hok⟩ := exists_right_of_forall₂ (deriveAll_ok_iff.mp hderive) hobject
    rw [hcause] at hok
    cases hok
  | error cause =>
    obtain ⟨before, object, after, hsplit, hearlier, hcause⟩ := deriveAll_error_iff.mp hderive
    exact ⟨before, object, after, cause, hsplit, hearlier, hcause,
      compile_error_iff.mpr (Or.inr ⟨known, rfl, Or.inl ⟨cause, hderive, rfl⟩⟩)⟩

end

/-- What a compilation returns for a list is told by what is derived for each object alone. A list
that repeats a name is refused for the first object that does so. Otherwise it is refused for the
first object that has no table, in a context that names this step, or because its tables cannot be
ordered, in a context that names that step. What is left is compiled to the tables of its objects,
as many as there are, in the order of the list and each under the name of its object. -/
theorem compile_pointwise (limits : Limits) (objects : List DomainObject) :
    (¬ (objects.map DomainObject.name).Nodup →
      ∃ before object after error, objects = before ++ object :: after ∧
        IsFirstRepeat before object ∧ compile limits objects = .error error ∧
        error.display = (Cause.configuration object.name none .declaredTwice).display ∧
        error.isConfiguration = true ∧ error.domainObject? = some object.name) ∧
    ∀ (known : Universe), known.toList = objects →
      ((∃ object ∈ objects, ∃ cause, derive known limits object = .error cause) →
        ∃ before object after cause error, objects = before ++ object :: after ∧
          (∀ earlier ∈ before, ∃ table, derive known limits earlier = .ok table) ∧
          derive known limits object = .error cause ∧ compile limits objects = .error error ∧
          error.Explains "failed to derive relationships" cause) ∧
      ∀ tables, List.Forall₂ (fun object table => derive known limits object = .ok table)
          objects tables →
        ∃ relationships : Relationships, relationships.toList = tables ∧
          relationships.size = objects.length ∧
          List.Forall₂ (fun object table => relationships.get object.name = .ok table)
            objects tables ∧
          (∀ cause, relationships.provisioningOrder limits = .error cause →
            ∃ error, compile limits objects = .error error ∧
              error.Explains "failed to order relationships for provisioning" cause) ∧
          ∀ order, relationships.provisioningOrder limits = .ok order →
            compile limits objects = .ok ⟨relationships, order⟩ := by
  refine ⟨fun hrepeats => ?_, fun known hknown => ⟨fun hfault => ?_, fun tables htables => ?_⟩⟩
  · -- Such a list is refused before any step that would be named as a context.
    obtain ⟨before, object, after, hsplit, hrepeat, herror⟩ :=
      compile_error_of_not_nodup limits hrepeats
    exact ⟨before, object, after, _, hsplit, hrepeat, herror, Error.display_ofCause _, rfl, rfl⟩
  · -- The first object without a table stops the derivation, whatever is behind it.
    subst hknown
    obtain ⟨before, object, after, cause, hsplit, hearlier, hcause, herror⟩ :=
      compile_error_of_derive_error hfault
    exact ⟨before, object, after, cause, _, hsplit, hearlier, hcause, herror,
      Error.explains_inContext cause _⟩
  · -- All tables are there, so it is decided by their order.
    subst hknown
    obtain ⟨relationships, hderive, hlist, hsize, hget⟩ := exists_relationships_of_derive htables
    refine ⟨relationships, hlist, hsize, hget, fun cause hcause => ?_, fun order horder => ?_⟩
    · refine ⟨_, compile_error_iff.mpr (Or.inr ⟨known, rfl, Or.inr
        ⟨relationships, cause, hderive, hcause, rfl⟩⟩), Error.explains_inContext cause _⟩
    · exact compile_ok_iff.mpr ⟨known, rfl, hderive, horder⟩

/-- A literal that declares a natural key. -/
def keyedSeat : DomainObject :=
  { DomainObject.bare "Seat" .literal with decorations := ⟨some ["row"], none, none⟩ }

/-- The railway compiles to four tables. Listed twice it repeats a name, a literal that declares a
natural key has no table, and a coach that nests itself cannot be ordered. -/
theorem compile_pointwise_railway :
    (∃ before object after error, railway ++ railway = before ++ object :: after ∧
      IsFirstRepeat before object ∧ compile {} (railway ++ railway) = .error error ∧
      error.domainObject? = some object.name) ∧
    (∃ error cause, compile {} [keyedSeat] = .error error ∧
      error.Explains "failed to derive relationships" cause) ∧
    (∃ error cause, compile {} [nestedCoach] = .error error ∧
      error.Explains "failed to order relationships for provisioning" cause) ∧
    ∃ compilation, compile {} railway = .ok compilation ∧ compilation.relationships.size = 4 := by
  refine ⟨?_, ?_, ?_, ?_⟩
  · obtain ⟨before, object, after, error, hsplit, hrepeat, herror, -, -, hobject⟩ :=
      (compile_pointwise {} (railway ++ railway)).1 (by decide +kernel)
    exact ⟨before, object, after, error, hsplit, hrepeat, herror, hobject⟩
  · have hfails : ∃ cause, derive ⟨[keyedSeat], by decide⟩ {} keyedSeat = .error cause :=
      ⟨.configuration "Seat" none .uniqueLiteral, by decide +kernel⟩
    obtain ⟨_, _, _, cause, error, -, -, -, herror, hexplains⟩ :=
      ((compile_pointwise {} [keyedSeat]).2 ⟨[keyedSeat], by decide⟩ rfl).1
        ⟨keyedSeat, List.mem_singleton.mpr rfl, hfails⟩
    exact ⟨error, cause, herror, hexplains⟩
  · obtain ⟨table, htable⟩ := exists_ok_of_toBool
      (show (derive ⟨[nestedCoach], by decide⟩ {} nestedCoach).toBool = true by decide +kernel)
    obtain ⟨relationships, -, -, -, hcyclic, hordered⟩ :=
      ((compile_pointwise {} [nestedCoach]).2 ⟨[nestedCoach], by decide⟩ rfl).2 [table]
        (.cons htable .nil)
    -- If there were an order the coach would compile, which it does not.
    cases hcause : relationships.provisioningOrder {} with
    | error cause =>
      obtain ⟨error, herror, hexplains⟩ := hcyclic cause hcause
      exact ⟨error, cause, herror, hexplains⟩
    | ok order =>
      have hfails : (compile {} [nestedCoach]).toBool = false := by decide +kernel
      rw [hordered order hcause] at hfails
      cases hfails
  · obtain ⟨compilation, h⟩ := exists_compile_railway
    obtain ⟨known, hknown, hderive, horder⟩ := compile_ok_iff.mp h
    have htables := deriveAll_ok_iff.mp hderive
    rw [hknown] at htables
    obtain ⟨relationships, hlist, hsize, -, -, hordered⟩ :=
      ((compile_pointwise {} railway).2 known hknown).2 _ htables
    obtain rfl : relationships = compilation.relationships := Keyed.ext_toList hlist
    exact ⟨compilation, hordered _ horder, hsize⟩

end DomainTables
