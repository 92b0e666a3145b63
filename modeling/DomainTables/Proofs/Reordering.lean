import DomainTables.Proofs.Fault
import DomainTables.Proofs.Ordering
import DomainTables.Proofs.Surroundings

/-!
# The order of declaration

Declaring the same objects in another order changes the order of the relationships and nothing else.
The universe knows the same references, so every object has the same table (`deriveAll_of_perm`).
The dependencies are kept in ascending order, whatever order they are found in, so the scans place
the same names (`Relationships.SameDependencies.provisioningOrder_eq`). Hence compilations agree on
every relationship and on the order of provisioning, and where the references form a cycle they
report the same one (`compile_of_perm`).

Other errors may differ, since a compilation reports the first object in the order of declaration
that breaks a rule.
-/

namespace DomainTables

/-! ## Provisioning -/

namespace Relationships

/-- Two sets of relationships have the same names, and under each name refer to the same objects. -/
def SameDependencies (relationships relationships' : Relationships) : Prop :=
  (relationships.entries.map fun entry => (entry.1, sortedNames entry.2)).Perm
    (relationships'.entries.map fun entry => (entry.1, sortedNames entry.2))

variable {relationships relationships' : Relationships}

/-- The order of relationships does not change what they depend on. -/
theorem sameDependencies_of_perm (h : relationships.toList.Perm relationships'.toList) :
    relationships.SameDependencies relationships' :=
  (h.map _).map _

namespace SameDependencies

variable (h : relationships.SameDependencies relationships')

include h

/-- Relationships with the same dependencies have the same table of them. -/
theorem table_eq : relationships.table = relationships'.table := by
  have hnodup : (relationships.entries.map (·.1)).Nodup := by
    rw [map_fst_entries]
    exact relationships.nodup
  exact Dependencies.ofEntries_eq_of_perm h hnodup

/-- Whether all names referred to have relationships is a matter of the dependencies. -/
theorem isClosed (hclosed : relationships.IsClosed) : relationships'.IsClosed := by
  intro relationship' hr' name hname
  -- The names are looked for in the entry of the same table among the first relationships.
  have hentry := mem_table_iff.mpr ⟨relationship', hr', rfl⟩
  rw [← h.table_eq] at hentry
  obtain ⟨relationship, hr, heq⟩ := mem_table_iff.mp hentry
  have hreferenced : name ∈ relationship.referencedNames := by
    have hsorted : sortedNames relationship.referencedNames =
        sortedNames relationship'.referencedNames := congrArg Prod.snd heq
    rw [← mem_sortedNames, hsorted, mem_sortedNames]
    exact hname
  rw [← mem_names_table, ← h.table_eq, mem_names_table]
  exact hclosed relationship hr hreferenced

/-- Relationships that are closed have the same order of provisioning, or the same error, as others
with the same dependencies. -/
theorem provisioningOrder_eq (hclosed : relationships.IsClosed) (limits : Limits) :
    relationships.provisioningOrder limits = relationships'.provisioningOrder limits := by
  rw [provisioningOrder_of_isClosed hclosed, provisioningOrder_of_isClosed (h.isClosed hclosed),
    h.table_eq]

end SameDependencies

end Relationships

/-! ## Tables -/

/-- The same objects in another order have the same tables. -/
theorem deriveAll_of_perm {known known' : Universe} {limits : Limits}
    {relationships : Relationships} (h : known.toList.Perm known'.toList)
    (hderive : deriveAll known limits = .ok relationships) :
    ∃ relationships', deriveAll known' limits = .ok relationships' ∧
      relationships.toList.Perm relationships'.toList := by
  have hsame : known.SameReferences known' := Universe.sameReferences_of_perm (h.map _)
  -- The relationships of the first universe, brought into the order of the second.
  obtain ⟨found, hfound, hperm⟩ :=
    List.perm_comp_forall₂ h.symm (deriveAll_ok_iff.mp hderive)
  have hfound' : List.Forall₂ (fun object relationship =>
      derive known' limits object = .ok relationship) known'.toList found :=
    hfound.imp fun object relationship hr => (derive_congr hsame).symm.trans hr
  have hnodup : (found.map Relationship.domainObject).Nodup :=
    (hperm.map _).nodup_iff.mpr relationships.nodup
  exact ⟨⟨found, hnodup⟩, deriveAll_ok_iff.mpr hfound', hperm.symm⟩

/-! ## Compilations -/

section

variable {limits : Limits} {objects objects' : List DomainObject}

/-- A list in another order has a universe if the list has. -/
theorem Universe.exists_of_perm {known : Universe} (h : known.toList.Perm objects') :
    ∃ known' : Universe, known'.toList = objects' :=
  ⟨⟨objects', (h.map DomainObject.name).nodup_iff.mp known.nodup⟩, rfl⟩

/-- A compilation of a list makes one of every list in another order, with the same order of
provisioning. -/
theorem compile_ok_of_perm {compilation : Compilation} (hperm : objects.Perm objects')
    (h : compile limits objects = .ok compilation) :
    ∃ compilation', compile limits objects' = .ok compilation' ∧
      compilation'.order = compilation.order := by
  obtain ⟨known, rfl, hderive, horder⟩ := compile_ok_iff.mp h
  obtain ⟨known', rfl⟩ := Universe.exists_of_perm hperm
  obtain ⟨relationships', hderive', hrs⟩ := deriveAll_of_perm hperm hderive
  have hclosed := (Relationships.provisioningOrder_ok_iff.mp horder).1
  rw [(Relationships.sameDependencies_of_perm hrs).provisioningOrder_eq hclosed] at horder
  exact ⟨⟨relationships', _⟩, compile_ok_iff.mpr ⟨known', rfl, hderive', horder⟩, rfl⟩

/-- A cycle that a compilation reports is reported in the same way for every list in another
order. -/
theorem compile_error_of_perm {error : Error} (hperm : objects.Perm objects')
    (hcyclic : error.isCyclicReference = true) (h : compile limits objects = .error error) :
    compile limits objects' = .error error := by
  rcases compile_error_iff.mp h with
    ⟨cause, hcause, rfl⟩ |
    ⟨known, rfl, ⟨cause, hcause, rfl⟩ | ⟨relationships, cause, hderive, horder, rfl⟩⟩
  · -- A name that is declared twice is no cycle.
    obtain ⟨object, -, hfault⟩ := Universe.ofObjects_error hcause
    rw [Error.isCyclicReference_ofCause, Cause.isCyclicReference_of_domainObject? hfault]
      at hcyclic
    cases hcyclic
  · -- A table that cannot be derived is no cycle.
    obtain ⟨object, -, hfault⟩ := deriveAll_error hcause
    rw [Error.isCyclicReference_inContext, Error.isCyclicReference_ofCause,
      Cause.isCyclicReference_of_domainObject? hfault] at hcyclic
    cases hcyclic
  · rcases Relationships.provisioningOrder_error horder with ⟨-, name, rfl⟩ | ⟨hclosed, -⟩
    · -- Neither is a missing relationship.
      rw [Error.isCyclicReference_inContext, Error.isCyclicReference_ofCause] at hcyclic
      cases hcyclic
    · -- A failure to order is read off the dependencies, which are the same for both lists.
      obtain ⟨known', rfl⟩ := Universe.exists_of_perm hperm
      obtain ⟨relationships', hderive', hrs⟩ := deriveAll_of_perm hperm hderive
      rw [(Relationships.sameDependencies_of_perm hrs).provisioningOrder_eq hclosed] at horder
      exact compile_error_iff.mpr
        (Or.inr ⟨known', rfl, Or.inr ⟨relationships', cause, hderive', horder, rfl⟩⟩)

/-- Compilations of the same objects store the same relationship under each name, and have the
relationships in the order of their list. -/
theorem relationships_of_compile_of_perm {compilation compilation' : Compilation}
    (hperm : objects.Perm objects') (h : compile limits objects = .ok compilation)
    (h' : compile limits objects' = .ok compilation') :
    (∀ name, compilation'.relationships.find? name = compilation.relationships.find? name) ∧
      compilation.relationships.keys = objects.map DomainObject.name ∧
      compilation'.relationships.keys = objects'.map DomainObject.name := by
  obtain ⟨known, rfl, hderive, -⟩ := compile_ok_iff.mp h
  obtain ⟨known', rfl, hderive', -⟩ := compile_ok_iff.mp h'
  have hsame : known.SameReferences known' := Universe.sameReferences_of_perm (hperm.map _)
  refine ⟨fun name => ?_, keys_of_deriveAll hderive, keys_of_deriveAll hderive'⟩
  rw [find?_of_deriveAll hderive, find?_of_deriveAll hderive', Keyed.find?_eq_of_perm hperm]
  simp only [derive_congr hsame]

/-- The order of declaration is irrelevant. A list compiles exactly if any other order of it does,
and then the order of provisioning is the same and so is what is stored under each name; only the
relationships are listed as they are declared. A cycle is reported by the same error. -/
theorem compile_of_perm (hperm : objects.Perm objects') (limits : Limits) :
    ((∃ compilation, compile limits objects = .ok compilation) ↔
      ∃ compilation, compile limits objects' = .ok compilation) ∧
    (∀ compilation compilation', compile limits objects = .ok compilation →
      compile limits objects' = .ok compilation' →
        compilation'.order = compilation.order ∧
        (∀ name, compilation'.relationships.find? name = compilation.relationships.find? name) ∧
        compilation.relationships.keys = objects.map DomainObject.name ∧
        compilation'.relationships.keys = objects'.map DomainObject.name) ∧
    ∀ error : Error, error.isCyclicReference = true →
      (compile limits objects = .error error ↔ compile limits objects' = .error error) := by
  refine ⟨⟨?_, ?_⟩, ?_, fun error hcyclic => ⟨?_, ?_⟩⟩
  · rintro ⟨compilation, h⟩
    obtain ⟨compilation', h', -⟩ := compile_ok_of_perm hperm h
    exact ⟨compilation', h'⟩
  · rintro ⟨compilation, h⟩
    obtain ⟨compilation', h', -⟩ := compile_ok_of_perm hperm.symm h
    exact ⟨compilation', h'⟩
  · intro compilation compilation' h h'
    obtain ⟨found, hfound, horder⟩ := compile_ok_of_perm hperm h
    obtain rfl : found = compilation' := Except.ok.inj (hfound.symm.trans h')
    exact ⟨horder, relationships_of_compile_of_perm hperm h h'⟩
  · exact compile_error_of_perm hperm hcyclic
  · exact compile_error_of_perm hperm.symm hcyclic

end

/-- Two signals that nest each other. -/
def signals : List DomainObject := [
  (DomainObject.bare "Home" .literal).addProperty
    (.ofType "distant" (.reference ⟨"Distant", .literal⟩)),
  (DomainObject.bare "Distant" .literal).addProperty
    (.ofType "home" (.reference ⟨"Home", .literal⟩))]

/-- The railway compiles in the opposite order too, and its tables are created in the same order.
Signals that nest each other are reported as the same cycle in either order. -/
theorem compile_of_perm_railway :
    railway.Perm railway.reverse ∧
      (∃ compilation compilation', compile {} railway = .ok compilation ∧
        compile {} railway.reverse = .ok compilation' ∧
        compilation'.order = compilation.order ∧
        compilation'.relationships.find? "Train" = compilation.relationships.find? "Train") ∧
      ∃ error, error.isCyclicReference = true ∧ compile {} signals = .error error ∧
        compile {} signals.reverse = .error error := by
  have hperm : railway.Perm railway.reverse := (List.reverse_perm railway).symm
  obtain ⟨hiff, hsame, -⟩ := compile_of_perm hperm {}
  refine ⟨hperm, ?_, ?_⟩
  · obtain ⟨compilation, h⟩ := exists_compile_railway
    obtain ⟨compilation', h'⟩ := hiff.mp ⟨compilation, h⟩
    obtain ⟨horder, hfind, -, -⟩ := hsame compilation compilation' h h'
    exact ⟨compilation, compilation', h, h', horder, hfind "Train"⟩
  · obtain ⟨-, -, hcycle⟩ := compile_of_perm (List.reverse_perm signals).symm {}
    let cause := Cause.cyclicReference 21 ["Distant", "Home"]
      [("Distant", ["Home"]), ("Home", ["Distant"])]
    have hfails : compile {} signals = .error ((Error.ofCause cause).inContext
        (.message "failed to order relationships for provisioning")) := by
      decide +kernel
    exact ⟨_, rfl, hfails, (hcycle _ rfl).mp hfails⟩

end DomainTables
