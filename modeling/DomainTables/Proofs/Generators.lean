import DomainTables.Proofs.Nesting

/-!
# What generators depend on, and when they fail

Reading a column depends on no more than the names that it reaches, and fails exactly if one of them
has no relationship. This holds of every set of relationships, also of one from which some are
missing, as long as the column does not lead into a cycle of nested objects (`NestsWithoutCycle`).
Then as many levels as there are relationships are enough, in this set and in every other in which
the column reaches the same (`selectAt_congr`). Writing and binding look up the name that the column
refers to, at most (`generators_by_reach`).
-/

namespace DomainTables.Sql

/-- Reading the column never enters an object that is nested in itself. -/
def NestsWithoutCycle (relationships : Relationships) (mapping : ColumnMapping) : Prop :=
  ∀ path, NestingPath relationships mapping path → path.Nodup

/-- The same is generated for the column among either relationships, be it a text or an error. -/
structure GeneratedAlike (relationships relationships' : Relationships) (mapping : ColumnMapping) :
    Prop where
  /-- The column is read alike from every table. -/
  select : ∀ table, select relationships' table mapping = select relationships table mapping
  /-- The column is written alike. -/
  input : input relationships' mapping = input relationships mapping
  /-- The column is bound alike in client code. -/
  argument : ∀ owner context, Client.argument relationships' owner mapping context =
    Client.argument relationships owner mapping context

section

variable {relationships relationships' : Relationships} {mapping : ColumnMapping}

/-- Without a cycle, no path is longer than there are relationships. -/
theorem NestsWithoutCycle.length_le_size (hacyclic : NestsWithoutCycle relationships mapping) :
    ∀ path, NestingPath relationships mapping path → path.length ≤ relationships.size :=
  fun path hpath => ((hacyclic path hpath).subperm hpath.subset).length_le

/-- Taking relationships away makes no cycle. -/
theorem NestsWithoutCycle.of_subset (hacyclic : NestsWithoutCycle relationships mapping)
    (h : relationships'.toList ⊆ relationships.toList) :
    NestsWithoutCycle relationships' mapping := by
  refine fun path hpath => hacyclic path (hpath.of_get fun name target _ htarget => ?_)
  obtain ⟨ht, hname⟩ := Relationships.get_ok_iff.mp htarget
  exact Relationships.get_ok_iff.mpr ⟨h ht, hname⟩

/-- A column can be read exactly if every name that it reaches has a relationship. -/
theorem exists_select_iff (hacyclic : NestsWithoutCycle relationships mapping) (table : String) :
    (∃ text, select relationships table mapping = .ok text) ↔
      ∀ name, Reaches relationships mapping name → name ∈ relationships.keys := by
  constructor
  · rintro ⟨text, h⟩
    obtain ⟨reading, hreading, -⟩ := map_ok_iff.mp h
    exact (exists_read_iff.mp ⟨reading, hreading⟩).1
  · intro h
    obtain ⟨reading, hreading⟩ := exists_read_iff.mpr ⟨h, hacyclic.length_le_size⟩
    exact ⟨_, map_ok_iff.mpr ⟨reading, hreading, rfl⟩⟩

section

variable (h : ∀ name, Reaches relationships mapping name →
  relationships'.get name = relationships.get name)

include h

/-- A column is read alike among relationships in which the names that it reaches lead to the same,
however many others there are. -/
theorem selectAt_congr (hacyclic : NestsWithoutCycle relationships mapping) (depth : Nat)
    (table : String) :
    selectAt relationships' depth table mapping = selectAt relationships depth table mapping := by
  have hacyclic' : NestsWithoutCycle relationships' mapping := fun path hpath =>
    hacyclic path (hpath.of_get fun name _ hname hget => (h name hname).symm.trans hget)
  -- Either set is read with the levels of the greater one.
  have hread : read relationships' relationships'.size depth table mapping =
      read relationships relationships.size depth table mapping := by
    calc read relationships' relationships'.size depth table mapping
      _ = read relationships' (max relationships.size relationships'.size) depth table mapping :=
        (read_eq_of_le hacyclic'.length_le_size (Nat.le_max_right _ _)).symm
      _ = read relationships (max relationships.size relationships'.size) depth table mapping :=
        read_congr h _ depth table
      _ = read relationships relationships.size depth table mapping :=
        read_eq_of_le hacyclic.length_le_size (Nat.le_max_left _ _)
  rw [selectAt, selectAt, hread]

/-- The same is generated among relationships in which the names that a column reaches lead to the
same. -/
theorem generatedAlike_of_congr (hacyclic : NestsWithoutCycle relationships mapping) :
    GeneratedAlike relationships relationships' mapping :=
  have hget := fun reference (hreference : mapping.column.reference = some reference) =>
    h reference.target.name (.target hreference)
  ⟨selectAt_congr h hacyclic 0, input_congr hget, Client.argument_congr hget⟩

end

/-- What a column does not reach can be added, replaced and taken away. -/
theorem generatedAlike_of_not_reaches (hacyclic : NestsWithoutCycle relationships mapping)
    {relationship : Relationship}
    (h : ¬ Reaches relationships mapping relationship.domainObject) :
    GeneratedAlike relationships (relationships.insert relationship) mapping ∧
      GeneratedAlike relationships (relationships.erase relationship.domainObject) mapping := by
  have hne : ∀ name, Reaches relationships mapping name → name ≠ relationship.domainObject := by
    rintro name hname rfl
    exact h hname
  constructor
  · exact generatedAlike_of_congr (fun name hname =>
      Relationships.get_congr (Keyed.find?_insert_of_ne (hne name hname))) hacyclic
  · exact generatedAlike_of_congr (fun name hname =>
      Relationships.get_congr (Keyed.find?_erase_of_ne (hne name hname))) hacyclic

end

/-- Generators fail for missing relationships only, and for those that they look up. A column that
leads into no cycle of nested objects can be read exactly if every name that it reaches has a
relationship, and the error is about one that has none. What is found under these names decides what
is generated for it, so any other relationship can be added, replaced or taken away. A column cannot
be written exactly if it refers by uuid, and cannot be bound exactly if it refers directly, to an
object without a relationship. -/
theorem generators_by_reach (relationships : Relationships) (mapping : ColumnMapping) :
    (NestsWithoutCycle relationships mapping →
      (∀ table, (∃ text, select relationships table mapping = .ok text) ↔
        ∀ name, Reaches relationships mapping name → name ∈ relationships.keys) ∧
      (∀ table cause, select relationships table mapping = .error cause →
        ∃ name, Reaches relationships mapping name ∧ name ∉ relationships.keys ∧
          cause = .internalConsistency (.missingRelationship name)) ∧
      (∀ relationships', (∀ name, Reaches relationships mapping name →
          relationships'.get name = relationships.get name) →
        GeneratedAlike relationships relationships' mapping) ∧
      ∀ relationship, ¬ Reaches relationships mapping relationship.domainObject →
        GeneratedAlike relationships (relationships.insert relationship) mapping ∧
          GeneratedAlike relationships (relationships.erase relationship.domainObject) mapping) ∧
    (∀ cause, input relationships mapping = .error cause ↔
      ∃ reference, mapping.column.reference = some reference ∧
        reference.method.isImplicit = true ∧ reference.target.name ∉ relationships.keys ∧
        cause = .internalConsistency (.missingRelationship reference.target.name)) ∧
    ∀ owner context cause, Client.argument relationships owner mapping context = .error cause ↔
      ∃ reference, mapping.column.reference = some reference ∧
        reference.method.isDirect = true ∧ reference.target.name ∉ relationships.keys ∧
        cause = .internalConsistency (.missingRelationship reference.target.name) := by
  refine ⟨fun hacyclic => ⟨exists_select_iff hacyclic, fun table cause h => ?_,
    fun relationships' h => generatedAlike_of_congr h hacyclic,
    fun relationship => generatedAlike_of_not_reaches hacyclic⟩,
    fun _ => input_error_iff, fun _ _ _ => Client.argument_error_iff⟩
  exact read_error hacyclic.length_le_size (map_error_iff.mp h)

/-- On the railway, the relationship of stations has a column for the address. The column nests an
address, which has a geocode in turn, and reaches these two names, but not that of the train. -/
theorem exists_address_of_railway :
    ∃ compilation station address target, compile {} railway = .ok compilation ∧
      station ∈ compilation.relationships.toList ∧ address ∈ station.mappings ∧
      address.domainName = "address" ∧
      address.directReference?.map (·.target.name) = some "Address" ∧
      compilation.relationships.get "Address" = .ok target ∧
      (∃ inner ∈ target.mappings, inner.property.isSome = true ∧
        inner.column.reference.map (·.target.name) = some "Geocode") ∧
      NestsWithoutCycle compilation.relationships address ∧
      (∀ name, Reaches compilation.relationships address name →
        name ∈ compilation.relationships.keys) ∧
      ¬ Reaches compilation.relationships address "Train" := by
  -- What can be computed is computed at once. The three facts on paths follow from the order, in
  -- which a train comes after the stations.
  have hcomputed : ∃ compilation, compile {} railway = .ok compilation ∧
      compilation.order.idxOf "Station" < compilation.order.idxOf "Train" ∧
      ∃ station ∈ compilation.relationships.toList, station.domainObject = "Station" ∧
        ∃ address ∈ station.mappings, address.domainName = "address" ∧
          address.directReference?.map (·.target.name) = some "Address" ∧
          ∃ target ∈ compilation.relationships.toList, target.domainObject = "Address" ∧
            ∃ inner ∈ target.mappings, inner.property.isSome = true ∧
              inner.column.reference.map (·.target.name) = some "Geocode" :=
    exists_ok_of_any (by decide +kernel)
  obtain ⟨compilation, h, hlt, station, hstation, hname, address, haddress, hproperty, hdirect,
    target, ht, htarget, hinner⟩ := hcomputed
  obtain ⟨-, -, -, hcompiled⟩ := compile_ok_iff.mp h
  have hclosed := (Relationships.provisioningOrder_ok_iff.mp hcompiled).1
  have horder := Relationships.isOrderedBy_of_provisioningOrder hcompiled
  refine ⟨compilation, station, address, target, h, hstation, haddress, hproperty, hdirect,
    Relationships.get_ok_iff.mpr ⟨ht, htarget⟩, hinner, fun path hpath => ?_,
    fun name hreaches => ?_, fun hreaches => ?_⟩
  · exact (hpath.nodup_and_length_lt horder hstation haddress).1.of_cons
  · exact hreaches.mem_keys hclosed hstation haddress
  · exact Nat.lt_asymm hlt (hname ▸ hreaches.idxOf_lt horder hstation haddress)

/-- On the railway, reading the address of a station reaches its geocode, two objects further in.
Without the train the same expression is generated, and without the geocode there is none. -/
theorem generators_by_reach_railway :
    ∃ compilation address, compile {} railway = .ok compilation ∧
      (∃ station ∈ compilation.relationships.toList, address ∈ station.mappings) ∧
      Reaches compilation.relationships address "Geocode" ∧
      NestsWithoutCycle compilation.relationships address ∧
      (∃ text, select compilation.relationships "station" address = .ok text ∧
        select (compilation.relationships.erase "Train") "station" address = .ok text) ∧
      NestsWithoutCycle (compilation.relationships.erase "Geocode") address ∧
      ∃ name, select (compilation.relationships.erase "Geocode") "station" address =
        .error (.internalConsistency (.missingRelationship name)) := by
  obtain ⟨compilation, station, address, target, h, hstation, haddress, -, hdirect, hget,
    ⟨inner, hinner, hstores, hgeocode⟩, hacyclic, hkeys, htrain⟩ := exists_address_of_railway
  obtain ⟨direct, hdirect, hnamed⟩ := Option.map_eq_some_iff.mp hdirect
  obtain ⟨reference, hreference, hgeocode⟩ := Option.map_eq_some_iff.mp hgeocode
  have hreaches : ∀ {relationships : Relationships},
      relationships.get "Address" = .ok target → Reaches relationships address "Geocode" :=
    fun hget => .nested ⟨direct, hdirect, hnamed ▸ hget⟩ hinner hstores
      (hgeocode ▸ .target hreference)
  -- The geocode is still reached when it is not there, since the address is.
  have hsevered : Relationships.get (compilation.relationships.erase "Geocode") "Address" =
      .ok target :=
    (Relationships.get_congr (Keyed.find?_erase_of_ne (by decide))).trans hget
  have hacyclic' : NestsWithoutCycle (compilation.relationships.erase "Geocode") address :=
    hacyclic.of_subset (List.filter_subset_self _)
  obtain ⟨hok, -, -, hframe⟩ := (generators_by_reach compilation.relationships address).1 hacyclic
  obtain ⟨hpresent, herror, -⟩ :=
    (generators_by_reach (compilation.relationships.erase "Geocode") address).1 hacyclic'
  obtain ⟨text, htext⟩ := (hok "station").mpr hkeys
  have hwithout := (hframe { station with domainObject := "Train" } htrain).2.select "station"
  refine ⟨compilation, address, h, ⟨station, hstation, haddress⟩, hreaches hget, hacyclic,
    ⟨text, htext, hwithout.trans htext⟩, hacyclic', ?_⟩
  cases hselect : select (compilation.relationships.erase "Geocode") "station" address with
  | ok text =>
    have hgeocode := (hpresent "station").mp ⟨text, hselect⟩ "Geocode" (hreaches hsevered)
    exact (Keyed.notMem_keys_erase _ _ hgeocode).elim
  | error cause =>
    obtain ⟨name, -, -, rfl⟩ := herror "station" cause hselect
    exact ⟨name, rfl⟩

end DomainTables.Sql
