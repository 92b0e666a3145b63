import DomainTables.Proofs.Dependencies
import DomainTables.Proofs.Keyed
import DomainTables.Proofs.Steps
import DomainTables.Provisioning

/-!
# Every object is provisioned after the objects it refers to

The order of provisioning is the list of placed names, and every scan only adds to it. The invariant
of the placed names is `Placed`: no name is placed twice, only names of the table are placed, and
every placed name stands after the names it refers to. Placing one name keeps it (`Placed.place`),
hence one scan does (`Placed.scan`), and hence all scans do (`Placed.scans`). An order is returned
only if it is as long as the table, so by then every name is placed
(`Relationships.isOrderedBy_of_provisioningOrder`).

The table itself is a permutation of the relationships' names with the names they refer to
(`perm_ofEntries`); it exists exactly if every name referred to has a relationship
(`dependencies_ok_iff`).
-/

namespace DomainTables

/-! ## The placed names -/

namespace Dependencies

/-- What holds of the placed names whenever a table is scanned. -/
structure Placed (table : Dependencies) (placed : List String) : Prop where
  /-- No name is placed twice. -/
  nodup : placed.Nodup
  /-- Only names of the table are placed. -/
  subset : placed ⊆ table.names
  /-- A placed name stands after every name that it refers to. -/
  after : ∀ entry ∈ table, entry.1 ∈ placed → ∀ name ∈ entry.2,
    placed.idxOf name < placed.idxOf entry.1

/-- At first nothing is placed. -/
theorem Placed.nil (table : Dependencies) : Placed table [] where
  nodup := List.nodup_nil
  subset := List.nil_subset _
  after := fun _ _ h => by cases h

/-- An object can be placed if it is not placed and everything it refers to is. -/
theorem isPlaceable_iff {placed : List String} {entry : String × List String} :
    isPlaceable placed entry = true ↔ entry.1 ∉ placed ∧ ∀ name ∈ entry.2, name ∈ placed := by
  simp [isPlaceable]

/-- Placing an object that can be placed keeps the invariant. -/
theorem Placed.place {table : Dependencies} (hnames : table.names.Nodup) {placed : List String}
    (h : Placed table placed) {entry : String × List String} (hentry : entry ∈ table)
    (hplace : isPlaceable placed entry = true) : Placed table (placed ++ [entry.1]) := by
  obtain ⟨hnew, hrefs⟩ := isPlaceable_iff.mp hplace
  refine ⟨?_, ?_, ?_⟩
  · -- The name was not placed before, so it is still there once only.
    rw [← List.concat_eq_append]
    exact h.nodup.concat hnew
  · intro name hname
    rcases List.mem_append.mp hname with hname | hname
    · exact h.subset hname
    · rw [List.mem_singleton.mp hname]
      exact List.mem_map_of_mem hentry
  · intro other hother hmem name hname
    by_cases hold : other.1 ∈ placed
    · -- A name placed before: it and what it refers to keep their positions.
      have hlt := h.after other hother hold name hname
      have hin : name ∈ placed :=
        List.idxOf_lt_length_iff.mp (Nat.lt_trans hlt (List.idxOf_lt_length_of_mem hold))
      rw [List.idxOf_append_of_mem hin, List.idxOf_append_of_mem hold]
      exact hlt
    · -- The new name: it stands at the end, after everything placed before.
      have heq : other.1 = entry.1 := by simpa [hold] using hmem
      have hsame : other = entry := List.inj_on_of_nodup_map hnames hother hentry heq
      have hin : name ∈ placed := hrefs name (hsame ▸ hname)
      rw [List.idxOf_append_of_mem hin, List.idxOf_append_of_notMem hold, heq]
      have hlt := List.idxOf_lt_length_of_mem hin
      omega

/-- Scanning some entries of the table keeps the invariant. -/
theorem Placed.foldl {table : Dependencies} (hnames : table.names.Nodup)
    {entries : List (String × List String)} (hentries : entries ⊆ table) {placed : List String}
    (h : Placed table placed) :
    Placed table (entries.foldl (fun placed entry =>
      if isPlaceable placed entry then placed ++ [entry.1] else placed) placed) := by
  induction entries generalizing placed with
  | nil => exact h
  | cons entry rest ih =>
    obtain ⟨hentry, hrest⟩ := List.cons_subset.mp hentries
    rw [List.foldl_cons]
    split
    · next hplace => exact ih hrest (h.place hnames hentry hplace)
    · exact ih hrest h

/-- One scan keeps the invariant. -/
theorem Placed.scan {table : Dependencies} (hnames : table.names.Nodup) {placed : List String}
    (h : Placed table placed) : Placed table (table.scan placed) :=
  h.foldl hnames (List.Subset.refl table)

/-- All scans keep the invariant. -/
theorem Placed.scans {table : Dependencies} (hnames : table.names.Nodup) {passes : Nat}
    {placed : List String} (h : Placed table placed) :
    Placed table (table.scans passes placed) := by
  -- A scan that adds nothing ends the scans, and any other leaves one pass less.
  induction passes generalizing placed with
  | zero => exact h
  | succ passes ih =>
    rw [Dependencies.scans]
    split
    · exact h
    · exact ih (h.scan hnames)

/-- If as many names are placed as the table has, all of them are. -/
theorem Placed.perm {table : Dependencies} {placed : List String} (h : Placed table placed)
    (hlength : placed.length = table.length) : placed.Perm table.names := by
  have hsub := h.nodup.subperm h.subset
  have hnames : table.names.length = placed.length := by
    rw [names, List.length_map, hlength]
  exact hsub.perm_of_length_le (Nat.le_of_eq hnames)

end Dependencies

/-! ## The order of relationships -/

namespace Relationships

/-- A relationship is supplied for a name exactly if it is the one of that name in the set. -/
theorem get_ok_iff {relationships : Relationships} {name : String} {relationship : Relationship} :
    relationships.get name = .ok relationship ↔
      relationship ∈ relationships.toList ∧ relationship.domainObject = name := by
  rw [← Keyed.find?_eq_some_iff, get]
  cases relationships.find? name <;> simp

/-- The error about a relationship that is not supplied names it. -/
theorem get_error_iff {relationships : Relationships} {name : String} {cause : Cause} :
    relationships.get name = .error cause ↔
      name ∉ relationships.keys ∧ cause = .internalConsistency (.missingRelationship name) := by
  rw [← Keyed.find?_eq_none_iff, get]
  cases relationships.find? name <;> simp [eq_comm]

/-- A relationship is supplied for each key. -/
theorem exists_get_ok_iff {relationships : Relationships} {name : String} :
    (∃ relationship, relationships.get name = .ok relationship) ↔ name ∈ relationships.keys := by
  simp only [get_ok_iff, Keyed.mem_keys_iff]

/-- The same is supplied where the same is found. -/
theorem get_congr {relationships relationships' : Relationships} {name : String}
    (h : relationships'.find? name = relationships.find? name) :
    relationships'.get name = relationships.get name := by
  unfold get
  rw [h]

/-- The names referred to are those in the references of the columns. -/
theorem mem_referencedNames_iff {relationship : Relationship} {name : String} :
    name ∈ relationship.referencedNames ↔
      ∃ mapping ∈ relationship.mappings, ∃ reference,
        mapping.column.reference = some reference ∧ reference.target.name = name := by
  simp only [Relationship.referencedNames, List.mem_filterMap, Option.map_eq_some_iff]

/-- A column with a reference puts its target among the names referred to. -/
theorem mem_referencedNames {relationship : Relationship} {mapping : ColumnMapping}
    (hmapping : mapping ∈ relationship.mappings) {reference : ColumnReference}
    (hreference : mapping.column.reference = some reference) :
    reference.target.name ∈ relationship.referencedNames :=
  mem_referencedNames_iff.mpr ⟨mapping, hmapping, reference, hreference, rfl⟩

/-- The names referred to are collected if all of them have relationships. -/
theorem suppliedReferences_ok_iff {relationships : Relationships} {relationship : Relationship}
    {names : List String} :
    relationships.suppliedReferences relationship = .ok names ↔
      relationship.referencedNames ⊆ relationships.keys ∧
        relationship.referencedNames = names := by
  have hstep : ∀ name found : String,
      (do let _ ← relationships.get name; return name : Except Cause String) = .ok found ↔
        name ∈ relationships.keys ∧ id name = found := by
    intro name found
    simp only [bind_ok_iff, pure_ok_iff, exists_and_right, exists_get_ok_iff, id_eq]
  rw [suppliedReferences, mapM_ok_iff_map hstep, List.map_id]
  rfl

/-- Every name that a relationship refers to has a relationship of its own. -/
def IsClosed (relationships : Relationships) : Prop :=
  ∀ relationship ∈ relationships.toList, relationship.referencedNames ⊆ relationships.keys

/-- Where every name referred to has a relationship, the target of a column has one. -/
theorem IsClosed.mem_keys {relationships : Relationships} (hclosed : relationships.IsClosed)
    {relationship : Relationship} (hr : relationship ∈ relationships.toList)
    {mapping : ColumnMapping} (hmapping : mapping ∈ relationship.mappings)
    {reference : ColumnReference} (hreference : mapping.column.reference = some reference) :
    reference.target.name ∈ relationships.keys :=
  hclosed relationship hr (mem_referencedNames hmapping hreference)

/-- The names of the relationships, each with the names that the relationship refers to. -/
def entries (relationships : Relationships) : List (String × List String) :=
  relationships.toList.map fun relationship =>
    (relationship.domainObject, relationship.referencedNames)

/-- The entries are under the keys of the relationships. -/
theorem map_fst_entries (relationships : Relationships) :
    relationships.entries.map (·.1) = relationships.keys := by
  rw [entries, List.map_map]
  rfl

/-- There is a table of dependencies exactly if every name referred to has a relationship. -/
theorem dependencies_ok_iff {relationships : Relationships} {table : Dependencies} :
    relationships.dependencies = .ok table ↔
      relationships.IsClosed ∧ .ofEntries relationships.entries = table := by
  -- The entry for one relationship is made of its own names, if all of these are supplied.
  have hstep : ∀ (relationship : Relationship) (entry : String × List String),
      (do
        let names ← relationships.suppliedReferences relationship
        return (relationship.domainObject, names) : Except Cause _) = .ok entry ↔
      relationship.referencedNames ⊆ relationships.keys ∧
        (relationship.domainObject, relationship.referencedNames) = entry := by
    intro relationship entry
    simp only [bind_ok_iff, pure_ok_iff, suppliedReferences_ok_iff, and_assoc, exists_and_left,
      exists_eq_left']
  simp only [dependencies, bind_ok_iff, mapM_ok_iff_map hstep, pure_ok_iff, and_assoc,
    exists_and_left, exists_eq_left']
  rfl

/-- Without a table of dependencies, the error is about a name without a relationship. -/
theorem dependencies_error {relationships : Relationships} {cause : Cause}
    (h : relationships.dependencies = .error cause) :
    ¬ relationships.IsClosed ∧
      ∃ name, cause = .internalConsistency (.missingRelationship name) := by
  constructor
  · intro hclosed
    rw [dependencies_ok_iff.mpr ⟨hclosed, rfl⟩] at h
    cases h
  · simp only [dependencies, suppliedReferences, bind_error_iff, pure_ne_error, and_false,
      exists_false, or_false, mapM_error_iff, get_error_iff] at h
    obtain ⟨_, _, _, _, _, _, name, _, _, _, _, hcause⟩ := h
    exact ⟨name, hcause⟩

/-- The order is the list of placed names, if every name is placed within the limit. -/
theorem provisioningOrder_ok_iff {relationships : Relationships} {limits : Limits}
    {order : List String} :
    relationships.provisioningOrder limits = .ok order ↔
      relationships.IsClosed ∧
        (Dependencies.ofEntries relationships.entries).scans limits.maxProvisioningPasses [] =
          order ∧
        order.length = (Dependencies.ofEntries relationships.entries).length := by
  simp only [provisioningOrder, bind_ok_iff, dependencies_ok_iff]
  constructor
  · rintro ⟨_, ⟨hclosed, rfl⟩, h⟩
    split at h
    · next hlength =>
      cases h
      exact ⟨hclosed, rfl, hlength⟩
    · cases h
  · rintro ⟨hclosed, rfl, hlength⟩
    exact ⟨_, ⟨hclosed, rfl⟩, if_pos hlength⟩

/-- Where there is no order, a name has no relationship, or not every name is placed. -/
theorem provisioningOrder_error {relationships : Relationships} {limits : Limits} {cause : Cause}
    (h : relationships.provisioningOrder limits = .error cause) :
    (¬ relationships.IsClosed ∧
        ∃ name, cause = .internalConsistency (.missingRelationship name)) ∨
      (relationships.IsClosed ∧
        ∃ unplaced, cause = .cyclicReference limits.maxProvisioningPasses unplaced
          (.ofEntries relationships.entries)) := by
  rw [provisioningOrder, bind_error_iff] at h
  -- Without a table a name is missing; with one, the scans stop short of all names.
  rcases h with h | ⟨table, htable, h⟩
  · exact Or.inl (dependencies_error h)
  · obtain ⟨hclosed, rfl⟩ := dependencies_ok_iff.mp htable
    dsimp only at h
    split at h
    · cases h
    · cases h
      exact Or.inr ⟨hclosed, _, rfl⟩

/-- The table of dependencies has the names of the relationships. -/
theorem perm_names_ofEntries (relationships : Relationships) :
    (Dependencies.ofEntries relationships.entries).names.Perm relationships.keys := by
  have hnodup : (relationships.entries.map (·.1)).Nodup := by
    rw [map_fst_entries]
    exact relationships.nodup
  have hperm := (Dependencies.perm_ofEntries hnodup).map (·.1)
  rw [List.map_map] at hperm
  rwa [← map_fst_entries]

/-- The table of dependencies has an entry for each relationship, with the names it refers to. -/
theorem mem_ofEntries {relationships : Relationships} {relationship : Relationship}
    (h : relationship ∈ relationships.toList) :
    (relationship.domainObject, sortedNames relationship.referencedNames) ∈
      Dependencies.ofEntries relationships.entries := by
  have hnodup : (relationships.entries.map (·.1)).Nodup := by
    rw [map_fst_entries]
    exact relationships.nodup
  refine (Dependencies.perm_ofEntries hnodup).mem_iff.mpr (List.mem_map.mpr ?_)
  exact ⟨_, List.mem_map.mpr ⟨relationship, h, rfl⟩, rfl⟩

/-- An order of the relationships' names in which tables can be created one after another. -/
structure IsOrderedBy (relationships : Relationships) (order : List String) : Prop where
  /-- No name occurs twice. -/
  nodup : order.Nodup
  /-- The names are those of the relationships. -/
  mem_iff : ∀ name, name ∈ order ↔
    ∃ relationship ∈ relationships.toList, relationship.domainObject = name
  /-- Every name that a relationship refers to stands before the relationship's own. -/
  before : ∀ relationship ∈ relationships.toList, ∀ name ∈ relationship.referencedNames,
    order.idxOf name < order.idxOf relationship.domainObject

/-- In an order, the target of a column stands before the relationship of the column. -/
theorem IsOrderedBy.idxOf_lt {relationships : Relationships} {order : List String}
    (horder : relationships.IsOrderedBy order) {relationship : Relationship}
    (hr : relationship ∈ relationships.toList) {mapping : ColumnMapping}
    (hmapping : mapping ∈ relationship.mappings) {reference : ColumnReference}
    (hreference : mapping.column.reference = some reference) :
    order.idxOf reference.target.name < order.idxOf relationship.domainObject :=
  horder.before relationship hr _ (mem_referencedNames hmapping hreference)

/-- An order that is found is one in which tables can be created one after another. -/
theorem isOrderedBy_of_provisioningOrder {relationships : Relationships} {limits : Limits}
    {order : List String} (h : relationships.provisioningOrder limits = .ok order) :
    relationships.IsOrderedBy order := by
  obtain ⟨-, rfl, hlength⟩ := provisioningOrder_ok_iff.mp h
  have hperm := perm_names_ofEntries relationships
  have hnames := hperm.nodup_iff.mpr relationships.nodup
  have hplaced : Dependencies.Placed _ (Dependencies.scans _ limits.maxProvisioningPasses []) :=
    (Dependencies.Placed.nil _).scans hnames
  -- As many names are placed as the table has, so every relationship is placed.
  have hall := (hplaced.perm hlength).trans hperm
  refine ⟨hplaced.nodup, fun name => ?_, fun relationship hr name hname => ?_⟩
  · rw [hall.mem_iff, Keyed.mem_keys_iff]
  · refine hplaced.after _ (mem_ofEntries hr) ?_ name (mem_sortedNames.mpr hname)
    exact hall.mem_iff.mpr (Keyed.key_mem_keys hr)

end Relationships

end DomainTables
