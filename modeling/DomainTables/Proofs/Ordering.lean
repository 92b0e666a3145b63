import DomainTables.Proofs.Passes

/-!
# Ordering within a limit of scans

An order of provisioning exists if every name referred to has a relationship, and every rank is
within the limit of scans; it is then the order by rank and name (`provisioningOrder_by_rank`). If a
relationship is missing, the error says which one, whatever the limit is. If ranks are missing or
too great, the error lists their objects.

No rank exceeds the number of relationships, so a limit of that many scans places every object that
has a rank, and only cycles keep objects from having one. From there on the limit makes no
difference but for the number in the report (`cyclicReference_iff_onCycle`).
-/

namespace DomainTables

namespace Relationships

variable {relationships : Relationships}

instance (relationships : Relationships) : Decidable relationships.IsClosed := by
  unfold IsClosed
  infer_instance

/-! ## Missing relationships -/

/-- If there is no table of dependencies, the error names a relationship that is referred to and is
not there. -/
theorem exists_missing_of_dependencies_error {cause : Cause}
    (h : relationships.dependencies = .error cause) :
    ∃ relationship ∈ relationships.toList, ∃ name ∈ relationship.referencedNames,
      name ∉ relationships.keys ∧ cause = .internalConsistency (.missingRelationship name) := by
  simp only [dependencies, suppliedReferences, bind_error_iff, pure_ne_error, and_false,
    exists_false, or_false, mapM_error_iff, get_error_iff] at h
  obtain ⟨_, relationship, _, hlist, -, _, name, _, hnames, -, hmissing, hcause⟩ := h
  refine ⟨relationship, ?_, name, ?_, hmissing, hcause⟩
  · rw [hlist]
    simp
  · rw [hnames]
    simp

/-- A name without a relationship is reported, whatever the limit is. -/
theorem provisioningOrder_of_not_isClosed (hopen : ¬ relationships.IsClosed) (limits : Limits) :
    ∃ relationship ∈ relationships.toList, ∃ name ∈ relationship.referencedNames,
      name ∉ relationships.keys ∧
        relationships.provisioningOrder limits =
          .error (.internalConsistency (.missingRelationship name)) := by
  cases htable : relationships.dependencies with
  | ok table => exact absurd (dependencies_ok_iff.mp htable).1 hopen
  | error cause =>
    obtain ⟨relationship, hr, name, hname, hmissing, rfl⟩ :=
      exists_missing_of_dependencies_error htable
    exact ⟨relationship, hr, name, hname, hmissing, by rw [provisioningOrder, htable]; rfl⟩

/-! ## All objects placed, or not -/

/-- If every name referred to has a relationship, the outcome is what the scans place, or a report
of what they leave. -/
theorem provisioningOrder_of_isClosed (hclosed : relationships.IsClosed) (limits : Limits) :
    relationships.provisioningOrder limits =
      let placed := relationships.table.scans limits.maxProvisioningPasses []
      if placed.length = relationships.table.length then .ok placed
      else .error (.cyclicReference limits.maxProvisioningPasses
        (relationships.table.unplaced placed) relationships.table) := by
  have htable : relationships.dependencies = .ok relationships.table :=
    dependencies_ok_iff.mpr ⟨hclosed, rfl⟩
  rw [provisioningOrder, htable]
  rfl

/-- No name is placed twice. -/
theorem nodup_scans (relationships : Relationships) (passes : Nat) :
    (relationships.table.scans passes []).Nodup := by
  refine (pairwise_scans relationships passes).imp ?_
  rintro name _ h rfl
  exact h.irrefl

/-- As many names are placed as there are if the rank of every object is within the limit. -/
theorem length_scans_eq_iff {passes : Nat} :
    (relationships.table.scans passes []).length = relationships.table.length ↔
      ∀ name ∈ relationships.keys, ∃ rank ≤ passes, relationships.HasRank name rank := by
  -- The placed names are distinct names of relationships, so if none are missing they are all.
  have hlength : relationships.table.length = relationships.keys.length := by
    rw [← (perm_names_ofEntries relationships).length_eq, Dependencies.names, List.length_map]
    rfl
  have hsub : relationships.table.scans passes [] ⊆ relationships.keys := by
    intro name hname
    obtain ⟨_, -, hrank⟩ := mem_scans_iff.mp hname
    exact hrank.mem_keys
  rw [hlength]
  constructor
  · intro heq name hname
    have hperm := ((nodup_scans relationships passes).subperm hsub).perm_of_length_le
      (Nat.le_of_eq heq.symm)
    exact mem_scans_iff.mp (hperm.mem_iff.mpr hname)
  · intro hall
    have hle := (relationships.nodup.subperm fun name hname =>
      mem_scans_iff.mpr (hall name hname)).length_le
    exact Nat.le_antisymm ((nodup_scans relationships passes).subperm hsub).length_le hle

/-- What the scans leave are the objects without a rank within the limit. -/
theorem mem_unplaced_scans_iff {passes : Nat} {name : String} :
    name ∈ relationships.table.unplaced (relationships.table.scans passes []) ↔
      name ∈ relationships.keys ∧ ¬ ∃ rank ≤ passes, relationships.HasRank name rank := by
  rw [Dependencies.unplaced, List.mem_filter, mem_names_table, ← mem_scans_iff]
  simp

/-- What the scans leave is reported in ascending order. -/
theorem pairwise_unplaced (table : Dependencies) (placed : List String)
    (h : table.names.Pairwise (· < ·)) : (table.unplaced placed).Pairwise (· < ·) :=
  h.filter _

/-- If every name referred to has a relationship, there is an order exactly if the rank of every
object is within the limit. -/
theorem exists_provisioningOrder_iff (hclosed : relationships.IsClosed) {limits : Limits} :
    (∃ order, relationships.provisioningOrder limits = .ok order) ↔
      ∀ name ∈ relationships.keys,
        ∃ rank ≤ limits.maxProvisioningPasses, relationships.HasRank name rank := by
  rw [provisioningOrder_of_isClosed hclosed, ← length_scans_eq_iff]
  dsimp only
  split
  · next heq => simp [heq]
  · next hne => simp [hne]

/-- If every name referred to has a relationship, a failure reports the objects without a rank
within the limit, and all dependencies. -/
theorem provisioningOrder_error_of_isClosed (hclosed : relationships.IsClosed) {limits : Limits}
    {cause : Cause} (h : relationships.provisioningOrder limits = .error cause) :
    ∃ unplaced table,
      cause = .cyclicReference limits.maxProvisioningPasses unplaced table ∧
      relationships.IsShownBy table ∧ unplaced.Pairwise (· < ·) ∧
      ∀ name, name ∈ unplaced ↔ name ∈ relationships.keys ∧
        ¬ ∃ rank ≤ limits.maxProvisioningPasses, relationships.HasRank name rank := by
  rw [provisioningOrder_of_isClosed hclosed] at h
  dsimp only at h
  split at h
  · cases h
  · cases h
    have hshown := isShownBy_table relationships
    exact ⟨_, _, rfl, hshown, pairwise_unplaced _ _ hshown.pairwise,
      fun _ => mem_unplaced_scans_iff⟩

/-- An order found is the one by rank and name. -/
theorem perm_and_pairwise_of_provisioningOrder {limits : Limits} {order : List String}
    (h : relationships.provisioningOrder limits = .ok order) :
    order.Perm relationships.keys ∧ order.Pairwise relationships.Precedes := by
  have horder := isOrderedBy_of_provisioningOrder h
  obtain ⟨-, rfl, -⟩ := provisioningOrder_ok_iff.mp h
  refine ⟨?_, pairwise_scans relationships _⟩
  refine (List.perm_ext_iff_of_nodup horder.nodup relationships.nodup).mpr fun name => ?_
  rw [horder.mem_iff]
  exact Keyed.mem_keys_iff.symm

end Relationships

open Relationships

/-- Every object has one rank, or none if a cycle is reached from it. The order of provisioning is
found exactly if every object has a rank within the limit, and is then the order by rank and name.
If an object has none, the error lists the objects that have none, and shows all references. Where a
name referred to has no relationship, the error is about that name, whatever the limit is. -/
theorem provisioningOrder_by_rank (relationships : Relationships) (limits : Limits) :
    (¬ relationships.IsClosed →
      ∃ relationship ∈ relationships.toList, ∃ name ∈ relationship.referencedNames,
        name ∉ relationships.keys ∧
          relationships.provisioningOrder limits =
            .error (.internalConsistency (.missingRelationship name))) ∧
    (relationships.IsClosed →
      (∀ name rank rank', relationships.HasRank name rank → relationships.HasRank name rank' →
        rank = rank') ∧
      (∀ name, (∃ rank, relationships.HasRank name rank) ↔
        name ∈ relationships.keys ∧ ¬ relationships.ReachesCycle name) ∧
      ((∃ order, relationships.provisioningOrder limits = .ok order) ↔
        ∀ name ∈ relationships.keys,
          ∃ rank ≤ limits.maxProvisioningPasses, relationships.HasRank name rank) ∧
      (∀ order, relationships.provisioningOrder limits = .ok order →
        order.Perm relationships.keys ∧ order.Pairwise relationships.Precedes) ∧
      ∀ cause, relationships.provisioningOrder limits = .error cause →
        ∃ unplaced table,
          cause = .cyclicReference limits.maxProvisioningPasses unplaced table ∧
          relationships.IsShownBy table ∧ unplaced.Pairwise (· < ·) ∧
          ∀ name, name ∈ unplaced ↔ name ∈ relationships.keys ∧
            ¬ ∃ rank ≤ limits.maxProvisioningPasses, relationships.HasRank name rank) := by
  refine ⟨fun hopen => provisioningOrder_of_not_isClosed hopen limits, fun hclosed => ?_⟩
  refine ⟨fun _ _ _ h h' => h.unique h', fun _ => exists_hasRank_iff hclosed,
    exists_provisioningOrder_iff hclosed, ?_, ?_⟩
  · exact fun _ => perm_and_pairwise_of_provisioningOrder
  · exact fun _ => provisioningOrder_error_of_isClosed hclosed

/-- A relationship that refers to the given names, each in a column of its own. -/
def referring (name : String) (targets : List String) : Relationship where
  table := name
  domainObject := name
  mappings := targets.map fun target =>
    ⟨none, ⟨target, false, false, false, some ⟨.implicitByUuid, ⟨target, .entity⟩⟩⟩⟩
  unique := ⟨[], []⟩

/-- A train is placed by the scan that places its address, and that one scan after its geocode. -/
def line : Relationships where
  toList := [referring "Train" ["Address"], referring "Address" ["Geocode"], referring "Geocode" []]
  nodup := by decide

/-- The line without the geocode that the address refers to. -/
def severedLine : Relationships :=
  line.erase "Geocode"

/-- The three objects of the line have ranks one and two, and come in that order. Without the
geocode there is no order. -/
theorem provisioningOrder_by_rank_line :
    line.IsClosed ∧ line.provisioningOrder {} = .ok ["Geocode", "Address", "Train"] ∧
      ["Geocode", "Address", "Train"].Pairwise line.Precedes ∧
      ¬ severedLine.IsClosed ∧
      ∃ name, severedLine.provisioningOrder {} =
        .error (.internalConsistency (.missingRelationship name)) := by
  have hclosed : line.IsClosed := by decide +kernel
  have horder : line.provisioningOrder {} = .ok ["Geocode", "Address", "Train"] := by
    decide +kernel
  have hopen : ¬ severedLine.IsClosed := by decide +kernel
  obtain ⟨-, -, -, hsorted, -⟩ := (provisioningOrder_by_rank line {}).2 hclosed
  obtain ⟨_, _, name, _, _, hmissing⟩ :=
    (provisioningOrder_by_rank severedLine {}).1 hopen
  exact ⟨hclosed, horder, (hsorted _ horder).2, hopen, name, hmissing⟩

/-- One scan is not enough for the line. -/
example : line.provisioningOrder ⟨20, 1⟩ = .error (.cyclicReference 1 ["Address", "Train"]
    [("Address", ["Geocode"]), ("Geocode", []), ("Train", ["Address"])]) := by
  decide +kernel

/-! ## Limits that make no difference -/

/-- The cause with another number of passes, if it reports one. -/
def Cause.withPasses (passes : Nat) : Cause → Cause
  | .cyclicReference _ unplaced dependencies => .cyclicReference passes unplaced dependencies
  | cause => cause

namespace Relationships

variable {relationships : Relationships}

/-- As many scans as there are relationships place the objects that have a rank. -/
theorem exists_hasRank_le_iff_of_size_le {passes : Nat} (hsize : relationships.size ≤ passes)
    {name : String} :
    (∃ rank ≤ passes, relationships.HasRank name rank) ↔
      ∃ rank, relationships.HasRank name rank := by
  constructor
  · rintro ⟨rank, -, hrank⟩
    exact ⟨rank, hrank⟩
  · rintro ⟨rank, hrank⟩
    exact ⟨rank, Nat.le_trans hrank.le_size hsize, hrank⟩

/-- As many scans as there are relationships place as much as any greater number of scans. -/
theorem scans_eq_of_size_le {passes passes' : Nat} (hsize : relationships.size ≤ passes)
    (hsize' : relationships.size ≤ passes') :
    relationships.table.scans passes [] = relationships.table.scans passes' [] := by
  refine eq_of_pairwise_of_mem_iff (fun _ _ h h' => (h.trans h').irrefl)
    (pairwise_scans relationships passes) (pairwise_scans relationships passes') fun name => ?_
  rw [mem_scans_iff, mem_scans_iff, exists_hasRank_le_iff_of_size_le hsize,
    exists_hasRank_le_iff_of_size_le hsize']

/-- What as many scans as there are relationships leave are the objects from which a cycle is
reached. -/
theorem not_exists_hasRank_le_iff_of_size_le (hclosed : relationships.IsClosed) {passes : Nat}
    (hsize : relationships.size ≤ passes) {name : String} :
    (name ∈ relationships.keys ∧ ¬ ∃ rank ≤ passes, relationships.HasRank name rank) ↔
      relationships.ReachesCycle name := by
  rw [exists_hasRank_le_iff_of_size_le hsize, exists_hasRank_iff hclosed, not_and_not_right]
  constructor
  · rintro ⟨hkey, hcycle⟩
    exact hcycle hkey
  · intro hcycle
    exact ⟨hcycle.mem_keys, fun _ => hcycle⟩

/-- A cycle is reached from an object if some object is on one. -/
theorem exists_reachesCycle_iff :
    (∃ name, relationships.ReachesCycle name) ↔ ∃ name, relationships.OnCycle name := by
  constructor
  · rintro ⟨_, other, -, hcycle⟩
    exact ⟨other, hcycle⟩
  · rintro ⟨name, hcycle⟩
    exact ⟨name, name, Relation.ReflTransGen.refl, hcycle⟩

/-- With as many scans as there are relationships, there is an order exactly if there is no
cycle. -/
theorem exists_provisioningOrder_iff_of_size_le (hclosed : relationships.IsClosed)
    {limits : Limits} (hsize : relationships.size ≤ limits.maxProvisioningPasses) :
    (∃ order, relationships.provisioningOrder limits = .ok order) ↔
      ¬ ∃ name, relationships.OnCycle name := by
  rw [exists_provisioningOrder_iff hclosed, ← exists_reachesCycle_iff, not_exists]
  refine forall_congr' fun name => ?_
  rw [← not_exists_hasRank_le_iff_of_size_le hclosed hsize, not_and_not_right]

/-- From as many scans on as there are relationships, the outcome differs in the reported number of
scans alone. -/
theorem provisioningOrder_eq_of_size_le (hclosed : relationships.IsClosed)
    {limits limits' : Limits} (hsize : relationships.size ≤ limits.maxProvisioningPasses)
    (hsize' : relationships.size ≤ limits'.maxProvisioningPasses) :
    relationships.provisioningOrder limits' =
      (relationships.provisioningOrder limits).mapError
        (Cause.withPasses limits'.maxProvisioningPasses) := by
  rw [provisioningOrder_of_isClosed hclosed, provisioningOrder_of_isClosed hclosed,
    scans_eq_of_size_le hsize hsize']
  dsimp only
  split <;> rfl

end Relationships

/-- With a limit of at least as many scans as there are relationships, the order fails as a cyclic
reference exactly if there is a cycle, and succeeds otherwise. The objects left are those from which
a cycle is reached, and the outcome does not depend on the limit but for the number reported. -/
theorem cyclicReference_iff_onCycle {relationships : Relationships}
    (hclosed : relationships.IsClosed) :
    (∀ limits : Limits, relationships.size ≤ limits.maxProvisioningPasses →
      ((∃ cause, relationships.provisioningOrder limits = .error cause ∧
          cause.isCyclicReference = true) ↔ ∃ name, relationships.OnCycle name) ∧
      ((∃ order, relationships.provisioningOrder limits = .ok order) ↔
        ¬ ∃ name, relationships.OnCycle name) ∧
      ∀ cause, relationships.provisioningOrder limits = .error cause →
        ∃ unplaced table,
          cause = .cyclicReference limits.maxProvisioningPasses unplaced table ∧
          relationships.IsShownBy table ∧ unplaced.Pairwise (· < ·) ∧
          ∀ name, name ∈ unplaced ↔ relationships.ReachesCycle name) ∧
    ∀ limits limits' : Limits, relationships.size ≤ limits.maxProvisioningPasses →
      relationships.size ≤ limits'.maxProvisioningPasses →
      relationships.provisioningOrder limits' =
        (relationships.provisioningOrder limits).mapError
          (Cause.withPasses limits'.maxProvisioningPasses) := by
  refine ⟨fun limits hsize => ?_, fun _ _ hsize hsize' =>
    provisioningOrder_eq_of_size_le hclosed hsize hsize'⟩
  have hok := exists_provisioningOrder_iff_of_size_le hclosed hsize
  refine ⟨?_, hok, fun cause h => ?_⟩
  · -- An error for lack of a name is ruled out, so failing at all is failing by a cycle.
    rw [← not_iff_not, ← hok]
    cases h : relationships.provisioningOrder limits with
    | ok order => simp
    | error cause =>
      obtain ⟨_, _, rfl, -⟩ := provisioningOrder_error_of_isClosed hclosed h
      simp [Cause.isCyclicReference]
  · obtain ⟨unplaced, table, hcause, hshown, hsorted, hmem⟩ :=
      provisioningOrder_error_of_isClosed hclosed h
    refine ⟨unplaced, table, hcause, hshown, hsorted, fun name => ?_⟩
    rw [hmem, not_exists_hasRank_le_iff_of_size_le hclosed hsize]

/-- A depot and an engine refer to each other, and a yard refers to the depot. -/
def yard : Relationships where
  toList := [referring "Yard" ["Depot"], referring "Engine" ["Depot", "Zone"],
    referring "Depot" ["Engine"], referring "Zone" []]
  nodup := by decide

/-- Four scans leave the objects of the yard from which the cycle is reached, and any greater number
of scans leaves the same. -/
theorem cyclicReference_iff_onCycle_yard :
    yard.IsClosed ∧ yard.size ≤ 4 ∧ (∃ name, yard.OnCycle name) ∧
      (∀ name, name ∈ ["Depot", "Engine", "Yard"] ↔ yard.ReachesCycle name) ∧
      yard.provisioningOrder ⟨20, 2 ^ 64 - 1⟩ =
        (yard.provisioningOrder ⟨20, 4⟩).mapError (Cause.withPasses (2 ^ 64 - 1)) := by
  have hclosed : yard.IsClosed := by decide +kernel
  have hsize : yard.size ≤ 4 := by decide
  -- Four scans are computed. The rest holds for any greater number, which could not be.
  have hfails : yard.provisioningOrder ⟨20, 4⟩ = .error (.cyclicReference 4
      ["Depot", "Engine", "Yard"] [("Depot", ["Engine"]), ("Engine", ["Depot", "Zone"]),
        ("Yard", ["Depot"]), ("Zone", [])]) := by
    decide +kernel
  obtain ⟨hall, hequal⟩ := cyclicReference_iff_onCycle hclosed
  obtain ⟨hcycle, -, hreport⟩ := hall ⟨20, 4⟩ hsize
  obtain ⟨unplaced, table, hcause, -, -, hmem⟩ := hreport _ hfails
  obtain ⟨-, rfl, -⟩ := Cause.cyclicReference.inj hcause
  exact ⟨hclosed, hsize, hcycle.mp ⟨_, hfails, rfl⟩, hmem,
    hequal ⟨20, 4⟩ ⟨20, 2 ^ 64 - 1⟩ hsize (Nat.le_trans hsize (by decide))⟩

end DomainTables
