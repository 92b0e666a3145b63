import Mathlib.Data.Fintype.Card
import Mathlib.Data.List.Nodup
import Mathlib.Data.Set.Finite.List
import Mathlib.Data.String.Basic
import Mathlib.Logic.Relation
import DomainTables.Proofs.Provisioning

/-!
# The scan that places an object

References make the relationships of a set a graph (`Relationships.RefersTo`). The rank of an object
is the number of the scan that places it: an object is placed as soon as everything it refers to is,
by the same scan as a name that comes before its own, and by the next scan after any other name
(`Relationships.HasRank`). The definition is by recursion along the references, so an object from
which a cycle of references is reached has no rank; every other object has one
(`Relationships.exists_hasRank_iff`), and no object has two (`Relationships.HasRank.unique`).

Along a reference the rank goes down, or it stays and the name goes down
(`Relationships.HasRank.precedes`), which is why a rank excludes cycles. Every number up to a rank
is itself the rank of an object, so no rank is greater than the number of relationships
(`Relationships.HasRank.le_size`).
-/

namespace DomainTables

/-- A maximum that starts from one is at most a bound if the bound is positive and no element is
greater. -/
theorem foldr_max_one_le_iff {numbers : List Nat} {bound : Nat} :
    numbers.foldr max 1 ≤ bound ↔ 1 ≤ bound ∧ ∀ number ∈ numbers, number ≤ bound := by
  induction numbers with
  | nil => simp
  | cons number rest ih =>
    rw [List.foldr_cons, Nat.max_le, ih, List.forall_mem_cons]
    exact and_left_comm

/-- A maximum that starts from one is one or an element. -/
theorem foldr_max_one_mem (numbers : List Nat) :
    numbers.foldr max 1 = 1 ∨ numbers.foldr max 1 ∈ numbers := by
  induction numbers with
  | nil => exact Or.inl rfl
  | cons number rest ih =>
    rw [List.foldr_cons]
    rcases Nat.le_total number (rest.foldr max 1) with hle | hle
    · rw [Nat.max_eq_right hle]
      exact ih.imp id (List.mem_cons_of_mem _)
    · rw [Nat.max_eq_left hle]
      exact Or.inr List.mem_cons_self

namespace Relationships

variable {relationships : Relationships}

/-! ## References as a graph -/

/-- The relationship of an object refers to the object of a name. -/
def RefersTo (relationships : Relationships) (owner name : String) : Prop :=
  ∃ relationship ∈ relationships.toList,
    relationship.domainObject = owner ∧ name ∈ relationship.referencedNames

/-- References lead from an object back to itself. -/
def OnCycle (relationships : Relationships) (name : String) : Prop :=
  Relation.TransGen relationships.RefersTo name name

/-- References lead from an object to one that is on a cycle, which may be the object itself. -/
def ReachesCycle (relationships : Relationships) (name : String) : Prop :=
  ∃ other, Relation.ReflTransGen relationships.RefersTo name other ∧ relationships.OnCycle other

/-- What refers to a name has a relationship. -/
theorem RefersTo.mem_keys {owner name : String} (h : relationships.RefersTo owner name) :
    owner ∈ relationships.keys := by
  obtain ⟨relationship, hr, rfl, -⟩ := h
  exact Keyed.key_mem_keys hr

/-- A cycle is reached from what refers to a name from which it is reached. -/
theorem ReachesCycle.of_refersTo {owner name : String} (h : relationships.RefersTo owner name)
    (hname : relationships.ReachesCycle name) : relationships.ReachesCycle owner := by
  obtain ⟨other, hpath, hcycle⟩ := hname
  exact ⟨other, Relation.ReflTransGen.head h hpath, hcycle⟩

/-- An object from which a cycle is reached has a relationship. -/
theorem ReachesCycle.mem_keys {name : String} (h : relationships.ReachesCycle name) :
    name ∈ relationships.keys := by
  obtain ⟨other, hpath, hcycle⟩ := h
  rcases hpath.cases_head with rfl | ⟨_, hrefers, -⟩
  · obtain ⟨_, hrefers, -⟩ := Relation.TransGen.head'_iff.mp hcycle
    exact hrefers.mem_keys
  · exact hrefers.mem_keys

/-! ## Ranks -/

/-- The first scan that a reference to `name` allows to place `owner`, if `name` is placed by the
scan `rank`. A scan goes through the names in ascending order. -/
def allowedFrom (owner name : String) (rank : Nat) : Nat :=
  rank + if name < owner then 0 else 1

/-- The number of the scan that places an object: the first one that all of its references allow. -/
inductive HasRank (relationships : Relationships) : String → Nat → Prop where
  /-- The names that a relationship refers to have ranks, and give its own. -/
  | mk {relationship : Relationship} (rank : String → Nat) :
      relationship ∈ relationships.toList →
      (∀ name ∈ relationship.referencedNames, HasRank relationships name (rank name)) →
      HasRank relationships relationship.domainObject
        ((relationship.referencedNames.map fun name =>
          allowedFrom relationship.domainObject name (rank name)).foldr max 1)

/-- The rank of a relationship's object comes from the names that the relationship refers to. -/
theorem hasRank_iff {relationship : Relationship} (hr : relationship ∈ relationships.toList)
    {number : Nat} :
    relationships.HasRank relationship.domainObject number ↔
      ∃ rank : String → Nat,
        (∀ name ∈ relationship.referencedNames, relationships.HasRank name (rank name)) ∧
        (relationship.referencedNames.map fun name =>
          allowedFrom relationship.domainObject name (rank name)).foldr max 1 = number := by
  constructor
  · intro h
    generalize howner : relationship.domainObject = owner at h
    obtain ⟨rank, hother, hranks⟩ := h
    obtain rfl := Keyed.eq_of_key_eq hr hother howner
    exact ⟨rank, hranks, rfl⟩
  · rintro ⟨rank, hranks, rfl⟩
    exact .mk rank hr hranks

/-- What has a rank has a relationship. -/
theorem HasRank.mem_keys {name : String} {number : Nat} (h : relationships.HasRank name number) :
    name ∈ relationships.keys := by
  cases h with
  | mk rank hr hranks => exact Keyed.key_mem_keys hr

/-- Ranks count from one. -/
theorem HasRank.one_le {name : String} {number : Nat} (h : relationships.HasRank name number) :
    1 ≤ number := by
  cases h with
  | mk rank hr hranks => exact (foldr_max_one_le_iff.mp (Nat.le_refl _)).1

/-- No object has two ranks. -/
theorem HasRank.unique {name : String} {number number' : Nat}
    (h : relationships.HasRank name number) (h' : relationships.HasRank name number') :
    number = number' := by
  induction h generalizing number' with
  | @mk relationship rank hr hranks ih =>
    obtain ⟨rank', hranks', rfl⟩ := (hasRank_iff hr).mp h'
    -- The ranks referred to agree by induction, and the rank is made of these.
    have hmap : (relationship.referencedNames.map fun name =>
          allowedFrom relationship.domainObject name (rank name)) =
        relationship.referencedNames.map fun name =>
          allowedFrom relationship.domainObject name (rank' name) :=
      List.map_congr_left fun name hname =>
        congrArg (allowedFrom _ name) (ih name hname (hranks' name hname))
    rw [hmap]

/-- An object has a rank up to a bound if all names that it refers to have ranks that allow it to be
placed by then. -/
theorem exists_hasRank_le_iff {relationship : Relationship}
    (hr : relationship ∈ relationships.toList) {bound : Nat} :
    (∃ number ≤ bound, relationships.HasRank relationship.domainObject number) ↔
      1 ≤ bound ∧ ∀ name ∈ relationship.referencedNames,
        ∃ rank, relationships.HasRank name rank ∧
          allowedFrom relationship.domainObject name rank ≤ bound := by
  constructor
  · rintro ⟨number, hle, h⟩
    obtain ⟨rank, hranks, rfl⟩ := (hasRank_iff hr).mp h
    obtain ⟨hone, hall⟩ := foldr_max_one_le_iff.mp hle
    exact ⟨hone, fun name hname =>
      ⟨rank name, hranks name hname, hall _ (List.mem_map.mpr ⟨name, hname, rfl⟩)⟩⟩
  · rintro ⟨hone, hall⟩
    -- A rank is chosen for each name, which together make the rank of what refers to them.
    choose! rank hranks hle using hall
    refine ⟨_, ?_, .mk rank hr hranks⟩
    refine foldr_max_one_le_iff.mpr ⟨hone, fun number hnumber => ?_⟩
    obtain ⟨name, hname, rfl⟩ := List.mem_map.mp hnumber
    exact hle name hname

/-! ## Ranks and cycles -/

/-- The object of a lower rank comes first, and of two with the same rank the one with the lower
name. -/
def Precedes (relationships : Relationships) (name other : String) : Prop :=
  ∃ rank rank', relationships.HasRank name rank ∧ relationships.HasRank other rank' ∧
    (rank < rank' ∨ rank = rank' ∧ name < other)

/-- No object precedes itself. -/
theorem Precedes.irrefl {name : String} : ¬ relationships.Precedes name name := by
  rintro ⟨rank, rank', h, h', hlt | ⟨-, hlt⟩⟩
  · rw [h.unique h'] at hlt
    exact Nat.lt_irrefl _ hlt
  · exact String.lt_irrefl _ hlt

/-- What precedes an object precedes the objects that this one precedes. -/
theorem Precedes.trans {first second third : String} (h : relationships.Precedes first second)
    (h' : relationships.Precedes second third) : relationships.Precedes first third := by
  obtain ⟨rank₁, rank₂, h₁, h₂, hlt⟩ := h
  obtain ⟨rank₂', rank₃, h₂', h₃, hlt'⟩ := h'
  -- An object has one rank, so the two comparisons meet.
  rw [h₂'.unique h₂] at hlt'
  refine ⟨rank₁, rank₃, h₁, h₃, ?_⟩
  rcases hlt with hlt | ⟨rfl, hlt⟩
  · rcases hlt' with hlt' | ⟨rfl, -⟩
    · exact Or.inl (Nat.lt_trans hlt hlt')
    · exact Or.inl hlt
  · rcases hlt' with hlt' | ⟨rfl, hlt'⟩
    · exact Or.inl hlt'
    · exact Or.inr ⟨rfl, String.lt_trans hlt hlt'⟩

/-- What an object with a rank refers to precedes it. -/
theorem HasRank.precedes {owner name : String} {number : Nat}
    (h : relationships.HasRank owner number) (hrefers : relationships.RefersTo owner name) :
    relationships.Precedes name owner := by
  obtain ⟨relationship, hr, rfl, hname⟩ := hrefers
  obtain ⟨-, hall⟩ := (exists_hasRank_le_iff hr).mp ⟨number, Nat.le_refl _, h⟩
  obtain ⟨rank, hrank, hle⟩ := hall name hname
  refine ⟨rank, number, hrank, h, ?_⟩
  unfold allowedFrom at hle
  split at hle
  · next hlt => exact (Nat.lt_or_eq_of_le hle).imp id fun heq => ⟨heq, hlt⟩
  · exact Or.inl hle

/-- Whatever is reached from an object with a rank precedes it. -/
theorem HasRank.precedes_of_transGen {owner name : String} {number : Nat}
    (h : relationships.HasRank owner number)
    (hpath : Relation.TransGen relationships.RefersTo owner name) :
    relationships.Precedes name owner := by
  induction hpath with
  | single hrefers => exact h.precedes hrefers
  | tail _ hrefers ih =>
    have ⟨_, _, hlast, _⟩ := ih
    exact (hlast.precedes hrefers).trans ih

/-- No cycle is reached from an object with a rank. -/
theorem HasRank.not_reachesCycle {name : String} {number : Nat}
    (h : relationships.HasRank name number) : ¬ relationships.ReachesCycle name := by
  rintro ⟨other, hpath, hcycle⟩
  rcases Relation.reflTransGen_iff_eq_or_transGen.mp hpath with rfl | hpath
  · exact Precedes.irrefl (h.precedes_of_transGen hcycle)
  · obtain ⟨rank, _, hother, -, -⟩ := h.precedes_of_transGen hpath
    exact Precedes.irrefl (hother.precedes_of_transGen hcycle)

/-- The objects from which no cycle of references is reached. -/
abbrev CycleFree (relationships : Relationships) : Type :=
  {name // name ∈ relationships.keys ∧ ¬ relationships.ReachesCycle name}

/-- From the objects from which no cycle is reached, references cannot be followed forever. -/
theorem wellFounded_refersTo (relationships : Relationships) :
    WellFounded fun name owner : relationships.CycleFree =>
      relationships.RefersTo owner.1 name.1 := by
  -- There are finitely many such objects, and no path leads from one of them back to it.
  let path := fun name owner : relationships.CycleFree =>
    Relation.TransGen relationships.RefersTo owner.1 name.1
  have hfinite : Finite relationships.CycleFree :=
    ((List.finite_toSet relationships.keys).subset fun _ h => h.1).to_subtype
  have htrans : IsTrans _ path := ⟨fun _ _ _ h h' => h'.trans h⟩
  have hirrefl : Std.Irrefl path :=
    ⟨fun name h => name.2.2 ⟨name.1, Relation.ReflTransGen.refl, h⟩⟩
  exact Subrelation.wf Relation.TransGen.single (Finite.wellFounded_of_trans_of_irrefl path)

/-- If every name referred to has a relationship, an object from which no cycle is reached has a
rank. -/
theorem exists_hasRank_of_cycleFree (hclosed : relationships.IsClosed)
    (object : relationships.CycleFree) : ∃ number, relationships.HasRank object.1 number := by
  -- The induction follows the references, and no cycle is reached from what they lead to.
  induction object using (wellFounded_refersTo relationships).induction with
  | _ owner ih =>
    obtain ⟨relationship, hr, howner⟩ := Keyed.mem_keys_iff.mp owner.2.1
    have hall : ∀ name ∈ relationship.referencedNames,
        ∃ rank, relationships.HasRank name rank := by
      intro name hname
      have hrefers : relationships.RefersTo owner.1 name := ⟨relationship, hr, howner, hname⟩
      have hfree : ¬ relationships.ReachesCycle name := fun h => owner.2.2 (h.of_refersTo hrefers)
      exact ih ⟨name, hclosed relationship hr hname, hfree⟩ hrefers
    choose! rank hranks using hall
    rw [← howner]
    exact ⟨_, .mk rank hr hranks⟩

/-- If every name referred to has a relationship, the objects that have ranks are those from which
no cycle is reached. -/
theorem exists_hasRank_iff (hclosed : relationships.IsClosed) {name : String} :
    (∃ number, relationships.HasRank name number) ↔
      name ∈ relationships.keys ∧ ¬ relationships.ReachesCycle name := by
  constructor
  · rintro ⟨number, h⟩
    exact ⟨h.mem_keys, h.not_reachesCycle⟩
  · intro h
    exact exists_hasRank_of_cycleFree hclosed ⟨name, h⟩

/-! ## The greatest rank -/

/-- Every number up to a rank is the rank of an object. -/
theorem HasRank.exists_of_le {name : String} {number : Nat}
    (h : relationships.HasRank name number) {lower : Nat} (hone : 1 ≤ lower)
    (hle : lower ≤ number) : ∃ other, relationships.HasRank other lower := by
  induction h with
  | @mk relationship rank hr hranks ih =>
    rcases Nat.lt_or_eq_of_le hle with hlt | rfl
    · -- A lower rank is at most that of a name which the last scan had to wait for.
      rcases foldr_max_one_mem (relationship.referencedNames.map fun name =>
        allowedFrom relationship.domainObject name (rank name)) with heq | hmem
      · omega
      · obtain ⟨other, hother, heq⟩ := List.mem_map.mp hmem
        refine ih other hother ?_
        rw [← heq, allowedFrom] at hlt
        split at hlt <;> omega
    · exact ⟨_, .mk rank hr hranks⟩

/-- No rank is greater than the number of relationships. -/
theorem HasRank.le_size {name : String} {number : Nat} (h : relationships.HasRank name number) :
    number ≤ relationships.size := by
  have hall : ∀ lower < number, ∃ other, relationships.HasRank other (lower + 1) :=
    fun lower hlt => h.exists_of_le (Nat.succ_pos lower) hlt
  choose! object hobject using hall
  -- Objects of different ranks are different, so there are as many of them as ranks.
  have hnodup : ((List.range number).map object).Nodup := by
    refine List.Nodup.map_on (fun i hi j hj heq => ?_) List.nodup_range
    have hrank := hobject i (List.mem_range.mp hi)
    rw [heq] at hrank
    exact Nat.succ_injective (hrank.unique (hobject j (List.mem_range.mp hj)))
  have hsub : (List.range number).map object ⊆ relationships.keys := by
    intro other hother
    obtain ⟨lower, hlower, rfl⟩ := List.mem_map.mp hother
    exact (hobject lower (List.mem_range.mp hlower)).mem_keys
  have hlength := (hnodup.subperm hsub).length_le
  rwa [List.length_map, List.length_range, Keyed.keys, List.length_map] at hlength

end Relationships

end DomainTables
