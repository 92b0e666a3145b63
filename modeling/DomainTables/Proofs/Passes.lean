import Mathlib.Logic.Function.Iterate
import DomainTables.Proofs.Rank

/-!
# What the scans place

The names of a table of dependencies are in ascending order, and a scan goes through them in that
order. So when a scan comes to an object, it has placed the names that come before, as far as they
can be placed by now, and not yet those that come after. The invariant `PlacedUpTo` says which names
these are in terms of ranks; coming to one more name keeps it (`PlacedUpTo.step`), hence so does a
whole scan (`PlacedUpTo.scan`). After any number of scans the placed names are the objects whose
rank is not greater, by rank and name (`mem_scans_iff`, `pairwise_scans`).

That scans end early once one of them places nothing is no exception: further scans would place
nothing either (`Dependencies.scans_eq_iterate`).
-/

namespace DomainTables

/-- In an ascending list, the names in front of one are the lower ones. -/
theorem mem_left_iff_lt {before after : List String} {middle name : String}
    (h : (before ++ middle :: after).Pairwise (· < ·))
    (hname : name ∈ before ++ middle :: after) : name ∈ before ↔ name < middle := by
  obtain ⟨-, hright, hacross⟩ := List.pairwise_append.mp h
  constructor
  · intro hbefore
    exact hacross name hbefore middle List.mem_cons_self
  · intro hlt
    -- What stands at the middle or behind it is not lower.
    rcases List.mem_append.mp hname with hbefore | hafter
    · exact hbefore
    · rcases List.mem_cons.mp hafter with rfl | hafter
      · exact absurd hlt (String.lt_irrefl _)
      · exact absurd hlt (String.lt_asymm ((List.pairwise_cons.mp hright).1 name hafter))

/-! ## Scans one after another -/

namespace Dependencies

/-- A scan keeps what is placed, and adds behind it. -/
theorem prefix_scan (table : Dependencies) (placed : List String) :
    placed <+: table.scan placed := by
  unfold scan
  induction table generalizing placed with
  | nil => exact List.prefix_rfl
  | cons entry rest ih =>
    rw [List.foldl_cons]
    split
    · exact (List.prefix_append _ _).trans (ih _)
    · exact ih _

/-- That the scans stop early makes no difference: a scan that adds nothing would go on adding
nothing. -/
theorem scans_eq_iterate (table : Dependencies) (passes : Nat) (placed : List String) :
    table.scans passes placed = table.scan^[passes] placed := by
  induction passes generalizing placed with
  | zero => rfl
  | succ passes ih =>
    rw [scans, Function.iterate_succ_apply]
    split
    · next hlength =>
      -- A scan only adds names, so one that leaves the number as it is leaves the list as it is.
      have hfixed : table.scan placed = placed :=
        ((table.prefix_scan placed).eq_of_length hlength.symm).symm
      rw [hfixed, Function.iterate_fixed hfixed]
    · exact ih _

end Dependencies

namespace Relationships

variable {relationships : Relationships}

/-- The objects of the set, each with the objects that it refers to, in ascending order
throughout. -/
def table (relationships : Relationships) : Dependencies :=
  .ofEntries relationships.entries

/-- The names of the table are the keys of the relationships. -/
theorem mem_names_table {name : String} :
    name ∈ relationships.table.names ↔ name ∈ relationships.keys :=
  (perm_names_ofEntries relationships).mem_iff

/-- The entries of the table are those of the relationships. -/
theorem mem_table_iff {entry : String × List String} :
    entry ∈ relationships.table ↔
      ∃ relationship ∈ relationships.toList,
        (relationship.domainObject, sortedNames relationship.referencedNames) = entry := by
  constructor
  · intro h
    -- The entry has the name of some relationship, whose own entry it is, as names are distinct.
    obtain ⟨relationship, hr, hname⟩ :=
      Keyed.mem_keys_iff.mp (mem_names_table.mp (List.mem_map_of_mem h))
    have hnodup : relationships.table.names.Nodup :=
      (Dependencies.pairwise_names_ofEntries _).imp ne_of_lt
    exact ⟨relationship, hr, List.inj_on_of_nodup_map hnodup (mem_ofEntries hr) h hname⟩
  · rintro ⟨relationship, hr, rfl⟩
    exact mem_ofEntries hr

/-- A table shows every object with the objects that it refers to, all in ascending order. -/
structure IsShownBy (relationships : Relationships) (table : Dependencies) : Prop where
  /-- The entries are those of the relationships. -/
  mem_iff : ∀ entry, entry ∈ table ↔ ∃ relationship ∈ relationships.toList,
    (relationship.domainObject, sortedNames relationship.referencedNames) = entry
  /-- The names are in ascending order. -/
  pairwise : table.names.Pairwise (· < ·)

/-- The table of the relationships shows all of them. -/
theorem isShownBy_table (relationships : Relationships) :
    relationships.IsShownBy relationships.table :=
  ⟨fun _ => mem_table_iff, Dependencies.pairwise_names_ofEntries _⟩

/-! ## What is placed -/

/-- What holds of the placed names when a scan, after `passes` scans before it, has come to the
names `done`. -/
structure PlacedUpTo (relationships : Relationships) (passes : Nat) (done placed : List String) :
    Prop where
  /-- The objects placed by earlier scans have a rank up to `passes`, and those placed by this scan
  the next one. -/
  mem_iff : ∀ name, name ∈ placed ↔
    (∃ rank ≤ passes, relationships.HasRank name rank) ∨
      (name ∈ done ∧ relationships.HasRank name (passes + 1))
  /-- They are placed by rank, and by name where the rank is the same. -/
  pairwise : placed.Pairwise relationships.Precedes

namespace PlacedUpTo

variable {passes : Nat} {done placed : List String} {relationship : Relationship}

/-- When a scan has come to the names lower than that of an object, the object can be placed exactly
if its rank is the number of the scan. -/
theorem isPlaceable_iff (h : relationships.PlacedUpTo passes done placed)
    (hr : relationship ∈ relationships.toList)
    (hdone : ∀ name ∈ relationships.keys, name ∈ done ↔ name < relationship.domainObject) :
    Dependencies.isPlaceable placed
        (relationship.domainObject, sortedNames relationship.referencedNames) = true ↔
      relationships.HasRank relationship.domainObject (passes + 1) := by
  -- A name referred to is placed if its rank allows to place the object in this scan.
  have hrefs : (∀ name ∈ relationship.referencedNames, name ∈ placed) ↔
      ∃ number ≤ passes + 1, relationships.HasRank relationship.domainObject number := by
    rw [exists_hasRank_le_iff hr, and_iff_right (Nat.le_add_left 1 passes)]
    refine forall₂_congr fun name _ => ?_
    rw [h.mem_iff]
    unfold allowedFrom
    constructor
    · rintro (⟨rank, hle, hrank⟩ | ⟨hmem, hrank⟩)
      · refine ⟨rank, hrank, ?_⟩
        split <;> omega
      · have hlt := (hdone name hrank.mem_keys).mp hmem
        exact ⟨passes + 1, hrank, by rw [if_pos hlt]⟩
    · rintro ⟨rank, hrank, hle⟩
      by_cases hlt : name < relationship.domainObject
      · rw [if_pos hlt] at hle
        rcases Nat.lt_or_eq_of_le hle with hle | heq
        · exact Or.inl ⟨rank, Nat.le_of_lt_succ hle, hrank⟩
        · exact Or.inr ⟨(hdone name hrank.mem_keys).mpr hlt, heq ▸ hrank⟩
      · rw [if_neg hlt] at hle
        exact Or.inl ⟨rank, Nat.le_of_succ_le_succ hle, hrank⟩
  -- The object itself has not been reached, so it is placed only if an earlier scan did it.
  have hself : relationship.domainObject ∈ placed ↔
      ∃ rank ≤ passes, relationships.HasRank relationship.domainObject rank := by
    have hnot : relationship.domainObject ∉ done := fun hmem =>
      String.lt_irrefl _ ((hdone _ (Keyed.key_mem_keys hr)).mp hmem)
    rw [h.mem_iff, or_iff_left fun hboth => hnot hboth.1]
  rw [Dependencies.isPlaceable_iff, hself]
  simp only [mem_sortedNames]
  rw [hrefs]
  constructor
  · rintro ⟨hearlier, number, hle, hrank⟩
    rcases Nat.lt_or_eq_of_le hle with hle | rfl
    · exact absurd ⟨number, Nat.le_of_lt_succ hle, hrank⟩ hearlier
    · exact hrank
  · intro hrank
    refine ⟨?_, _, Nat.le_refl _, hrank⟩
    rintro ⟨rank, hle, hrank'⟩
    have heq := hrank.unique hrank'
    omega

/-- Whatever is placed when a scan comes to an object of its own rank precedes the object. -/
theorem precedes (h : relationships.PlacedUpTo passes done placed) {owner : String}
    (hrank : relationships.HasRank owner (passes + 1)) (hdone : ∀ name ∈ done, name < owner)
    {name : String} (hname : name ∈ placed) : relationships.Precedes name owner := by
  rcases (h.mem_iff name).mp hname with ⟨rank, hle, hrank'⟩ | ⟨hmem, hrank'⟩
  · exact ⟨rank, _, hrank', hrank, Or.inl (Nat.lt_succ_of_le hle)⟩
  · exact ⟨_, _, hrank', hrank, Or.inr ⟨rfl, hdone name hmem⟩⟩

/-- Coming to one more object keeps the invariant. -/
theorem step (h : relationships.PlacedUpTo passes done placed)
    (hr : relationship ∈ relationships.toList)
    (hdone : ∀ name ∈ relationships.keys, name ∈ done ↔ name < relationship.domainObject)
    (hsub : done ⊆ relationships.keys) :
    relationships.PlacedUpTo passes (done ++ [relationship.domainObject])
      (if Dependencies.isPlaceable placed
          (relationship.domainObject, sortedNames relationship.referencedNames)
        then placed ++ [relationship.domainObject] else placed) := by
  -- What is placed so far decides by the invariant whether the object can be: exactly if its rank
  -- is that of this scan at most.
  have hplaceable := h.isPlaceable_iff hr hdone
  split
  · next hplace =>
    have hrank := hplaceable.mp hplace
    refine ⟨fun name => ?_, List.pairwise_append.mpr ⟨h.pairwise, List.pairwise_singleton _ _, ?_⟩⟩
    · rw [List.mem_append, List.mem_append, List.mem_singleton, h.mem_iff, or_and_right, or_assoc]
      refine or_congr_right (or_congr_right ⟨fun heq => ⟨heq, heq ▸ hrank⟩, And.left⟩)
    · intro name hname owner howner
      rw [List.mem_singleton.mp howner]
      exact h.precedes hrank (fun other hother => (hdone other (hsub hother)).mp hother) hname
  · -- An object that cannot be placed has a greater rank, and nothing else has changed.
    next hplace =>
    refine ⟨fun name => ?_, h.pairwise⟩
    rw [List.mem_append, List.mem_singleton, h.mem_iff, or_and_right]
    refine or_congr_right (or_iff_left ?_).symm
    rintro ⟨rfl, hrank⟩
    exact hplace (hplaceable.mpr hrank)

/-- Coming to the rest of the table keeps the invariant. -/
theorem foldl {before after : Dependencies} (htable : relationships.table = before ++ after)
    (h : relationships.PlacedUpTo passes before.names placed) :
    relationships.PlacedUpTo passes relationships.table.names
      (after.foldl (fun placed entry =>
        if Dependencies.isPlaceable placed entry then placed ++ [entry.1] else placed)
        placed) := by
  -- The induction is on the rest of the table. The invariant speaks of the names gone by, which
  -- are those in front of the rest since the table is ascending.
  induction after generalizing before placed with
  | nil =>
    rw [htable, List.append_nil]
    exact h
  | cons entry rest ih =>
    obtain ⟨relationship, hr, rfl⟩ :=
      mem_table_iff.mp (htable ▸ List.mem_append_right before List.mem_cons_self)
    have hnames : relationships.table.names =
        before.names ++ relationship.domainObject :: Dependencies.names rest := by
      rw [htable, Dependencies.names, List.map_append]
      rfl
    have hdone : ∀ name ∈ relationships.keys,
        name ∈ before.names ↔ name < relationship.domainObject := by
      intro name hname
      rw [← mem_names_table, hnames] at hname
      refine mem_left_iff_lt ?_ hname
      rw [← hnames]
      exact Dependencies.pairwise_names_ofEntries _
    have hsub : before.names ⊆ relationships.keys := fun name hname =>
      mem_names_table.mp (hnames ▸ List.mem_append_left _ hname)
    have hnext := h.step hr hdone hsub
    have hdone' : before.names ++ [relationship.domainObject] = Dependencies.names (before ++
        [(relationship.domainObject, sortedNames relationship.referencedNames)]) := by
      rw [Dependencies.names, Dependencies.names, List.map_append]
      rfl
    rw [hdone'] at hnext
    refine ih ?_ hnext
    rw [htable, List.append_assoc, List.singleton_append]

/-- A whole scan keeps the invariant, and is one scan more. -/
theorem scan (h : relationships.PlacedUpTo passes [] placed) :
    relationships.PlacedUpTo (passes + 1) [] (relationships.table.scan placed) := by
  have hall : relationships.PlacedUpTo passes relationships.table.names
      (relationships.table.scan placed) :=
    h.foldl (List.nil_append relationships.table).symm
  refine ⟨fun name => ?_, hall.pairwise⟩
  -- Once the scan has gone by all names, those of its own rank are placed with the lower ones.
  rw [hall.mem_iff, mem_names_table]
  simp only [List.not_mem_nil, false_and, or_false]
  constructor
  · rintro (⟨rank, hle, hrank⟩ | ⟨-, hrank⟩)
    · exact ⟨rank, Nat.le_succ_of_le hle, hrank⟩
    · exact ⟨_, Nat.le_refl _, hrank⟩
  · rintro ⟨rank, hle, hrank⟩
    rcases Nat.lt_or_eq_of_le hle with hle | rfl
    · exact Or.inl ⟨rank, Nat.le_of_lt_succ hle, hrank⟩
    · exact Or.inr ⟨hrank.mem_keys, hrank⟩

/-- Before any scan nothing is placed, and nothing has rank zero. -/
theorem nil (relationships : Relationships) : relationships.PlacedUpTo 0 [] [] := by
  refine ⟨fun name => ?_, List.Pairwise.nil⟩
  simp only [List.not_mem_nil, false_and, or_false, false_iff]
  rintro ⟨rank, hle, hrank⟩
  have hone := hrank.one_le
  omega

end PlacedUpTo

/-- The invariant holds after any number of scans. -/
theorem placedUpTo_scans (relationships : Relationships) (passes : Nat) :
    relationships.PlacedUpTo passes [] (relationships.table.scans passes []) := by
  rw [Dependencies.scans_eq_iterate]
  induction passes with
  | zero => exact PlacedUpTo.nil relationships
  | succ passes ih =>
    rw [Function.iterate_succ_apply']
    exact ih.scan

/-- Some number of scans places the objects whose rank is not greater. -/
theorem mem_scans_iff {passes : Nat} {name : String} :
    name ∈ relationships.table.scans passes [] ↔
      ∃ rank ≤ passes, relationships.HasRank name rank := by
  rw [(placedUpTo_scans relationships passes).mem_iff]
  simp

/-- The scans place objects by rank, and by name where the rank is the same. -/
theorem pairwise_scans (relationships : Relationships) (passes : Nat) :
    (relationships.table.scans passes []).Pairwise relationships.Precedes :=
  (placedUpTo_scans relationships passes).pairwise

end Relationships

end DomainTables
