import Mathlib.Data.List.Perm.Subperm
import Mathlib.Data.String.Basic
import DomainTables.Dependencies

/-!
# Ascending names

Sets of names are kept as ascending lists, and a table of dependencies is kept in ascending order of
its names. Inserting keeps the order (`pairwise_insertName`), and a list in ascending order is
determined by its members (`eq_of_pairwise_of_mem_iff`). So it makes no difference in which order
names are found (`sortedNames_congr`), or in which order the entries of a table come
(`Dependencies.ofEntries_eq_of_perm`): the table of entries for distinct names has each of them once
(`Dependencies.perm_ofEntries`) and is ascending (`Dependencies.pairwise_names_ofEntries`).
-/

namespace DomainTables

/-- Two lists of the same elements in the same order are equal, if the order is asymmetric. -/
theorem eq_of_pairwise_of_mem_iff {α : Type} {before : α → α → Prop}
    (hasymm : ∀ x y, before x y → ¬ before y x) {xs ys : List α}
    (hxs : xs.Pairwise before) (hys : ys.Pairwise before) (hmem : ∀ x, x ∈ xs ↔ x ∈ ys) :
    xs = ys := by
  have hne : ∀ {x y}, before x y → x ≠ y := by
    rintro x _ hbefore rfl
    exact hasymm x x hbefore hbefore
  have hperm : xs.Perm ys :=
    (List.perm_ext_iff_of_nodup (hxs.imp hne) (hys.imp hne)).mpr hmem
  exact hperm.eq_of_pairwise (fun _ _ _ _ hlt hlt' => absurd hlt' (hasymm _ _ hlt)) hxs hys

/-! ## Names -/

/-- Inserting a name keeps the names in ascending order. -/
theorem pairwise_insertName {name : String} {names : List String}
    (h : names.Pairwise (· < ·)) : (insertName name names).Pairwise (· < ·) := by
  induction names with
  | nil => exact List.pairwise_singleton _ _
  | cons other rest ih =>
    obtain ⟨hother, hrest⟩ := List.pairwise_cons.mp h
    rw [insertName]
    split
    · next hlt =>
      refine List.pairwise_cons.mpr ⟨fun found hfound => ?_, h⟩
      rcases List.mem_cons.mp hfound with rfl | hfound
      · exact hlt
      · exact String.lt_trans hlt (hother found hfound)
    · next hnot =>
      split
      · exact h
      · next hne =>
        -- The name goes somewhere behind the first one, which is lower.
        have hlt : other < name := ((lt_trichotomy name other).resolve_left hnot).resolve_left hne
        refine List.pairwise_cons.mpr ⟨fun found hfound => ?_, ih hrest⟩
        rcases mem_insertName.mp hfound with rfl | hfound
        · exact hlt
        · exact hother found hfound

/-- Sorted names are in ascending order. -/
theorem pairwise_sortedNames (names : List String) : (sortedNames names).Pairwise (· < ·) := by
  induction names with
  | nil => exact List.Pairwise.nil
  | cons name rest ih => exact pairwise_insertName ih

/-- Sorting gives the same list for the same set of names. -/
theorem sortedNames_congr {names names' : List String}
    (h : ∀ name, name ∈ names ↔ name ∈ names') : sortedNames names = sortedNames names' := by
  apply eq_of_pairwise_of_mem_iff (fun _ _ => String.lt_asymm) (pairwise_sortedNames names)
    (pairwise_sortedNames names')
  intro name
  rw [mem_sortedNames, mem_sortedNames]
  exact h name

/-! ## Tables -/

namespace Dependencies

/-- An entry for a fresh name is added to the table, and the other entries are kept. -/
theorem perm_insert {entry : String × List String} {table : Dependencies}
    (fresh : entry.1 ∉ table.names) : (Dependencies.insert entry table).Perm (entry :: table) := by
  induction table with
  | nil => exact List.Perm.refl _
  | cons other rest ih =>
    have hother : entry.1 ≠ other.1 := fun h => fresh (by simp [names, h])
    have hrest : entry.1 ∉ names rest := fun h => fresh (List.mem_cons_of_mem _ h)
    rw [Dependencies.insert, if_neg hother]
    split
    · exact List.Perm.refl _
    · exact ((ih hrest).cons other).trans (List.Perm.swap entry other rest)

/-- Adding entries for fresh, distinct names keeps all of them. -/
theorem perm_foldl_insert {entries : List (String × List String)} {table : Dependencies}
    (h : (table.names ++ entries.map (·.1)).Nodup) :
    (entries.foldl (fun table entry => Dependencies.insert (entry.1, sortedNames entry.2) table)
      table).Perm (table ++ entries.map fun entry => (entry.1, sortedNames entry.2)) := by
  induction entries generalizing table with
  | nil => simp
  | cons entry rest ih =>
    have fresh : entry.1 ∉ table.names := fun hm =>
      (List.nodup_append.mp h).2.2 _ hm _ (by simp) rfl
    have hperm : (Dependencies.insert (entry.1, sortedNames entry.2) table).Perm
        ((entry.1, sortedNames entry.2) :: table) := perm_insert fresh
    -- Insertion only moves names, so those of the rest are fresh in the next table too.
    have hnames : (names (Dependencies.insert (entry.1, sortedNames entry.2) table) ++
        rest.map (·.1)).Nodup := by
      have hmove : (names (Dependencies.insert (entry.1, sortedNames entry.2) table) ++
          rest.map (·.1)).Perm (table.names ++ (entry :: rest).map (·.1)) :=
        ((hperm.map _).append_right _).trans List.perm_middle.symm
      exact hmove.nodup_iff.mpr h
    refine (ih hnames).trans ((hperm.append_right _).trans ?_)
    exact List.perm_middle.symm

/-- The table of entries for distinct names has an entry for each, with the same names in it. -/
theorem perm_ofEntries {entries : List (String × List String)}
    (h : (entries.map (·.1)).Nodup) :
    (ofEntries entries).Perm (entries.map fun entry => (entry.1, sortedNames entry.2)) := by
  have hempty : (names [] ++ entries.map (·.1)).Nodup := h
  exact perm_foldl_insert hempty

/-- A new entry puts its name among the names of the table. -/
theorem names_insert (entry : String × List String) (table : Dependencies) :
    (Dependencies.insert entry table).names = insertName entry.1 table.names := by
  induction table with
  | nil => rfl
  | cons other rest ih =>
    have hcons : names (other :: rest) = other.1 :: names rest := rfl
    rw [Dependencies.insert, hcons, insertName]
    -- The two insertions compare the same names, so they take the same branch at each entry.
    split
    · rfl
    · split
      · next heq => rw [← heq]; rfl
      · rw [← ih]; rfl

/-- The names of a table are in ascending order. -/
theorem pairwise_names_ofEntries (entries : List (String × List String)) :
    (ofEntries entries).names.Pairwise (· < ·) := by
  -- The fold starts from any table, since the induction has to pass through those it builds.
  have hall : ∀ table : Dependencies, table.names.Pairwise (· < ·) →
      (entries.foldl (fun table entry => table.insert (entry.1, sortedNames entry.2))
        table).names.Pairwise (· < ·) := by
    induction entries with
    | nil => exact fun _ h => h
    | cons entry rest ih =>
      intro table h
      apply ih
      rw [names_insert]
      exact pairwise_insertName h
  exact hall [] List.Pairwise.nil

/-- Entries for distinct names make the same table if they list the same names for each, whatever
order the entries and the names come in. -/
theorem ofEntries_eq_of_perm {entries entries' : List (String × List String)}
    (hperm : (entries.map fun entry => (entry.1, sortedNames entry.2)).Perm
      (entries'.map fun entry => (entry.1, sortedNames entry.2)))
    (hnodup : (entries.map (·.1)).Nodup) : ofEntries entries = ofEntries entries' := by
  have hnodup' : (entries'.map (·.1)).Nodup := by
    have hnames := hperm.map (·.1)
    rw [List.map_map, List.map_map] at hnames
    exact hnames.nodup_iff.mp hnodup
  have hsame : (ofEntries entries).Perm (ofEntries entries') :=
    (perm_ofEntries hnodup).trans (hperm.trans (perm_ofEntries hnodup').symm)
  -- Both tables ascend strictly, and a strictly ascending list is fixed by its members.
  have hascending : ∀ found : List (String × List String),
      (ofEntries found).Pairwise fun entry other => entry.1 < other.1 :=
    fun found => List.pairwise_map.mp (pairwise_names_ofEntries found)
  apply eq_of_pairwise_of_mem_iff (fun _ _ => String.lt_asymm) (hascending entries)
    (hascending entries')
  exact fun _ => hsame.mem_iff

end Dependencies

end DomainTables
