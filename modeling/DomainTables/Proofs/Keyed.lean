import Mathlib.Data.List.Nodup
import DomainTables.Keyed

/-!
# Looking up in lists with distinct keys

A list with distinct keys is determined by its elements (`Keyed.ext_toList`), and looking up a key
finds the one element that has it (`Keyed.find?_eq_some_iff`). Elements whose keys are distinct
already keep their order when they are inserted one after another (`Keyed.toList_ofList`).
-/

namespace DomainTables.Keyed

variable {α : Type} {key : α → String}

/-- Lists with distinct keys are equal if their elements are. -/
theorem ext_toList {items items' : Keyed key} (h : items.toList = items'.toList) :
    items = items' := by
  cases items
  cases items'
  cases h
  rfl

/-- The keys are those of the elements. -/
theorem mem_keys_iff {items : Keyed key} {name : String} :
    name ∈ items.keys ↔ ∃ x ∈ items.toList, key x = name :=
  List.mem_map

/-- The key of an element is one of the keys. -/
theorem key_mem_keys {items : Keyed key} {x : α} (hx : x ∈ items.toList) : key x ∈ items.keys :=
  mem_keys_iff.mpr ⟨x, hx, rfl⟩

/-- Elements with the same key are the same. -/
theorem eq_of_key_eq {items : Keyed key} {x y : α} (hx : x ∈ items.toList)
    (hy : y ∈ items.toList) (h : key x = key y) : x = y :=
  List.inj_on_of_nodup_map items.nodup hx hy h

/-- What is found under a key is the element that has the key. -/
theorem find?_eq_some_iff {items : Keyed key} {name : String} {x : α} :
    items.find? name = some x ↔ x ∈ items.toList ∧ key x = name := by
  constructor
  · intro h
    exact ⟨List.mem_of_find?_eq_some h, by simpa using List.find?_some h⟩
  · rintro ⟨hx, rfl⟩
    cases hf : items.find? (key x) with
    -- Some element has the key, since `x` has.
    | none =>
      have hnot := List.find?_eq_none.mp hf x hx
      simp at hnot
    -- Another element with the key of `x` would be `x`, as keys are distinct.
    | some y =>
      have hy : key y = key x := by simpa using List.find?_some hf
      rw [eq_of_key_eq (List.mem_of_find?_eq_some hf) hx hy]

/-- Nothing is found exactly under what is no key. -/
theorem find?_eq_none_iff {items : Keyed key} {name : String} :
    items.find? name = none ↔ name ∉ items.keys := by
  simp only [find?, List.find?_eq_none, mem_keys_iff, beq_iff_eq, not_exists, not_and]

/-- What is found under a key does not depend on the order of the elements. -/
theorem find?_eq_of_perm {items items' : Keyed key} (h : items.toList.Perm items'.toList)
    (name : String) : items.find? name = items'.find? name := by
  apply Option.ext
  intro x
  rw [find?_eq_some_iff, find?_eq_some_iff, h.mem_iff]

/-- Replacing an element changes nothing under any other key. -/
theorem find?_replace_of_ne {items : Keyed key} {x : α} {name : String} (h : name ≠ key x) :
    (items.replace x).find? name = items.find? name := by
  apply Option.ext
  intro found
  rw [find?_eq_some_iff, find?_eq_some_iff]
  constructor
  · -- What is found is no copy of `x`, which has another key, so it was there before.
    rintro ⟨hfound, rfl⟩
    obtain ⟨y, hy, heq⟩ := List.mem_map.mp hfound
    split at heq
    · exact absurd (congrArg key heq).symm h
    · exact ⟨heq ▸ hy, rfl⟩
  · rintro ⟨hfound, rfl⟩
    exact ⟨List.mem_map.mpr ⟨found, hfound, if_neg h⟩, rfl⟩

/-- Inserting an element changes nothing under any other key. -/
theorem find?_insert_of_ne {items : Keyed key} {x : α} {name : String} (h : name ≠ key x) :
    (items.insert x).find? name = items.find? name := by
  unfold insert
  split
  · -- The key is new: `x` stands at the end and is not what is looked for.
    apply Option.ext
    intro found
    rw [find?_eq_some_iff, find?_eq_some_iff]
    simp only [push, List.mem_append, List.mem_singleton, or_and_right, or_iff_left_iff_imp]
    rintro ⟨rfl, rfl⟩
    exact (h rfl).elim
  · exact find?_replace_of_ne h

/-- Taking an element out changes nothing under any other key. -/
theorem find?_erase_of_ne {items : Keyed key} {erased name : String} (h : name ≠ erased) :
    (items.erase erased).find? name = items.find? name := by
  apply Option.ext
  intro found
  rw [find?_eq_some_iff, find?_eq_some_iff]
  simp only [erase, List.mem_filter, bne_iff_ne, and_assoc, and_congr_right_iff,
    and_iff_right_iff_imp]
  rintro - rfl
  exact h

/-- The key of an element that is taken out is not taken any more. -/
theorem notMem_keys_erase (items : Keyed key) (erased : String) :
    erased ∉ (items.erase erased).keys := by
  intro h
  obtain ⟨x, hx, hkey⟩ := mem_keys_iff.mp h
  exact bne_iff_ne.mp (List.mem_filter.mp hx).2 hkey

/-- Replacing an element keeps the number of elements. -/
theorem size_replace (items : Keyed key) (x : α) : (items.replace x).size = items.size :=
  List.length_map _

/-- Under a key that is taken, what replaces the element is found. -/
theorem find?_replace_self {items : Keyed key} {x : α} (h : key x ∈ items.keys) :
    (items.replace x).find? (key x) = some x := by
  obtain ⟨y, hy, hkey⟩ := mem_keys_iff.mp h
  exact find?_eq_some_iff.mpr ⟨List.mem_map.mpr ⟨y, hy, if_pos hkey⟩, rfl⟩

/-- An element that replaces one of the same key takes its place. -/
theorem toList_replace {items : Keyed key} {before after : List α} {x y : α}
    (h : items.toList = before ++ x :: after) (hkey : key x = key y) :
    (items.replace y).toList = before ++ y :: after := by
  have hnodup := items.nodup
  rw [h, List.map_append, List.map_cons, List.nodup_middle, List.nodup_cons, List.mem_append,
    not_or, hkey] at hnodup
  obtain ⟨⟨hbefore, hafter⟩, -⟩ := hnodup
  -- The keys are distinct, so no element around `x` is replaced.
  have hothers : ∀ others : List α, key y ∉ others.map key →
      (others.map fun z => if key z = key y then y else z) = others := by
    intro others hy
    refine (List.map_congr_left fun z hz => if_neg fun heq => ?_).trans (List.map_id _)
    exact hy (List.mem_map.mpr ⟨z, hz, heq⟩)
  dsimp only [replace]
  rw [h, List.map_append, List.map_cons, if_pos hkey, hothers before hbefore,
    hothers after hafter]

/-- Inserting an element brings in no other. -/
theorem eq_or_mem_of_mem_insert {items : Keyed key} {x y : α}
    (h : y ∈ (items.insert x).toList) : y = x ∨ y ∈ items.toList := by
  unfold insert at h
  split at h
  · rcases List.mem_append.mp h with hy | hy
    · exact Or.inr hy
    · exact Or.inl (List.mem_singleton.mp hy)
  · obtain ⟨z, hz, rfl⟩ := List.mem_map.mp h
    split
    · exact Or.inl rfl
    · exact Or.inr hz

/-- Inserting the elements of a list brings in no other. -/
theorem mem_or_mem_of_mem_foldl_insert {xs : List α} {items : Keyed key} {y : α}
    (h : y ∈ (xs.foldl insert items).toList) : y ∈ xs ∨ y ∈ items.toList := by
  induction xs generalizing items with
  | nil => exact Or.inr h
  | cons x xs ih =>
    rcases ih h with hy | hy
    · exact Or.inl (List.mem_cons_of_mem _ hy)
    · rcases eq_or_mem_of_mem_insert hy with rfl | hy
      · exact Or.inl List.mem_cons_self
      · exact Or.inr hy

/-- The elements of a list from which later ones replace earlier ones are elements of the list. -/
theorem mem_of_mem_ofList {xs : List α} {y : α} (h : y ∈ (ofList xs : Keyed key).toList) :
    y ∈ xs := by
  rcases mem_or_mem_of_mem_foldl_insert h with hy | hy
  · exact hy
  · cases hy

/-- Inserting elements with fresh, distinct keys puts them at the end in their order. -/
theorem toList_foldl_insert {xs : List α} {items : Keyed key}
    (h : (items.keys ++ xs.map key).Nodup) :
    (xs.foldl insert items).toList = items.toList ++ xs := by
  induction xs generalizing items with
  | nil => simp
  | cons x xs ih =>
    have fresh : key x ∉ items.keys := by
      intro hx
      rw [List.nodup_append] at h
      exact h.2.2 _ hx _ (by simp) rfl
    have hpush : items.insert x = items.push x fresh := dif_pos fresh
    -- What is still to come has keys that are fresh after the insertion as well.
    have hnext : ((items.push x fresh).keys ++ xs.map key).Nodup := by
      rw [keys_push, List.append_assoc]
      exact h
    rw [List.foldl_cons, hpush, ih hnext]
    simp [push]

/-- Elements whose keys are distinct are kept as they are. -/
theorem toList_ofList {xs : List α} (h : (xs.map key).Nodup) :
    (ofList xs : Keyed key).toList = xs := by
  have hempty : ((empty : Keyed key).keys ++ xs.map key).Nodup := h
  exact toList_foldl_insert hempty

end DomainTables.Keyed
