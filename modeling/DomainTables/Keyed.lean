/-!
# Lists with distinct keys

Declarations come in an order that matters and under keys that must not repeat. A `Keyed` list holds
its elements in the order in which they first came and carries the proof that no two of them have
the same key. Inserting an element under a key that is taken replaces the element there, and keeps
its place.
-/

namespace DomainTables

/-- A list in which no two elements have the same key. -/
structure Keyed {α : Type} (key : α → String) where
  /-- The elements in order. -/
  toList : List α
  /-- Keys do not repeat. -/
  nodup : (toList.map key).Nodup
deriving DecidableEq

namespace Keyed

variable {α : Type} {key : α → String}

/-- The list without elements. -/
def empty : Keyed key :=
  ⟨[], List.nodup_nil⟩

/-- The keys in order. -/
def keys (items : Keyed key) : List String :=
  items.toList.map key

/-- The number of elements. -/
def size (items : Keyed key) : Nat :=
  items.toList.length

/-- The element under a key. -/
def find? (items : Keyed key) (name : String) : Option α :=
  items.toList.find? fun x => key x == name

/-- Puts an element whose key is not taken at the end. -/
def push (items : Keyed key) (x : α) (fresh : key x ∉ items.keys) : Keyed key where
  toList := items.toList ++ [x]
  nodup := by
    rw [List.map_append, List.nodup_append]
    refine ⟨items.nodup, by simp, fun a ha b hb hab => ?_⟩
    simp only [List.map_cons, List.map_nil, List.mem_singleton] at hb
    exact fresh (hb ▸ hab ▸ ha)

/-- The key of a new element comes last. -/
theorem keys_push (items : Keyed key) (x : α) (fresh : key x ∉ items.keys) :
    (items.push x fresh).keys = items.keys ++ [key x] := by
  simp [keys, push]

/-- Replacing elements by elements of the same key changes no key. -/
theorem map_key_replace (xs : List α) (x : α) :
    (xs.map fun y => if key y = key x then x else y).map key = xs.map key := by
  rw [List.map_map]
  refine List.map_congr_left fun y _ => ?_
  simp only [Function.comp_apply]
  split
  · next h => exact h.symm
  · rfl

/-- Puts an element in the place of the one under the same key. -/
def replace (items : Keyed key) (x : α) : Keyed key where
  toList := items.toList.map fun y => if key y = key x then x else y
  nodup := by rw [map_key_replace]; exact items.nodup

/-- Replacing an element keeps the keys and their order. -/
theorem keys_replace (items : Keyed key) (x : α) : (items.replace x).keys = items.keys :=
  map_key_replace items.toList x

/-- Puts an element in the place of the one under its key, or at the end if there is none. -/
def insert (items : Keyed key) (x : α) : Keyed key :=
  if fresh : key x ∉ items.keys then items.push x fresh else items.replace x

/-- An inserted element adds its key, and no other. -/
theorem mem_keys_insert (items : Keyed key) (x : α) (name : String) :
    name ∈ (items.insert x).keys ↔ name ∈ items.keys ∨ name = key x := by
  rw [insert]
  split
  · rw [keys_push, List.mem_append, List.mem_singleton]
  · next taken =>
    rw [keys_replace]
    have present : key x ∈ items.keys := Decidable.not_not.1 taken
    exact ⟨Or.inl, fun h => h.elim id fun h => h ▸ present⟩

/-- Takes the element under a key out and keeps the order of the others. -/
def erase (items : Keyed key) (name : String) : Keyed key where
  toList := items.toList.filter fun x => key x != name
  nodup := items.nodup.sublist (List.filter_sublist.map key)

/-- Inserts the elements of a list one after another. -/
def ofList (xs : List α) : Keyed key :=
  xs.foldl insert empty

end Keyed

end DomainTables
