import DomainTables.Proofs.Reading

/-!
# What reading a column reaches

Reading a column looks up the name of what the column refers to. If it refers directly, the object
is entered, and the columns of its stored properties are read in turn. So reading reaches a set of
names (`Reaches`), and the objects entered one after another form a path (`NestingPath`). Both
follow the same recursion, one object at a time (`forall_reaches_iff`, `length_le_succ_iff`).

A column can be read with some number of levels exactly if every name it reaches is there and no
path from it is longer (`exists_read_iff`). With enough levels, reading fails only for a name that
it reaches (`read_error`), further levels change nothing (`read_eq_of_le`), and what is found under
the names that it reaches is all that it depends on (`read_congr`).
-/

namespace DomainTables.Sql

/-! ## Names and paths -/

/-- The names that reading a column looks up if everything is found. -/
inductive Reaches (relationships : Relationships) : ColumnMapping → String → Prop where
  /-- The column refers to the object of the name. -/
  | target {mapping : ColumnMapping} {reference : ColumnReference} :
      mapping.column.reference = some reference →
      Reaches relationships mapping reference.target.name
  /-- A stored property of an object that the column nests reaches the name. -/
  | nested {mapping inner : ColumnMapping} {target : Relationship} {name : String} :
      Nests relationships mapping target → inner ∈ target.mappings →
      inner.property.isSome = true → Reaches relationships inner name →
      Reaches relationships mapping name

/-- The relationships that reading a column enters one after another: first that of the object that
the column nests, and from each the one that a column of its stored properties nests. -/
inductive NestingPath (relationships : Relationships) :
    ColumnMapping → List Relationship → Prop where
  /-- The column nests the target. -/
  | enter {mapping : ColumnMapping} {reference : ColumnReference} {target : Relationship} :
      mapping.directReference? = some reference →
      relationships.get reference.target.name = .ok target →
      NestingPath relationships mapping [target]
  /-- The column nests the target, and the path goes on from a column of the target. -/
  | through {mapping inner : ColumnMapping} {reference : ColumnReference} {target : Relationship}
      {path : List Relationship} :
      mapping.directReference? = some reference →
      relationships.get reference.target.name = .ok target →
      inner ∈ target.mappings → inner.property.isSome = true →
      NestingPath relationships inner path → NestingPath relationships mapping (target :: path)

section

variable {relationships relationships' : Relationships} {mapping : ColumnMapping}

/-- Something holds of all names that a column reaches if it holds of what the column refers to, and
of all names that the columns of what it nests reach. -/
theorem forall_reaches_iff {p : String → Prop} :
    (∀ name, Reaches relationships mapping name → p name) ↔
      (∀ reference, mapping.column.reference = some reference → p reference.target.name) ∧
      ∀ target, Nests relationships mapping target → ∀ inner ∈ target.mappings,
        inner.property.isSome = true → ∀ name, Reaches relationships inner name → p name := by
  constructor
  · intro h
    exact ⟨fun reference hreference => h _ (.target hreference),
      fun target hnests inner hinner hstores name hname =>
        h name (.nested hnests hinner hstores hname)⟩
  · rintro ⟨htarget, hnested⟩ name hname
    -- A name is reached as a target, or from within what is nested.
    cases hname with
    | target hreference => exact htarget _ hreference
    | nested hnests hinner hstores hname => exact hnested _ hnests _ hinner hstores _ hname

/-- There is no path from a column exactly if it nests nothing. -/
theorem length_le_zero_iff :
    (∀ path, NestingPath relationships mapping path → path.length ≤ 0) ↔
      ∀ target, ¬ Nests relationships mapping target := by
  constructor
  · rintro h target ⟨reference, hdirect, htarget⟩
    -- To enter what is nested is a path of its own.
    have hlength := h _ (.enter hdirect htarget)
    rw [List.length_singleton] at hlength
    omega
  · intro h path hpath
    cases hpath with
    | enter hdirect htarget => exact (h _ ⟨_, hdirect, htarget⟩).elim
    | through hdirect htarget => exact (h _ ⟨_, hdirect, htarget⟩).elim

/-- The paths from a column are one longer than those from the columns of what it nests. -/
theorem length_le_succ_iff {levels : Nat} :
    (∀ path, NestingPath relationships mapping path → path.length ≤ levels + 1) ↔
      ∀ target, Nests relationships mapping target → ∀ inner ∈ target.mappings,
        inner.property.isSome = true →
          ∀ path, NestingPath relationships inner path → path.length ≤ levels := by
  constructor
  · rintro h target ⟨reference, hdirect, htarget⟩ inner hinner hstores path hpath
    -- A path from within is continued by one step towards the column.
    have hlength := h _ (.through hdirect htarget hinner hstores hpath)
    rw [List.length_cons] at hlength
    omega
  · intro h path hpath
    cases hpath with
    | enter hdirect htarget => simp
    | through hdirect htarget hinner hstores hrest =>
      rw [List.length_cons]
      exact Nat.succ_le_succ (h _ ⟨_, hdirect, htarget⟩ _ hinner hstores _ hrest)

/-- Only relationships of the set are entered. -/
theorem NestingPath.subset {path : List Relationship}
    (h : NestingPath relationships mapping path) : path ⊆ relationships.toList := by
  induction h with
  | enter _ htarget =>
    exact List.cons_subset.mpr ⟨(Relationships.get_ok_iff.mp htarget).1, List.nil_subset _⟩
  | through _ htarget _ _ _ ih =>
    exact List.cons_subset.mpr ⟨(Relationships.get_ok_iff.mp htarget).1, ih⟩

/-- From names that lead to no other names, columns reach no others. -/
theorem Reaches.of_closed {p : String → Prop}
    (hclosed : ∀ name relationship, p name → relationships.get name = .ok relationship →
      ∀ inner ∈ relationship.referencedNames, p inner)
    (hmapping : ∀ reference, mapping.column.reference = some reference → p reference.target.name)
    {name : String} (h : Reaches relationships mapping name) : p name := by
  induction h with
  | target hreference => exact hmapping _ hreference
  | nested hnests hinner _ _ ih =>
    obtain ⟨reference, hdirect, htarget⟩ := hnests
    obtain ⟨hreference, -⟩ := ColumnMapping.directReference?_eq_some_iff.mp hdirect
    refine ih fun next hnext => hclosed _ _ (hmapping reference hreference) htarget _ ?_
    exact Relationships.mem_referencedNames hinner hnext

/-- Where every name referred to has a relationship, columns reach no other names. -/
theorem Reaches.mem_keys (hclosed : relationships.IsClosed) {relationship : Relationship}
    (hr : relationship ∈ relationships.toList) (hmapping : mapping ∈ relationship.mappings)
    {name : String} (h : Reaches relationships mapping name) : name ∈ relationships.keys := by
  refine h.of_closed (fun _ found _ hfound => ?_) fun reference hreference => ?_
  · exact hclosed found (Relationships.get_ok_iff.mp hfound).1
  · exact hclosed.mem_keys hr hmapping hreference

/-! ## Readings -/

/-- A column can be read with some number of levels exactly if every name that it reaches has a
relationship, and no path from it is longer. -/
theorem exists_read_iff {levels depth : Nat} {table : String} :
    (∃ reading, read relationships levels depth table mapping = .ok reading) ↔
      (∀ name, Reaches relationships mapping name → name ∈ relationships.keys) ∧
      ∀ path, NestingPath relationships mapping path → path.length ≤ levels := by
  -- Nested columns are read one level further down, each from the table of its own relationship.
  induction levels generalizing depth table mapping with
  | zero =>
    unfold read
    rw [exists_readColumn_iff, forall_reaches_iff, length_le_zero_iff]
    simp only [reduceCtorEq, exists_false]
    constructor
    · rintro ⟨hfound, hnests⟩
      exact ⟨⟨hfound, fun target htarget => (hnests target htarget).elim⟩, hnests⟩
    · rintro ⟨⟨hfound, -⟩, hnests⟩
      exact ⟨hfound, hnests⟩
  | succ levels ih =>
    unfold read
    rw [exists_readColumn_iff, forall_reaches_iff, length_le_succ_iff]
    simp only [exists_readEntries_iff, ih, imp_and, forall_and, and_assoc]

/-- With enough levels, reading a column fails only for a name that it reaches and that has no
relationship. -/
theorem read_error {levels depth : Nat} {table : String} {cause : Cause}
    (hlength : ∀ path, NestingPath relationships mapping path → path.length ≤ levels)
    (h : read relationships levels depth table mapping = .error cause) :
    ∃ name, Reaches relationships mapping name ∧ name ∉ relationships.keys ∧
      cause = .internalConsistency (.missingRelationship name) := by
  have hlookup : ∀ {mapping : ColumnMapping} {reference : ColumnReference},
      mapping.column.reference = some reference →
      relationships.get reference.target.name = .error cause →
      ∃ name, Reaches relationships mapping name ∧ name ∉ relationships.keys ∧
        cause = .internalConsistency (.missingRelationship name) :=
    fun hreference hget => ⟨_, .target hreference, Relationships.get_error_iff.mp hget⟩
  -- The induction is on the levels. Each level enters what the column nests, from which paths are
  -- shorter by one; without a level left nothing is nested.
  induction levels generalizing depth table mapping with
  | zero =>
    unfold read at h
    rcases readColumn_error h with ⟨reference, hreference, hget⟩ | ⟨target, hnests, -⟩
    · exact hlookup hreference hget
    · exact (length_le_zero_iff.mp hlength target hnests).elim
  | succ levels ih =>
    unfold read at h
    rcases readColumn_error h with ⟨reference, hreference, hget⟩ | ⟨target, hnests, hentries⟩
    · exact hlookup hreference hget
    · obtain ⟨inner, hinner, hstores, herror⟩ := readEntries_error hentries
      obtain ⟨name, hname, hmissing⟩ :=
        ih (length_le_succ_iff.mp hlength target hnests inner hinner hstores) herror
      exact ⟨name, .nested hnests hinner hstores hname, hmissing⟩

/-- Levels beyond the longest path from a column change nothing, also where reading fails. -/
theorem read_eq_of_le {levels levels' depth : Nat} {table : String}
    (hlength : ∀ path, NestingPath relationships mapping path → path.length ≤ levels)
    (hle : levels ≤ levels') :
    read relationships levels' depth table mapping =
      read relationships levels depth table mapping := by
  -- Both numbers of levels go down by one with each nested object. The smaller one is used up only
  -- where nothing is nested any more.
  induction levels generalizing levels' depth table mapping with
  | zero =>
    cases levels' with
    | zero => rfl
    | succ levels' =>
      unfold read
      refine readColumn_congr (fun _ _ => rfl) (fun target hnests => ?_) depth table
      exact (length_le_zero_iff.mp hlength target hnests).elim
  | succ levels ih =>
    cases levels' with
    | zero => omega
    | succ levels' =>
      unfold read
      refine readColumn_congr (fun _ _ => rfl) (fun target hnests => ?_) depth table
      refine readEntries_congr fun inner hinner hstores => ?_
      exact ih (length_le_succ_iff.mp hlength target hnests inner hinner hstores) (by omega)

/-! ## Sets that agree on what a column reaches -/

section

variable (h : ∀ name, Reaches relationships mapping name →
  relationships'.get name = relationships.get name)

include h

/-- A column is read alike among relationships in which the names that it reaches lead to the
same. -/
theorem read_congr (levels depth : Nat) (table : String) :
    read relationships' levels depth table mapping =
      read relationships levels depth table mapping := by
  induction levels generalizing depth table mapping with
  | zero =>
    unfold read
    exact readColumn_congr (fun _ hreference => h _ (.target hreference)) (fun _ _ => rfl) depth
      table
  | succ levels ih =>
    unfold read
    refine readColumn_congr (fun _ hreference => h _ (.target hreference)) (fun target hnests => ?_)
      depth table
    -- What is reached from within is reached from the column too.
    refine readEntries_congr fun inner hinner hstores => ?_
    exact ih (fun name hname => h name (.nested hnests hinner hstores hname)) _ _

end

/-- The paths from a column are also there in another set, if what is found under the names that the
column reaches is found there too. -/
theorem NestingPath.of_get
    (h : ∀ name target, Reaches relationships mapping name →
      relationships'.get name = .ok target → relationships.get name = .ok target)
    {path : List Relationship} (hpath : NestingPath relationships' mapping path) :
    NestingPath relationships mapping path := by
  -- The first object of a path is found in both sets, for any column.
  have htarget : ∀ {mapping : ColumnMapping} {reference : ColumnReference} {target : Relationship},
      (∀ name target, Reaches relationships mapping name →
        relationships'.get name = .ok target → relationships.get name = .ok target) →
      mapping.directReference? = some reference →
      relationships'.get reference.target.name = .ok target →
      relationships.get reference.target.name = .ok target := by
    intro mapping reference target h hdirect hget
    obtain ⟨hreference, -⟩ := ColumnMapping.directReference?_eq_some_iff.mp hdirect
    exact h _ _ (.target hreference) hget
  induction hpath with
  | enter hdirect hget => exact .enter hdirect (htarget h hdirect hget)
  | through hdirect hget hinner hstores _ ih =>
    have hget := htarget h hdirect hget
    refine .through hdirect hget hinner hstores (ih fun name target hname => ?_)
    exact h name target (.nested ⟨_, hdirect, hget⟩ hinner hstores hname)

end

end DomainTables.Sql
