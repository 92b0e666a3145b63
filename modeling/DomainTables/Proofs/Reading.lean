import DomainTables.Client.Argument
import DomainTables.Proofs.Provisioning
import DomainTables.Sql.Reading
import DomainTables.Sql.Writing

/-!
# When columns are read, written and bound

Reading a column looks up the object that the column refers to, and enters it if the column nests it
(`Sql.Nests`). For each function of reading there is a lemma on when it returns a reading, one on
where its errors come from, and one on what it depends on. Allowing further levels of nested objects
does not change a reading (`Sql.read_mono`), and what one level keeps, all levels keep
(`Sql.read_induction`).

Writing a column looks up no more than one object, and so does binding it in client code. They fail
exactly if it is not there (`Sql.input_error_iff`, `Client.argument_error_iff`).
-/

namespace DomainTables

/-- The direct reference of a column is its reference, if that is direct. -/
theorem ColumnMapping.directReference?_eq_some_iff {mapping : ColumnMapping}
    {reference : ColumnReference} :
    mapping.directReference? = some reference ↔
      mapping.column.reference = some reference ∧ reference.method.isDirect = true :=
  Option.filter_eq_some_iff

namespace Sql

/-- Reading the column enters the relationship, to whose object the column refers directly. -/
def Nests (relationships : Relationships) (mapping : ColumnMapping) (target : Relationship) :
    Prop :=
  ∃ reference, mapping.directReference? = some reference ∧
    relationships.get reference.target.name = .ok target

section

variable {relationships relationships' : Relationships}

/-! ## Nested objects -/

/-- A column without a reference nests nothing. -/
theorem not_nests_of_reference_eq_none {mapping : ColumnMapping}
    (h : mapping.column.reference = none) (target : Relationship) :
    ¬ Nests relationships mapping target := by
  rintro ⟨reference, hdirect, -⟩
  obtain ⟨hreference, -⟩ := ColumnMapping.directReference?_eq_some_iff.mp hdirect
  cases h.symm.trans hreference

/-- A column with a reference nests what the reference leads to, if it is direct. -/
theorem nests_iff_of_reference {mapping : ColumnMapping} {reference : ColumnReference}
    (h : mapping.column.reference = some reference) {target : Relationship} :
    Nests relationships mapping target ↔
      reference.method.isDirect = true ∧
        relationships.get reference.target.name = .ok target := by
  simp only [Nests, ColumnMapping.directReference?_eq_some_iff, h, Option.some.injEq, and_assoc,
    exists_eq_left']

/-! ## Readings -/

/-- An object is read as the readings of its columns that store properties, in order and under their
names. -/
theorem readEntries_ok_iff {readColumn : ColumnMapping → Except Cause Reading}
    {target : Relationship} {entries : List (String × Reading)} :
    readEntries readColumn target = .ok entries ↔
      List.Forall₂ (fun inner entry => inner.domainName = entry.1 ∧ readColumn inner = .ok entry.2)
        (target.mappings.filter fun mapping => mapping.property.isSome) entries := by
  -- One entry is the name of a column with its reading.
  have hentry : ∀ (inner : ColumnMapping) (entry : String × Reading),
      (do let reading ← readColumn inner; return (inner.domainName, reading)) = Except.ok entry ↔
        inner.domainName = entry.1 ∧ readColumn inner = .ok entry.2 := by
    intro inner entry
    rw [bind_ok_iff]
    constructor
    · rintro ⟨reading, hreading, hpair⟩
      rw [← pure_ok_iff.mp hpair]
      exact ⟨rfl, hreading⟩
    · rintro ⟨hname, hreading⟩
      exact ⟨entry.2, hreading, pure_ok_iff.mpr (Prod.ext hname rfl)⟩
  simp only [readEntries, mapM_ok_iff, hentry]

/-- The columns of an object are read if all of them that store properties are. -/
theorem exists_readEntries_iff {readColumn : ColumnMapping → Except Cause Reading}
    {target : Relationship} :
    (∃ entries, readEntries readColumn target = .ok entries) ↔
      ∀ inner ∈ target.mappings, inner.property.isSome = true →
        ∃ reading, readColumn inner = .ok reading := by
  simp only [readEntries, exists_mapM_ok_iff, bind_ok_iff, pure_ok_iff, List.mem_filter, and_imp]
  constructor
  · intro h inner hinner hstores
    obtain ⟨_, reading, hreading, -⟩ := h inner hinner hstores
    exact ⟨reading, hreading⟩
  · intro h inner hinner hstores
    obtain ⟨reading, hreading⟩ := h inner hinner hstores
    exact ⟨_, reading, hreading, rfl⟩

/-- If reading the columns of an object fails, reading one of those that store properties does. -/
theorem readEntries_error {readColumn : ColumnMapping → Except Cause Reading}
    {target : Relationship} {cause : Cause} (h : readEntries readColumn target = .error cause) :
    ∃ inner ∈ target.mappings, inner.property.isSome = true ∧ readColumn inner = .error cause := by
  obtain ⟨before, inner, after, hsplit, -, herror⟩ := mapM_error_iff.mp h
  have hinner : inner ∈ target.mappings.filter fun mapping => mapping.property.isSome :=
    hsplit ▸ List.mem_append_right before List.mem_cons_self
  obtain ⟨hmem, hstores⟩ := List.mem_filter.mp hinner
  rcases bind_error_iff.mp herror with herror | ⟨reading, -, herror⟩
  · exact ⟨inner, hmem, hstores, herror⟩
  · exact (pure_ne_error herror).elim

/-- The columns of an object are read alike if each of them that stores a property is. -/
theorem readEntries_congr {readColumn readColumn' : ColumnMapping → Except Cause Reading}
    {target : Relationship}
    (h : ∀ inner ∈ target.mappings, inner.property.isSome = true →
      readColumn' inner = readColumn inner) :
    readEntries readColumn' target = readEntries readColumn target := by
  refine mapM_congr fun inner hinner => ?_
  obtain ⟨hmem, hstores⟩ := List.mem_filter.mp hinner
  rw [h inner hmem hstores]

/-- A way to read columns that reads no fewer of them reads no fewer objects. -/
theorem readEntries_mono {readColumn readColumn' : ColumnMapping → Except Cause Reading}
    (hle : ∀ mapping reading, readColumn mapping = .ok reading →
      readColumn' mapping = .ok reading)
    {target : Relationship} {entries : List (String × Reading)}
    (h : readEntries readColumn target = .ok entries) :
    readEntries readColumn' target = .ok entries := by
  rw [readEntries_ok_iff] at h ⊢
  exact h.imp fun mapping entry hentry => ⟨hentry.1, hle _ _ hentry.2⟩

/-- A reference can be read if it is not direct, or if the object referred to can be read. -/
theorem exists_readReference_iff
    {entries : Relationship → Except Cause (List (String × Reading))} {method : ReferenceMethod}
    {isArray : Bool} {source : String} {target : Relationship} :
    (∃ reading, readReference entries method isArray source target = .ok reading) ↔
      (method.isDirect = true → ∃ found, entries target = .ok found) := by
  unfold readReference
  cases method.isDirect <;> cases isArray <;> simp [map_ok_iff]

/-- Reading a reference fails if it is direct, and the object referred to cannot be read. -/
theorem readReference_error_iff
    {entries : Relationship → Except Cause (List (String × Reading))} {method : ReferenceMethod}
    {isArray : Bool} {source : String} {target : Relationship} {cause : Cause} :
    readReference entries method isArray source target = .error cause ↔
      method.isDirect = true ∧ entries target = .error cause := by
  unfold readReference
  cases method.isDirect <;> cases isArray <;> simp [map_error_iff]

/-- A reference is read alike if it is not direct, or if the object referred to is read alike. -/
theorem readReference_congr
    {entries entries' : Relationship → Except Cause (List (String × Reading))}
    {method : ReferenceMethod} {isArray : Bool} {source : String} {target : Relationship}
    (h : method.isDirect = true → entries' target = entries target) :
    readReference entries' method isArray source target =
      readReference entries method isArray source target := by
  unfold readReference
  cases hmethod : method.isDirect with
  | false => cases isArray <;> rfl
  | true => rw [h hmethod]

/-- A way to read objects that reads no fewer of them reads no fewer references. -/
theorem readReference_mono
    {entries entries' : Relationship → Except Cause (List (String × Reading))}
    (hle : ∀ target found, entries target = .ok found → entries' target = .ok found)
    {method : ReferenceMethod} {isArray : Bool} {source : String} {target : Relationship}
    {reading : Reading} :
    readReference entries method isArray source target = .ok reading →
      readReference entries' method isArray source target = .ok reading := by
  have hmap : ∀ make : List (String × Reading) → Reading,
      (entries target).map make = .ok reading → (entries' target).map make = .ok reading := by
    intro make h
    obtain ⟨found, hfound, hmake⟩ := map_ok_iff.mp h
    exact map_ok_iff.mpr ⟨found, hle _ _ hfound, hmake⟩
  unfold readReference
  -- Only direct references read the object; a uuid does not look at its entries.
  cases method.isDirect with
  | false => cases isArray <;> exact id
  | true => cases isArray <;> exact hmap _

/-- A column can be read if what it refers to is there, and can be read where it is nested. -/
theorem exists_readColumn_iff
    {entries : Relationship → Except Cause (List (String × Reading))} {depth : Nat}
    {table : String} {mapping : ColumnMapping} :
    (∃ reading, readColumn relationships entries depth table mapping = .ok reading) ↔
      (∀ reference, mapping.column.reference = some reference →
        reference.target.name ∈ relationships.keys) ∧
      ∀ target, Nests relationships mapping target → ∃ found, entries target = .ok found := by
  unfold readColumn
  cases hreference : mapping.column.reference with
  | none => simp [not_nests_of_reference_eq_none hreference]
  | some reference =>
    simp only [Option.some.injEq, forall_eq', nests_iff_of_reference hreference,
      ← Relationships.exists_get_ok_iff]
    constructor
    · -- The target is looked up first, so there is only one that the column can nest.
      rintro ⟨reading, h⟩
      obtain ⟨target, htarget, h⟩ := bind_ok_iff.mp h
      obtain ⟨inner, hinner, -⟩ := bind_ok_iff.mp h
      refine ⟨⟨target, htarget⟩, fun target' ⟨hmethod, htarget'⟩ => ?_⟩
      obtain rfl : target = target' := Except.ok.inj (htarget.symm.trans htarget')
      exact exists_readReference_iff.mp ⟨inner, hinner⟩ hmethod
    · rintro ⟨⟨target, htarget⟩, hentries⟩
      obtain ⟨inner, hinner⟩ := exists_readReference_iff.mpr fun hmethod =>
        hentries target ⟨hmethod, htarget⟩
      -- The depth decides on the alias alone.
      by_cases hdepth : depth = 0
      · exact ⟨_, bind_ok_iff.mpr
          ⟨target, htarget, bind_ok_iff.mpr ⟨inner, hinner, if_pos hdepth⟩⟩⟩
      · exact ⟨_, bind_ok_iff.mpr
          ⟨target, htarget, bind_ok_iff.mpr ⟨inner, hinner, if_neg hdepth⟩⟩⟩

/-- If reading a column fails, what it refers to is not there, or cannot be read where it is
nested. -/
theorem readColumn_error
    {entries : Relationship → Except Cause (List (String × Reading))} {depth : Nat}
    {table : String} {mapping : ColumnMapping} {cause : Cause}
    (h : readColumn relationships entries depth table mapping = .error cause) :
    (∃ reference, mapping.column.reference = some reference ∧
      relationships.get reference.target.name = .error cause) ∨
    ∃ target, Nests relationships mapping target ∧ entries target = .error cause := by
  unfold readColumn at h
  cases hreference : mapping.column.reference with
  | none =>
    rw [hreference] at h
    cases h
  | some reference =>
    rw [hreference] at h
    -- The lookup fails, or the reference does; nothing after that can fail.
    rcases bind_error_iff.mp h with hget | ⟨target, htarget, h⟩
    · exact .inl ⟨reference, rfl, hget⟩
    · rcases bind_error_iff.mp h with hread | ⟨reading, -, h⟩
      · obtain ⟨hmethod, hentries⟩ := readReference_error_iff.mp hread
        exact .inr ⟨target, (nests_iff_of_reference hreference).mpr ⟨hmethod, htarget⟩, hentries⟩
      · split at h <;> exact (pure_ne_error h).elim

/-- A column is read alike if what it refers to is the same, and is read alike where it is
nested. -/
theorem readColumn_congr
    {entries entries' : Relationship → Except Cause (List (String × Reading))}
    {mapping : ColumnMapping}
    (hget : ∀ reference, mapping.column.reference = some reference →
      relationships'.get reference.target.name = relationships.get reference.target.name)
    (hentries : ∀ target, Nests relationships mapping target → entries' target = entries target)
    (depth : Nat) (table : String) :
    readColumn relationships' entries' depth table mapping =
      readColumn relationships entries depth table mapping := by
  unfold readColumn
  cases hreference : mapping.column.reference with
  | none => rfl
  | some reference =>
    dsimp only
    rw [hget reference hreference]
    -- The lookups agree. What is found is read alike, and its objects matter if they are nested.
    refine bind_congr_ok fun target htarget => ?_
    rw [readReference_congr fun hmethod =>
      hentries target ((nests_iff_of_reference hreference).mpr ⟨hmethod, htarget⟩)]

/-- A way to read objects that reads no fewer of them reads no fewer columns. -/
theorem readColumn_mono
    {entries entries' : Relationship → Except Cause (List (String × Reading))}
    (hle : ∀ target found, entries target = .ok found → entries' target = .ok found)
    {depth : Nat} {table : String} {mapping : ColumnMapping} {reading : Reading}
    (h : readColumn relationships entries depth table mapping = .ok reading) :
    readColumn relationships entries' depth table mapping = .ok reading := by
  unfold readColumn at h ⊢
  cases hreference : mapping.column.reference with
  | none =>
    rw [hreference] at h
    exact h
  | some reference =>
    rw [hreference] at h
    -- The lookup is the same, and what was read of the target is still read.
    obtain ⟨target, htarget, h⟩ := bind_ok_iff.mp h
    obtain ⟨inner, hinner, h⟩ := bind_ok_iff.mp h
    exact bind_ok_iff.mpr
      ⟨target, htarget, bind_ok_iff.mpr ⟨inner, readReference_mono hle hinner, h⟩⟩

/-- A reading does not change if further levels are allowed. -/
theorem read_mono {levels levels' depth : Nat} {table : String} {mapping : ColumnMapping}
    {reading : Reading} (hle : levels ≤ levels')
    (h : read relationships levels depth table mapping = .ok reading) :
    read relationships levels' depth table mapping = .ok reading := by
  induction levels generalizing levels' depth table mapping reading with
  | zero =>
    cases levels' with
    | zero => exact h
    | succ levels' =>
      -- Without levels no object can be read, so anything reads no fewer.
      unfold read at h ⊢
      exact readColumn_mono (fun target found hfound => by cases hfound) h
  | succ levels ih =>
    cases levels' with
    | zero => omega
    | succ levels' =>
      unfold read at h ⊢
      refine readColumn_mono (fun target found hfound => ?_) h
      exact readEntries_mono (fun _ _ => ih (by omega)) hfound

/-- What holds of a column with its reading whenever it holds of nested columns with theirs holds of
all columns that are read, however many objects are nested. -/
theorem read_induction_columns {p : String → ColumnMapping → Prop}
    {q : String → ColumnMapping → Reading → Prop}
    (hinner : ∀ target ∈ relationships.toList, ∀ inner ∈ target.mappings, p target.table inner)
    (hstep : ∀ {entries depth table mapping reading}, p table mapping →
      (∀ target ∈ relationships.toList, ∀ found, entries target = .ok found →
        List.Forall₂ (fun inner entry => p target.table inner ∧ inner.domainName = entry.1 ∧
          q target.table inner entry.2)
          (target.mappings.filter fun mapping => mapping.property.isSome) found) →
      readColumn relationships entries depth table mapping = .ok reading → q table mapping reading)
    {levels depth : Nat} {table : String} {mapping : ColumnMapping} {reading : Reading}
    (hcolumn : p table mapping)
    (h : read relationships levels depth table mapping = .ok reading) :
    q table mapping reading := by
  -- A level deeper, the columns are those of another relationship.
  induction levels generalizing depth table mapping reading with
  | zero =>
    unfold read at h
    exact hstep hcolumn (fun _ _ _ hfound => by cases hfound) h
  | succ levels ih =>
    unfold read at h
    refine hstep hcolumn (fun target ht found hfound => ?_) h
    rw [readEntries_ok_iff] at hfound
    refine List.forall₂_iff_get.mpr ⟨hfound.length_eq, fun i hi hi' => ?_⟩
    obtain ⟨hname, hreading⟩ := hfound.get hi hi'
    have hmem := (List.mem_filter.mp (List.get_mem _ ⟨i, hi⟩)).1
    exact ⟨hinner target ht _ hmem, hname, ih (hinner target ht _ hmem) hreading⟩

/-- What holds of the reading of a column whenever it holds of the readings of nested columns holds
of all readings, however many objects are nested. -/
theorem read_induction {p : String → ColumnMapping → Prop} {q : String → Reading → Prop}
    (hinner : ∀ target ∈ relationships.toList, ∀ inner ∈ target.mappings, p target.table inner)
    (hstep : ∀ {entries depth table mapping reading}, p table mapping →
      (∀ target ∈ relationships.toList, ∀ found, entries target = .ok found →
        ∀ entry ∈ found, q target.table entry.2) →
      readColumn relationships entries depth table mapping = .ok reading → q table reading)
    {levels depth : Nat} {table : String} {mapping : ColumnMapping} {reading : Reading}
    (hcolumn : p table mapping)
    (h : read relationships levels depth table mapping = .ok reading) : q table reading := by
  refine read_induction_columns (q := fun table _ reading => q table reading) hinner
    (fun hp hentries hread => hstep hp (fun target ht found hfound entry hentry => ?_) hread)
    hcolumn h
  obtain ⟨_, -, -, -, hq⟩ := exists_left_of_forall₂ (hentries target ht found hfound) hentry
  exact hq

end

end Sql

/-! ## Writing and binding -/

section

variable {relationships relationships' : Relationships} {mapping : ColumnMapping}

/-- Writing a column fails exactly if it refers by uuid to an object that is not there. -/
theorem Sql.input_error_iff {cause : Cause} :
    input relationships mapping = .error cause ↔
      ∃ reference, mapping.column.reference = some reference ∧
        reference.method.isImplicit = true ∧ reference.target.name ∉ relationships.keys ∧
        cause = .internalConsistency (.missingRelationship reference.target.name) := by
  unfold input
  cases hreference : mapping.column.reference with
  | none => simp
  | some reference =>
    simp only [Option.some.injEq, exists_eq_left', ReferenceMethod.isImplicit]
    -- A direct reference is written without looking at its target.
    cases reference.method.isDirect with
    | true => simp
    | false =>
      simp only [Bool.false_eq_true, if_false, bind_error_iff, pure_ne_error, and_false,
        exists_false, or_false, Relationships.get_error_iff, Bool.not_false, true_and]

/-- Binding a column in client code fails exactly if it nests an object that is not there. -/
theorem Client.argument_error_iff {owner : String} {context : Context} {cause : Cause} :
    argument relationships owner mapping context = .error cause ↔
      ∃ reference, mapping.column.reference = some reference ∧
        reference.method.isDirect = true ∧ reference.target.name ∉ relationships.keys ∧
        cause = .internalConsistency (.missingRelationship reference.target.name) := by
  -- After the lookup only texts are put together, which cannot fail.
  have hlookup : argument relationships owner mapping context = .error cause ↔
      ∃ reference, mapping.directReference? = some reference ∧
        relationships.get reference.target.name = .error cause := by
    unfold argument
    cases mapping.directReference? with
    | none => simp
    | some reference =>
      simp only [Option.some.injEq, exists_eq_left']
      rw [bind_error_iff]
      refine ⟨?_, .inl⟩
      rintro (herror | ⟨target, -, herror⟩)
      · exact herror
      · split at herror <;> exact (pure_ne_error herror).elim
  simp only [hlookup, ColumnMapping.directReference?_eq_some_iff, Relationships.get_error_iff,
    and_assoc]

/-- A column is written alike if what it refers to is the same. -/
theorem Sql.input_congr
    (hget : ∀ reference, mapping.column.reference = some reference →
      relationships'.get reference.target.name = relationships.get reference.target.name) :
    input relationships' mapping = input relationships mapping := by
  unfold input
  cases hreference : mapping.column.reference with
  | none => rfl
  | some reference =>
    dsimp only
    rw [hget reference hreference]

/-- A column is bound alike if what it refers to is the same. -/
theorem Client.argument_congr
    (hget : ∀ reference, mapping.column.reference = some reference →
      relationships'.get reference.target.name = relationships.get reference.target.name)
    (owner : String) (context : Context) :
    argument relationships' owner mapping context =
      argument relationships owner mapping context := by
  unfold argument
  cases hdirect : mapping.directReference? with
  | none => rfl
  | some reference =>
    obtain ⟨hreference, -⟩ := ColumnMapping.directReference?_eq_some_iff.mp hdirect
    dsimp only
    rw [hget reference hreference]

end

end DomainTables
