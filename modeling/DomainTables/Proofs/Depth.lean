import DomainTables.Proofs.Generators

/-!
# Depth decides the alias, and nothing else

A column is read at some depth, which is the number of objects that it is nested in. All that the
depth decides is whether a reference is named after its property: it is at depth zero (`asColumn`),
and nowhere else. So one reading serves for all greater depths (`read_succ_depth`), and the reading
at depth zero is the same under its name (`read_zero_depth`). Hence the value of a nested column is
the expression of that column from the table of its own relationship, without the alias
(`exists_entries_of_read`).
-/

namespace DomainTables.Sql

/-! ## Aliases -/

/-- The reading as a column of a result: references are named after their property. -/
def asColumn (mapping : ColumnMapping) (reading : Reading) : Reading :=
  if mapping.column.reference.isSome then .named reading (Text.snakeCase mapping.domainName)
  else reading

/-- What stands behind the expression of a column that is no part of an object. -/
def aliasOf (mapping : ColumnMapping) : String :=
  if mapping.column.reference.isSome then " AS " ++ Text.snakeCase mapping.domainName else ""

/-- The reading of a column that nests an object with the given entries, or a list of such. -/
def nestedReading (table : String) (mapping : ColumnMapping) (target : Relationship)
    (entries : List (String × Reading)) : Reading :=
  if mapping.column.isArray then
    .objects target.table (qualified table mapping.column.name) entries
  else .object target.table (qualified table mapping.column.name) entries

/-- A column of a result is written with its alias. -/
theorem render_asColumn (mapping : ColumnMapping) (reading : Reading) :
    (asColumn mapping reading).render = reading.render ++ aliasOf mapping := by
  unfold asColumn aliasOf
  split
  · rw [Reading.render, String.append_assoc]
  · rw [String.append_empty]

mutual

/-- The names that are given to a reading and to what is nested in it. -/
def Reading.aliases : Reading → List String
  | .stored _ => []
  | .uuid _ _ => []
  | .uuids _ _ => []
  | .object _ _ entries => entryAliases entries
  | .objects _ _ entries => entryAliases entries
  | .named reading name => name :: reading.aliases

/-- The names that are given to the entries of an object and to what is nested in them. -/
def entryAliases : List (String × Reading) → List String
  | [] => []
  | (_, reading) :: rest => reading.aliases ++ entryAliases rest

end

/-- No names are given in entries without names. -/
theorem entryAliases_eq_nil {entries : List (String × Reading)}
    (h : ∀ entry ∈ entries, entry.2.aliases = []) : entryAliases entries = [] := by
  induction entries with
  | nil => rw [entryAliases]
  | cons entry rest ih =>
    obtain ⟨hentry, hrest⟩ := List.forall_mem_cons.mp h
    rw [entryAliases, hentry, ih hrest, List.append_nil]

/-- A column of a result gives its own alias, besides the names that are given within. -/
theorem aliases_asColumn (mapping : ColumnMapping) (reading : Reading) :
    (asColumn mapping reading).aliases =
      (if mapping.column.reference.isSome = true then
        [Text.snakeCase mapping.domainName] else []) ++
        reading.aliases := by
  unfold asColumn
  split
  · rw [Reading.aliases, List.singleton_append]
  · rw [List.nil_append]

section

variable {relationships : Relationships}

/-! ## One column -/

section

variable {entries : Relationship → Except Cause (List (String × Reading))} {table : String}
  {mapping : ColumnMapping}

/-- Any two depths of nested columns are the same. -/
theorem readColumn_succ_depth (depth : Nat) :
    readColumn relationships entries (depth + 1) table mapping =
      readColumn relationships entries 1 table mapping := by
  simp only [readColumn, Nat.add_eq_zero_iff, one_ne_zero, and_false, if_false]

/-- A column that is not nested is read as a nested one, and is named if it is a reference. -/
theorem readColumn_zero_depth :
    readColumn relationships entries 0 table mapping =
      (readColumn relationships entries 1 table mapping).map (asColumn mapping) := by
  unfold readColumn
  cases hreference : mapping.column.reference with
  | none => simp [asColumn, hreference, Except.map]
  | some reference =>
    -- Both sides look up the target and read it alike; only the last step gives a name or not.
    have hnamed : asColumn mapping = fun reading =>
        .named reading (Text.snakeCase mapping.domainName) := by
      funext reading
      rw [asColumn, hreference, Option.isSome_some, if_pos rfl]
    dsimp only
    change _ = asColumn mapping <$> (relationships.get reference.target.name >>= _)
    rw [map_bind]
    refine bind_congr_ok fun target _ => ?_
    rw [map_bind, hnamed]
    exact bind_congr_ok fun reading _ => rfl

/-- A direct reference is read as the object that it nests, or as the list of such objects. -/
theorem readReference_of_isDirect {method : ReferenceMethod} {target : Relationship}
    (h : method.isDirect = true) :
    readReference entries method mapping.column.isArray (qualified table mapping.column.name)
        target =
      (entries target).map (nestedReading table mapping target) := by
  unfold readReference nestedReading
  rw [h]
  cases mapping.column.isArray <;> rfl

/-- A column that nests an object is read as that object, or as the list of such objects. -/
theorem readColumn_of_nests {target : Relationship} {reading : Reading}
    (hnests : Nests relationships mapping target)
    (h : readColumn relationships entries 1 table mapping = .ok reading) :
    ∃ found, entries target = .ok found ∧ reading = nestedReading table mapping target found := by
  obtain ⟨reference, hdirect, htarget⟩ := hnests
  obtain ⟨hreference, hmethod⟩ := ColumnMapping.directReference?_eq_some_iff.mp hdirect
  unfold readColumn at h
  rw [hreference] at h
  obtain ⟨target', htarget', h⟩ := bind_ok_iff.mp h
  -- The lookup has one result, so it is the target that the column nests.
  obtain rfl : target' = target := Except.ok.inj (htarget'.symm.trans htarget)
  obtain ⟨inner, hinner, h⟩ := bind_ok_iff.mp h
  rw [if_neg one_ne_zero] at h
  obtain rfl := pure_ok_iff.mp h
  rw [readReference_of_isDirect hmethod] at hinner
  obtain ⟨found, hfound, rfl⟩ := map_ok_iff.mp hinner
  exact ⟨found, hfound, rfl⟩

/-- A nested column gives no names, unless what is nested in it does. -/
theorem aliases_of_readColumn {reading : Reading}
    (hentries : ∀ target found, entries target = .ok found →
      ∀ entry ∈ found, entry.2.aliases = [])
    (h : readColumn relationships entries 1 table mapping = .ok reading) :
    reading.aliases = [] := by
  unfold readColumn at h
  cases hreference : mapping.column.reference with
  | none =>
    rw [hreference] at h
    cases h
    rfl
  | some reference =>
    rw [hreference] at h
    obtain ⟨target, -, h⟩ := bind_ok_iff.mp h
    obtain ⟨inner, hinner, h⟩ := bind_ok_iff.mp h
    rw [if_neg one_ne_zero] at h
    obtain rfl := pure_ok_iff.mp h
    -- A uuid gives no names. A nested object gives those of its entries, alone or in a list.
    unfold readReference at hinner
    split at hinner
    · cases hinner
      rfl
    · cases hinner
      rfl
    · obtain ⟨found, hfound, rfl⟩ := map_ok_iff.mp hinner
      exact entryAliases_eq_nil (hentries target found hfound)
    · obtain ⟨found, hfound, rfl⟩ := map_ok_iff.mp hinner
      exact entryAliases_eq_nil (hentries target found hfound)

end

/-! ## All levels -/

variable {levels : Nat} {table : String} {mapping : ColumnMapping}

/-- A column is read alike at all depths at which it is nested. -/
theorem read_succ_depth (depth : Nat) :
    read relationships levels (depth + 1) table mapping =
      read relationships levels 1 table mapping := by
  induction levels generalizing depth table mapping with
  | zero =>
    unfold read
    exact readColumn_succ_depth depth
  | succ levels ih =>
    unfold read
    rw [readColumn_succ_depth depth]
    refine readColumn_congr (fun _ _ => rfl) (fun target _ => ?_) 1 table
    -- The columns within are one deeper on both sides, so both are read as at depth one.
    exact readEntries_congr fun inner _ _ => (ih (depth + 1)).trans (ih 1).symm

/-- A column that is not nested is read as a nested one, and is named if it is a reference. -/
theorem read_zero_depth :
    read relationships levels 0 table mapping =
      (read relationships levels 1 table mapping).map (asColumn mapping) := by
  cases levels with
  | zero =>
    unfold read
    exact readColumn_zero_depth
  | succ levels =>
    unfold read
    rw [readColumn_zero_depth]
    congr 1
    refine readColumn_congr (fun _ _ => rfl) (fun target _ => ?_) 1 table
    exact readEntries_congr fun inner _ _ => (read_succ_depth 1).symm

/-- A nested column gives no names, however many objects are nested in it. -/
theorem aliases_of_read {reading : Reading}
    (h : read relationships levels 1 table mapping = .ok reading) : reading.aliases = [] := by
  induction levels generalizing table mapping reading with
  | zero =>
    unfold read at h
    exact aliases_of_readColumn (fun _ _ hfound => by cases hfound) h
  | succ levels ih =>
    unfold read at h
    refine aliases_of_readColumn (fun target found hfound entry hentry => ?_) h
    obtain ⟨inner, -, -, hinner⟩ :=
      exists_left_of_forall₂ (readEntries_ok_iff.mp hfound) hentry
    -- What is nested is read at depth two, which is read as depth one.
    exact ih ((read_succ_depth 1).symm.trans hinner)

/-- What a nested object is made of: for each column that stores a property, the reading of the
column where it is nested. -/
theorem exists_entries_of_read {target : Relationship} {reading : Reading}
    (hnests : Nests relationships mapping target)
    (h : read relationships levels 1 table mapping = .ok reading) :
    ∃ entries, List.Forall₂ (fun inner entry => inner.domainName = entry.1 ∧
        read relationships levels 1 target.table inner = .ok entry.2)
      (target.mappings.filter fun mapping => mapping.property.isSome) entries ∧
      reading = nestedReading table mapping target entries := by
  cases levels with
  | zero =>
    unfold read at h
    obtain ⟨found, hfound, -⟩ := readColumn_of_nests hnests h
    cases hfound
  | succ levels =>
    unfold read at h
    obtain ⟨found, hfound, hreading⟩ := readColumn_of_nests hnests h
    refine ⟨found, (readEntries_ok_iff.mp hfound).imp fun inner entry hentry => ?_, hreading⟩
    -- The entry is read with one level less, and one object further in.
    exact ⟨hentry.1, read_mono (Nat.le_succ levels) ((read_succ_depth 1).symm.trans hentry.2)⟩

/-! ## Expressions -/

/-- A column is selected with its alias, and else as where it is nested. -/
theorem selectAt_zero :
    selectAt relationships 0 table mapping =
      (selectAt relationships 1 table mapping).map (· ++ aliasOf mapping) := by
  unfold selectAt
  rw [read_zero_depth]
  cases read relationships relationships.size 1 table mapping with
  | error cause => rfl
  | ok reading => exact congrArg Except.ok (render_asColumn mapping reading)

end

/-- The depth at which a column is read decides whether its expression has an alias, and nothing
else. Where the column is nested, its expression is the same at all depths. Where it is not, the
alias comes behind that expression if the column is a reference, and nothing does if it is none. If
reading fails, it fails alike at all depths. No other aliases are given: the entries of a nested
object are, in order, the expressions of its columns from its own table, less their aliases. If the
column leads into no cycle of nested objects, there are levels enough at all depths. -/
theorem select_by_depth (relationships : Relationships) (table : String) (mapping : ColumnMapping) :
    (∀ depth, 0 < depth →
      selectAt relationships depth table mapping = selectAt relationships 1 table mapping) ∧
    selectAt relationships 0 table mapping =
      (selectAt relationships 1 table mapping).map (· ++ aliasOf mapping) ∧
    (∀ levels depth reading, read relationships levels depth table mapping = .ok reading →
      reading.aliases =
        if depth = 0 ∧ mapping.column.reference.isSome = true then
          [Text.snakeCase mapping.domainName]
        else []) ∧
    (∀ target text, Nests relationships mapping target →
      selectAt relationships 1 table mapping = .ok text →
      ∃ entries, List.Forall₂ (fun inner entry => inner.domainName = entry.1 ∧
          select relationships target.table inner = .ok (entry.2.render ++ aliasOf inner))
        (target.mappings.filter fun mapping => mapping.property.isSome) entries ∧
        text = (nestedReading table mapping target entries).render) ∧
    (NestsWithoutCycle relationships mapping → ∀ levels, relationships.size ≤ levels → ∀ depth,
      read relationships levels depth table mapping =
        read relationships relationships.size depth table mapping) := by
  refine ⟨?_, selectAt_zero, ?_, ?_, fun hacyclic levels hle depth =>
    read_eq_of_le hacyclic.length_le_size hle⟩
  · -- A nested column has the same reading at all depths.
    intro depth hdepth
    obtain ⟨depth, rfl⟩ := Nat.exists_eq_add_one_of_ne_zero hdepth.ne'
    rw [selectAt, selectAt, read_succ_depth]
  · -- Its reading has no alias, so one that is not nested has its own alias at most.
    intro levels depth reading h
    cases depth with
    | zero =>
      rw [read_zero_depth] at h
      obtain ⟨inner, hinner, rfl⟩ := map_ok_iff.mp h
      rw [aliases_asColumn, aliases_of_read hinner, List.append_nil]
      simp only [true_and]
    | succ depth =>
      rw [read_succ_depth] at h
      rw [aliases_of_read h, if_neg fun hzero => Nat.succ_ne_zero depth hzero.1]
  · -- An entry is the expression of the column without the alias that `select` gives it.
    intro target text hnests h
    obtain ⟨reading, hreading, rfl⟩ := map_ok_iff.mp h
    obtain ⟨entries, hentries, rfl⟩ := exists_entries_of_read hnests hreading
    refine ⟨entries, hentries.imp fun inner entry hentry => ⟨hentry.1, ?_⟩, rfl⟩
    rw [select, selectAt_zero, selectAt, hentry.2]
    rfl

/-- On the railway, the address of a station is selected with its alias, and has none where it is
nested in two objects. There its entries are what is selected from the table of addresses, and have
none either. -/
theorem select_by_depth_railway :
    ∃ compilation address target text, compile {} railway = .ok compilation ∧
      (∃ station ∈ compilation.relationships.toList, address ∈ station.mappings) ∧
      NestsWithoutCycle compilation.relationships address ∧
      Nests compilation.relationships address target ∧
      select compilation.relationships "station" address = .ok (text ++ " AS address") ∧
      selectAt compilation.relationships 2 "station" address = .ok text ∧
      (∃ entries, List.Forall₂ (fun inner entry => inner.domainName = entry.1 ∧
          select compilation.relationships target.table inner =
            .ok (entry.2.render ++ aliasOf inner))
        (target.mappings.filter fun mapping => mapping.property.isSome) entries ∧
        text = (nestedReading "station" address target entries).render) ∧
      ∃ reading, reading.aliases = [] ∧ ∀ levels, compilation.relationships.size ≤ levels →
        read compilation.relationships levels 2 "station" address = .ok reading := by
  obtain ⟨compilation, station, address, target, h, hstation, haddress, hname, hdirect, hget, -,
    hacyclic, hkeys, -⟩ := exists_address_of_railway
  obtain ⟨direct, hdirect, hnamed⟩ := Option.map_eq_some_iff.mp hdirect
  have hnests : Nests compilation.relationships address target :=
    ⟨direct, hdirect, hnamed ▸ hget⟩
  have halias : aliasOf address = " AS address" := by
    obtain ⟨hreference, -⟩ := ColumnMapping.directReference?_eq_some_iff.mp hdirect
    rw [aliasOf, hreference, hname, Option.isSome_some, if_pos rfl]
    decide +kernel
  -- The texts are not computed. One is known to be there, and the theorem tells the others from
  -- it.
  obtain ⟨hdepth, hzero, haliases, hentries, hlevels⟩ :=
    select_by_depth compilation.relationships "station" address
  obtain ⟨found, hfound⟩ := (exists_select_iff hacyclic "station").mpr hkeys
  obtain ⟨text, htext, rfl⟩ := map_ok_iff.mp (hzero.symm.trans hfound)
  have htwo := (hdepth 2 Nat.two_pos).trans htext
  obtain ⟨reading, hreading, -⟩ := map_ok_iff.mp htwo
  exact ⟨compilation, address, target, text, h, ⟨station, hstation, haddress⟩, hacyclic, hnests,
    halias ▸ hfound, htwo, hentries target text hnests htext, reading,
    haliases _ 2 reading hreading, fun levels hle => (hlevels hacyclic levels hle 2).trans hreading⟩

end DomainTables.Sql
