import DomainTables.Proofs.Nesting
import DomainTables.Proofs.Words

/-!
# Names of tables

A table is named after its object in snake case, so two objects share a table exactly if their names
have the same words (`Text.snakeCase_eq_iff`). Nothing compares the names of tables, and yet no
column refers to a table whose name is taken twice. For resolution goes by words alone: of two names
with the same words, one matches whenever the other does, and then neither is the answer
(`eq_of_resolve_of_words`).

Hence the table that a column refers to is the only one of its name, and since no object refers to
itself, it is not called like the table of the column either. So a subquery that reads the column
never takes over the qualifier of the column that it is matched with (`table_of_reference_unique`).
Tables that share a name are those of objects that nothing refers to (`tableNames_nodup_iff`).
-/

namespace DomainTables

/-! ## Resolution goes by words -/

/-- A name that resolution finds is the only one with its words among the names it searches. -/
theorem eq_of_resolve_of_words {names : List String} {maxDrops : Nat}
    {property name other : String} (h : resolve names maxDrops property = .resolved name)
    (hother : other ∈ names) (hwords : Text.words other = Text.words name) : other = name := by
  obtain ⟨isMatch, hmatch⟩ := exists_match_of_resolve h
  have hsame : Name.ofString other = Name.ofString name := congrArg Name.mk hwords
  exact (hmatch other).mp ⟨hother, hsame ▸ ((hmatch name).mpr rfl).2⟩

/-- The object that a property refers to is the only known one with the words of its name. -/
theorem eq_of_classify_of_words {known : Universe} {limits : Limits} {owner : String}
    {property : Property} {reference : ColumnReference}
    (h : classify known limits owner property = .ok (some reference)) {name : String}
    (hname : name ∈ known.keys) (hwords : Text.words name = Text.words reference.target.name) :
    name = reference.target.name := by
  obtain ⟨names, text, hnames, hresolve⟩ := exists_resolve_of_classify h
  exact eq_of_resolve_of_words hresolve (hnames name hname) hwords

/-! ## Tables that columns refer to -/

section

variable {known : Universe} {limits : Limits} {relationships : Relationships}

/-- A table is named after its object. -/
theorem table_of_derive {object : DomainObject} {relationship : Relationship}
    (h : derive known limits object = .ok relationship) :
    relationship.table = Text.snakeCase relationship.domainObject := by
  obtain ⟨-, _, _, _, -, -, -, rfl⟩ := derive_ok_iff.mp h
  rfl

variable (hderive : deriveAll known limits = .ok relationships)

include hderive

/-- Tables have one name exactly if the names of their objects have the same words. -/
theorem table_eq_iff {relationship other : Relationship}
    (hr : relationship ∈ relationships.toList) (hother : other ∈ relationships.toList) :
    relationship.table = other.table ↔
      Text.words relationship.domainObject = Text.words other.domainObject := by
  have htable : ∀ found ∈ relationships.toList,
      found.table = Text.snakeCase found.domainObject := by
    intro found hfound
    obtain ⟨object, -, hfrom⟩ := exists_left_of_forall₂ (deriveAll_ok_iff.mp hderive) hfound
    exact table_of_derive hfrom
  rw [htable _ hr, htable _ hother, Text.snakeCase_eq_iff]

/-- A table that a column refers to is the only one of its name. -/
theorem eq_target_of_table_eq {relationship target other : Relationship}
    (hr : relationship ∈ relationships.toList) {mapping : ColumnMapping}
    (hmapping : mapping ∈ relationship.mappings) {reference : ColumnReference}
    (hreference : mapping.column.reference = some reference)
    (hget : relationships.get reference.target.name = .ok target)
    (hother : other ∈ relationships.toList) (htable : other.table = target.table) :
    other = target := by
  obtain ⟨object, -, hfrom⟩ := exists_left_of_forall₂ (deriveAll_ok_iff.mp hderive) hr
  obtain ⟨property, -, hclassify⟩ := exists_property_of_derive hfrom hmapping hreference
  obtain ⟨ht, hname⟩ := Relationships.get_ok_iff.mp hget
  have hkey : other.domainObject ∈ known.keys := by
    rw [← keys_of_deriveAll hderive]
    exact Keyed.key_mem_keys hother
  -- Tables named alike come from names with the same words. Another such name would match at the
  -- same level, and the reference would have been refused as ambiguous.
  have hwords := (table_eq_iff hderive hother ht).mp htable
  rw [hname] at hwords
  exact Keyed.eq_of_key_eq hother ht
    ((eq_of_classify_of_words hclassify hkey hwords).trans hname.symm)

/-- In relationships that are in order, a column refers to a table of another name than its own. -/
theorem table_ne_of_isOrderedBy {order : List String} (horder : relationships.IsOrderedBy order)
    {relationship target : Relationship} (hr : relationship ∈ relationships.toList)
    {mapping : ColumnMapping} (hmapping : mapping ∈ relationship.mappings)
    {reference : ColumnReference} (hreference : mapping.column.reference = some reference)
    (hget : relationships.get reference.target.name = .ok target) :
    target.table ≠ relationship.table := by
  intro htable
  have hself := eq_target_of_table_eq hderive hr hmapping hreference hget hr htable.symm
  have hlt := horder.idxOf_lt hr hmapping hreference
  rw [← (Relationships.get_ok_iff.mp hget).2, hself] at hlt
  exact Nat.lt_irrefl _ hlt

end

/-! ## Qualifiers in subqueries -/

namespace Sql

/-- A subquery that reads from `table` is matched with a column of the row `outer` around it, and
does not call a row of its own `outer`. What it is matched with is written before the alias of
joined elements is bound, so the alias makes no difference. -/
def IsMatchedWith (outer table source : String) : Prop :=
  table ≠ outer ∧ ∃ column, source = qualified outer column

mutual

/-- Every subquery of a reading is matched with the row around it. Around the whole reading that is
the row `outer`, and around the entries of a nested object the row of the nested table. -/
def Reading.IsCorrelated (outer : String) : Reading → Prop
  | .stored source => ∃ column, source = qualified outer column
  | .uuid table source => IsMatchedWith outer table source
  | .uuids table source => IsMatchedWith outer table source
  | .object table source entries => IsMatchedWith outer table source ∧ AreCorrelated table entries
  | .objects table source entries => IsMatchedWith outer table source ∧ AreCorrelated table entries
  | .named reading _ => reading.IsCorrelated outer

/-- Every subquery of the entries of an object is matched with the row around it. -/
def AreCorrelated (outer : String) : List (String × Reading) → Prop
  | [] => True
  | (_, reading) :: rest => reading.IsCorrelated outer ∧ AreCorrelated outer rest

end

/-- Entries are correlated if their readings are. -/
theorem areCorrelated_iff {outer : String} {entries : List (String × Reading)} :
    AreCorrelated outer entries ↔ ∀ entry ∈ entries, entry.2.IsCorrelated outer := by
  induction entries with
  | nil => simp [AreCorrelated]
  | cons entry rest ih => simp [AreCorrelated, ih]

/-- The reading of a reference is correlated if it is matched with the row around it, and if the
readings of nested columns are correlated. -/
theorem isCorrelated_of_readReference
    {entries : Relationship → Except Cause (List (String × Reading))} {method : ReferenceMethod}
    {isArray : Bool} {outer source : String} {target : Relationship} {reading : Reading}
    (hmatched : IsMatchedWith outer target.table source)
    (hentries : ∀ found, entries target = .ok found →
      ∀ entry ∈ found, entry.2.IsCorrelated target.table)
    (h : readReference entries method isArray source target = .ok reading) :
    reading.IsCorrelated outer := by
  unfold readReference at h
  -- A uuid is read without descending; what is nested is matched with the row it is nested in.
  cases hmethod : method.isDirect with
  | false =>
    rw [hmethod] at h
    cases isArray <;> cases h <;> exact hmatched
  | true =>
    rw [hmethod] at h
    cases isArray <;> obtain ⟨found, hfound, rfl⟩ := map_ok_iff.mp h
    · exact ⟨hmatched, areCorrelated_iff.mpr (hentries found hfound)⟩
    · exact ⟨hmatched, areCorrelated_iff.mpr (hentries found hfound)⟩

/-- The reading of a column is correlated if the table that it refers to has another name than the
row around it, and if the readings of nested columns are correlated. -/
theorem isCorrelated_of_readColumn {relationships : Relationships}
    {entries : Relationship → Except Cause (List (String × Reading))} {depth : Nat}
    {table : String} {mapping : ColumnMapping} {reading : Reading}
    (hapart : ∀ reference target, mapping.column.reference = some reference →
      relationships.get reference.target.name = .ok target → target.table ≠ table)
    (hentries : ∀ target ∈ relationships.toList, ∀ found, entries target = .ok found →
      ∀ entry ∈ found, entry.2.IsCorrelated target.table)
    (h : readColumn relationships entries depth table mapping = .ok reading) :
    reading.IsCorrelated table := by
  unfold readColumn at h
  cases hreference : mapping.column.reference with
  | none =>
    rw [hreference] at h
    cases h
    exact ⟨_, rfl⟩
  | some reference =>
    rw [hreference] at h
    obtain ⟨target, hget, h⟩ := bind_ok_iff.mp h
    obtain ⟨inner, hinner, h⟩ := bind_ok_iff.mp h
    have hcorrelated : inner.IsCorrelated table :=
      isCorrelated_of_readReference ⟨hapart reference target hreference hget, _, rfl⟩
        (hentries target (Relationships.get_ok_iff.mp hget).1) hinner
    -- At depth zero the reading gets a name, which changes no subquery.
    split at h <;> cases h <;> exact hcorrelated

end Sql

/-- The table that a column of a compilation refers to is the only one of its name, and it has
another name than the table of the column. So the expression that reads the column from its own
table, be it nested or not, leaves every qualifier to the row that is meant by it. -/
theorem table_of_reference_unique {limits : Limits} {objects : List DomainObject}
    {compilation : Compilation} (h : compile limits objects = .ok compilation) :
    ∀ relationship ∈ compilation.relationships.toList, ∀ mapping ∈ relationship.mappings,
      (∀ reference, mapping.column.reference = some reference →
        ∃ target, compilation.relationships.get reference.target.name = .ok target ∧
          target.table ≠ relationship.table ∧
          ∀ other ∈ compilation.relationships.toList, other.table = target.table →
            other = target) ∧
      ∀ depth, ∃ reading : Sql.Reading,
        Sql.selectAt compilation.relationships depth relationship.table mapping =
          .ok reading.render ∧
        reading.IsCorrelated relationship.table := by
  obtain ⟨known, -, hderive, hcompiled⟩ := compile_ok_iff.mp h
  have hclosed := (Relationships.provisioningOrder_ok_iff.mp hcompiled).1
  have horder := Relationships.isOrderedBy_of_provisioningOrder hcompiled
  intro relationship hr mapping hmapping
  refine ⟨fun reference hreference => ?_, fun depth => ?_⟩
  · obtain ⟨target, hget⟩ := Sql.exists_get_of_isClosed hclosed hr hmapping hreference
    refine ⟨target, hget, ?_, fun other hother htable => ?_⟩
    · exact table_ne_of_isOrderedBy hderive horder hr hmapping hreference hget
    · exact eq_target_of_table_eq hderive hr hmapping hreference hget hother htable
  · obtain ⟨reading, hread⟩ :=
      Sql.exists_read_of_isOrderedBy hclosed horder hr hmapping depth relationship.table
    have hlevels := hread _ (Nat.le_refl _)
    refine ⟨reading, map_ok_iff.mpr ⟨reading, hlevels, rfl⟩, ?_⟩
    -- A nested column is read from the table of its own relationship, like the column itself.
    refine Sql.read_induction
      (p := fun table inner => ∃ owner ∈ compilation.relationships.toList,
        owner.table = table ∧ inner ∈ owner.mappings)
      (q := fun table nested => nested.IsCorrelated table)
      (fun target ht inner hinner => ⟨target, ht, rfl, hinner⟩) (fun hinner hentries hcolumn => ?_)
      ⟨relationship, hr, rfl, hmapping⟩ hlevels
    obtain ⟨owner, howner, rfl, hinner⟩ := hinner
    refine Sql.isCorrelated_of_readColumn (fun reference target hreference hget => ?_) hentries
      hcolumn
    exact table_ne_of_isOrderedBy hderive horder howner hinner hreference hget

/-- On the railway, no table that a column refers to is called like the table of the column. -/
theorem table_of_reference_unique_railway :
    ∃ compilation, compile {} railway = .ok compilation ∧
      ∀ relationship ∈ compilation.relationships.toList, ∀ mapping ∈ relationship.mappings,
        ∀ reference, mapping.column.reference = some reference →
          ∃ target, compilation.relationships.get reference.target.name = .ok target ∧
            target.table ≠ relationship.table := by
  obtain ⟨compilation, h⟩ := exists_compile_railway
  refine ⟨compilation, h, fun relationship hr mapping hmapping reference hreference => ?_⟩
  obtain ⟨hunique, -⟩ := table_of_reference_unique h relationship hr mapping hmapping
  obtain ⟨target, hget, htable, -⟩ := hunique reference hreference
  exact ⟨target, hget, htable⟩

/-! ## Tables that share a name -/

/-- The tables of a compilation are named after the listed objects, one by one. -/
theorem map_table_of_compile {limits : Limits} {objects : List DomainObject}
    {compilation : Compilation} (h : compile limits objects = .ok compilation) :
    compilation.relationships.toList.map (·.table) =
      objects.map fun object => Text.snakeCase object.name := by
  obtain ⟨known, rfl, hderive, -⟩ := compile_ok_iff.mp h
  refine (map_eq_map_of_forall₂ (fun object relationship hfrom => ?_)
    (deriveAll_ok_iff.mp hderive)).symm
  rw [table_of_derive hfrom, domainObject_of_derive hfrom]

/-- The tables of a compilation have distinct names exactly if the names of the listed objects
differ in their words. An object whose table shares its name with another one is referred to by no
column. -/
theorem tableNames_nodup_iff {limits : Limits} {objects : List DomainObject}
    {compilation : Compilation} (h : compile limits objects = .ok compilation) :
    ((compilation.relationships.toList.map (·.table)).Nodup ↔
      objects.Pairwise fun object other => Text.words object.name ≠ Text.words other.name) ∧
    ∀ relationship ∈ compilation.relationships.toList,
      ∀ other ∈ compilation.relationships.toList,
        other ≠ relationship → other.table = relationship.table →
        ∀ referrer ∈ compilation.relationships.toList, ∀ mapping ∈ referrer.mappings,
          ∀ reference, mapping.column.reference = some reference →
            reference.target.name ≠ relationship.domainObject := by
  obtain ⟨known, -, hderive, -⟩ := compile_ok_iff.mp h
  refine ⟨?_, ?_⟩
  · simp only [map_table_of_compile h, List.Nodup, List.pairwise_map, ne_eq,
      Text.snakeCase_eq_iff]
  · intro relationship hr other hother hne htable referrer hreferrer mapping hmapping reference
      hreference hname
    have hget : compilation.relationships.get reference.target.name = .ok relationship :=
      Relationships.get_ok_iff.mpr ⟨hr, hname.symm⟩
    exact hne (eq_target_of_table_eq hderive hreferrer hmapping hreference hget hother htable)

/-- The tables of the railway have distinct names. -/
theorem tableNames_nodup_railway :
    ∃ compilation, compile {} railway = .ok compilation ∧
      (compilation.relationships.toList.map (·.table)).Nodup := by
  obtain ⟨compilation, h⟩ := exists_compile_railway
  exact ⟨compilation, h, (tableNames_nodup_iff h).1.mpr (by decide +kernel)⟩

/-- Two objects whose names differ in capitals only. -/
def servers : List DomainObject := [
  (DomainObject.bare "HttpServer" .literal).addProperty (.ofType "host" .string),
  (DomainObject.bare "HTTPServer" .literal).addProperty (.ofType "port" .number)]

/-- The servers compile, and both are stored in the same table. -/
theorem tableNames_of_servers :
    ∃ compilation, compile {} servers = .ok compilation ∧
      compilation.relationships.toList.map (·.table) = ["http_server", "http_server"] ∧
      ¬ (compilation.relationships.toList.map (·.table)).Nodup := by
  have hcompiles : (compile {} servers).toBool = true := by decide +kernel
  obtain ⟨compilation, h⟩ := exists_ok_of_toBool hcompiles
  have htables : compilation.relationships.toList.map (·.table) =
      ["http_server", "http_server"] := by
    rw [map_table_of_compile h]
    decide +kernel
  refine ⟨compilation, h, htables, ?_⟩
  rw [htables]
  decide

end DomainTables
