import DomainTables.Proofs.ArrayOrder
import DomainTables.Proofs.Brackets

/-!
# Well bracketed expressions

Every expression is filled into a template from names, parameters and other expressions. The names
of tables, columns and properties stand in it as they are, or in another case, which brings in
neither brackets nor quotes. So if the names have none, all brackets and quotes are those of the
templates.

There is a lemma for each template: it is well bracketed if what it is filled with is. A nested
object is written into the template of its column, however deep, and moved to the right there, so
that a reading is well bracketed by induction on the levels of nesting (`Sql.isBracketed_of_read`).
Writing a column takes one template at most. Client code takes one for the rows of a nested object
(`Client.isBracketed_storedRows`), and another one around that where the value may be missing.
-/

namespace DomainTables

open Text (Spans SpansAll IsBracketed IsUndelimited)

/-! ## Names -/

/-- A condition holds of the names of the column and of its property. -/
structure ColumnMapping.HasNames (p : String → Prop) (mapping : ColumnMapping) : Prop where
  /-- The name of the column. -/
  column : p mapping.column.name
  /-- The name of the property. -/
  property : ∀ property ∈ mapping.property, p property.name

/-- A condition holds of the names of the tables, the columns and the properties. -/
structure Relationships.HasNames (p : String → Prop) (relationships : Relationships) : Prop where
  /-- The names of tables. -/
  table : ∀ relationship ∈ relationships.toList, p relationship.table
  /-- The names of columns and properties. -/
  mapping : ∀ relationship ∈ relationships.toList, ∀ mapping ∈ relationship.mappings,
    mapping.HasNames p

instance (p : String → Prop) [DecidablePred p] (mapping : ColumnMapping) :
    Decidable (mapping.HasNames p) :=
  decidable_of_iff (p mapping.column.name ∧ ∀ property ∈ mapping.property, p property.name)
    ⟨fun h => ⟨h.1, h.2⟩, fun h => ⟨h.column, h.property⟩⟩

instance (p : String → Prop) [DecidablePred p] (relationships : Relationships) :
    Decidable (relationships.HasNames p) :=
  decidable_of_iff ((∀ relationship ∈ relationships.toList, p relationship.table) ∧
      ∀ relationship ∈ relationships.toList, ∀ mapping ∈ relationship.mappings,
        mapping.HasNames p)
    ⟨fun h => ⟨h.1, h.2⟩, fun h => ⟨h.table, h.mapping⟩⟩

/-- A condition on the names of a column holds of its name on the side of the domain. -/
theorem ColumnMapping.HasNames.domainName {p : String → Prop} {mapping : ColumnMapping}
    (h : mapping.HasNames p) : p mapping.domainName := by
  unfold ColumnMapping.domainName
  split
  · next property hproperty => exact h.property property hproperty
  · exact h.column

/-- Brackets and quotes are marks. -/
theorem mem_marks_of_mem_delimiters {c : Char} (h : c ∈ Text.delimiters) :
    c ∈ Text.marks ∧ c ≠ '_' := by
  have hall : (Text.delimiters.all fun c => decide (c ∈ Text.marks ∧ c ≠ '_')) = true := by
    decide
  exact of_decide_eq_true (List.all_eq_true.mp hall c h)

/-- There are no brackets and quotes in snake case. -/
theorem isUndelimited_snakeCase (name : String) : IsUndelimited (Text.snakeCase name) := by
  intro c hc hdelimiter
  obtain ⟨hmark, hne⟩ := mem_marks_of_mem_delimiters hdelimiter
  exact Text.mark_notMem_snakeCase hmark hne name hc

/-- There are no brackets and quotes in camel case. -/
theorem isUndelimited_camelCase (name : String) : IsUndelimited (Text.camelCase name) := by
  intro c hc hdelimiter
  obtain ⟨hmark, -⟩ := mem_marks_of_mem_delimiters hdelimiter
  exact Text.mark_notMem_camelCase hmark name hc

namespace Sql

/-! ## Fragments -/

/-- A qualified column has no brackets if its parts have none. -/
theorem isUndelimited_qualified {table column : String} (htable : IsUndelimited table)
    (hcolumn : IsUndelimited column) : IsUndelimited (qualified table column) :=
  (htable.append (by decide)).append hcolumn

/-- A parameter has no brackets. -/
theorem isUndelimited_parameter (mapping : ColumnMapping) :
    IsUndelimited (":" ++ parameterName mapping) := by
  have hname : IsUndelimited (parameterName mapping) := by
    unfold parameterName
    split <;> exact isUndelimited_camelCase _
  exact IsUndelimited.append (by decide) hname

/-- A subquery of two lines is well bracketed if both lines are. -/
theorem isBracketed_subquery {first second : String} (hfirst : IsBracketed first)
    (hsecond : IsBracketed second) : IsBracketed (Text.ofLines ["(", first, second, ")"]) := by
  have hopen : Spans [] "(" [.round] := by decide
  have hclose : Spans [.round] ")" [] := by decide
  exact SpansAll.ofLines (.cons hopen (.cons (hfirst.spans _) (.cons (hsecond.spans _)
    (.cons hclose .nil))))

section

variable {table source : String} (htable : IsUndelimited table)

include htable

/-- The clause that sorts has no brackets. -/
theorem isUndelimited_elementOrder : IsUndelimited (elementOrder table) := by
  have halias : IsUndelimited (elementsAlias table) := htable.append (by decide)
  exact IsUndelimited.append (by decide) (isUndelimited_qualified halias (by decide))

/-- Joining a table with elements is well bracketed. -/
theorem isBracketed_joinElements {key : String} (hsource : IsBracketed source)
    (hkey : IsUndelimited key) : IsBracketed (joinElements table source key) := by
  have halias : IsUndelimited (elementsAlias table) := htable.append (by decide)
  have hfrom : IsUndelimited ("FROM " ++ table) := IsUndelimited.append (by decide) htable
  have hunnest : IsBracketed ("  JOIN unnest(" ++ source ++ ") WITH ORDINALITY") :=
    hsource.between (show Spans [] _ [.round] by decide) (by decide)
  have hcolumns : IsBracketed
      ("    AS " ++ elementsAlias table ++ " (" ++ key ++ ", " ++ orderIndex ++ ")") := by
    have hfront : IsUndelimited ("    AS " ++ elementsAlias table) :=
      IsUndelimited.append (by decide) halias
    have hinside : IsUndelimited (key ++ ", " ++ orderIndex) :=
      (hkey.append (by decide)).append (by decide)
    -- Names hold no bracket, so each pair stands in one line and closes there.
    have hparenthesis : IsBracketed (" (" ++ (key ++ ", " ++ orderIndex) ++ ")") :=
      hinside.isBracketed.between (show Spans [] _ [.round] by decide) (by decide)
    have hall := hfront.isBracketed.append hparenthesis
    simp only [String.append_assoc] at hall ⊢
    exact hall
  have hcondition : IsUndelimited
      ("    ON " ++ qualified table key ++ " = " ++ qualified (elementsAlias table) key) :=
    ((IsUndelimited.append (by decide) (isUndelimited_qualified htable hkey)).append
      (by decide)).append (isUndelimited_qualified halias hkey)
  refine (SpansAll.of_forall ?_ []).ofLines
  simp only [List.forall_mem_cons]
  exact ⟨hfrom.isBracketed, hunnest, hcolumns, hcondition.isBracketed, List.forall_mem_nil _⟩

/-- Aggregating a column of rows that are joined with elements is well bracketed, if the end of its
line closes the two parentheses that are open. -/
theorem isBracketed_aggregate {column key ending : String} (hsource : IsBracketed source)
    (hcolumn : IsUndelimited column) (hkey : IsUndelimited key)
    (hending : Spans [.round, .round] ending []) :
    IsBracketed (Text.ofLines [
      "(",
      "  SELECT COALESCE(array_agg(" ++ qualified table column ++ " " ++ elementOrder table ++
        ending,
      "  " ++ joinElements table source key,
      ")"]) := by
  have hrows : IsUndelimited (qualified table column ++ " " ++ elementOrder table) :=
    ((isUndelimited_qualified htable hcolumn).append (by decide)).append
      (isUndelimited_elementOrder htable)
  have hselect := hrows.isBracketed.between
    (show Spans [] "  SELECT COALESCE(array_agg(" [.round, .round] by decide) hending
  have hjoin := (show IsBracketed "  " by decide).append
    (isBracketed_joinElements htable hsource hkey)
  simp only [String.append_assoc] at hselect ⊢
  exact isBracketed_subquery hselect hjoin

/-- The row that a column refers to is selected without brackets. -/
theorem isUndelimited_row (hsource : IsUndelimited source) : IsUndelimited
    ("  FROM " ++ table ++ " WHERE " ++ qualified table "id" ++ " = " ++ source) :=
  ((((IsUndelimited.append (by decide) htable).append (by decide)).append
    (isUndelimited_qualified htable (by decide))).append (by decide)).append hsource

end

/-! ## Reading -/

/-- A JSON object is well bracketed if its entries are. -/
theorem isBracketed_jsonObject {entries : List String} (h : ∀ entry ∈ entries, IsBracketed entry) :
    IsBracketed (jsonObject entries) := by
  unfold jsonObject
  split
  · decide
  · have hentries : IsBracketed ("  " ++ ",\n  ".intercalate entries) :=
      (show IsBracketed "  " by decide).append
        ((SpansAll.of_forall h []).intercalate (by decide))
    have hopen : Spans [] "json_build_object(" [.round] := by decide
    have hclose : Spans [.round] ")" [] := by decide
    exact SpansAll.ofLines (.cons hopen (.cons (hentries.spans _) (.cons hclose .nil)))

/-- The entries of an object can be written without harm to brackets: their keys have none, and
their readings are well bracketed. -/
def AreBracketed (entries : List (String × Reading)) : Prop :=
  ∀ entry ∈ entries, IsUndelimited entry.1 ∧ IsBracketed entry.2.render

/-- The entries of an object, with their keys, are well bracketed if their readings are. -/
theorem isBracketed_of_mem_renderEntries {entries : List (String × Reading)}
    (h : AreBracketed entries) : ∀ text ∈ renderEntries entries, IsBracketed text := by
  induction entries with
  | nil =>
    rw [renderEntries]
    exact List.forall_mem_nil _
  | cons entry rest ih =>
    obtain ⟨key, reading⟩ := entry
    obtain ⟨⟨hkey, hreading⟩, hrest⟩ := List.forall_mem_cons.mp h
    rw [renderEntries]
    -- The text continues the closing quote with a comma in one literal, which is split here.
    have hquoted := hkey.quoted.append (show IsBracketed ", " by decide)
    rw [String.append_assoc, show "'" ++ ", " = "', " from rfl] at hquoted
    exact List.forall_mem_cons.mpr ⟨hquoted.append (hreading.indent 2), ih hrest⟩

section

variable {table source : String} (htable : IsUndelimited table) (hsource : IsUndelimited source)

include htable hsource

/-- What reads one uuid is well bracketed. -/
theorem isBracketed_uuid : IsBracketed (Reading.uuid table source).render := by
  rw [Reading.render]
  have hselect : IsUndelimited ("  SELECT " ++ qualified table "uuid") :=
    IsUndelimited.append (by decide) (isUndelimited_qualified htable (by decide))
  exact isBracketed_subquery hselect.isBracketed (isUndelimited_row htable hsource).isBracketed

/-- What reads uuids is well bracketed. -/
theorem isBracketed_uuids : IsBracketed (Reading.uuids table source).render := by
  rw [Reading.render]
  exact isBracketed_aggregate htable hsource.isBracketed (show IsUndelimited "uuid" by decide)
    (show IsUndelimited "id" by decide) (by decide)

variable {entries : List (String × Reading)} (hentries : AreBracketed entries)

include hentries

/-- What reads a nested object is well bracketed if its entries are. -/
theorem isBracketed_object : IsBracketed (Reading.object table source entries).render := by
  rw [Reading.render]
  have hobject := (isBracketed_jsonObject (isBracketed_of_mem_renderEntries hentries)).indent 2
  have hselect := ((show IsBracketed "  SELECT " by decide).append hobject).append
    (show IsBracketed " AS json_build_object" by decide)
  exact isBracketed_subquery hselect (isUndelimited_row htable hsource).isBracketed

/-- What reads nested objects is well bracketed if the entries of each are. -/
theorem isBracketed_objects : IsBracketed (Reading.objects table source entries).render := by
  rw [Reading.render]
  have hobject := (show IsBracketed "      " by decide).append
    ((isBracketed_jsonObject (isBracketed_of_mem_renderEntries hentries)).indent 6)
  have horder := (show IsBracketed "      " by decide).append
    (isUndelimited_elementOrder htable).isBracketed
  have hrows := (show IsBracketed "  " by decide).append
    (isBracketed_joinElements htable hsource.isBracketed (show IsUndelimited "id" by decide))
  -- The lines open three parentheses, and close two of them behind the objects.
  have hopen : Spans [] "(" [.round] := by decide
  have hselect : Spans [.round] "  SELECT COALESCE(" [.round, .round] := by decide
  have haggregate : Spans [.round, .round] "    json_agg(" [.round, .round, .round] := by decide
  have hclose : Spans [.round, .round, .round] "    )," [.round, .round] := by decide
  have hnone : Spans [.round, .round] "    '[]'::json" [.round, .round] := by decide
  have hnamed : Spans [.round, .round] "  ) AS json_agg" [.round] := by decide
  have hend : Spans [.round] ")" [] := by decide
  exact SpansAll.ofLines (.cons hopen (.cons hselect (.cons haggregate
    (.cons (hobject.spans _) (.cons (horder.spans _) (.cons hclose (.cons hnone
      (.cons hnamed (.cons (hrows.spans _) (.cons hend .nil))))))))))

end

section

variable {relationships : Relationships}

/-- The reading of a reference is well bracketed if those of what it nests are. -/
theorem isBracketed_of_readReference
    {entries : Relationship → Except Cause (List (String × Reading))} {method : ReferenceMethod}
    {isArray : Bool} {source : String} {target : Relationship} {reading : Reading}
    (htarget : IsUndelimited target.table) (hsource : IsUndelimited source)
    (hentries : ∀ found, entries target = .ok found → AreBracketed found)
    (h : readReference entries method isArray source target = .ok reading) :
    IsBracketed reading.render := by
  unfold readReference at h
  split at h
  · cases h
    exact isBracketed_uuid htarget hsource
  · cases h
    exact isBracketed_uuids htarget hsource
  · obtain ⟨found, hfound, rfl⟩ := map_ok_iff.mp h
    exact isBracketed_object htarget hsource (hentries found hfound)
  · obtain ⟨found, hfound, rfl⟩ := map_ok_iff.mp h
    exact isBracketed_objects htarget hsource (hentries found hfound)

/-- The reading of a column is well bracketed if those of what it nests are. -/
theorem isBracketed_of_readColumn (hnames : relationships.HasNames IsUndelimited)
    {entries : Relationship → Except Cause (List (String × Reading))} {depth : Nat}
    {table : String} {mapping : ColumnMapping} {reading : Reading}
    (htable : IsUndelimited table) (hcolumn : IsUndelimited mapping.column.name)
    (hentries : ∀ target ∈ relationships.toList, ∀ found, entries target = .ok found →
      AreBracketed found)
    (h : readColumn relationships entries depth table mapping = .ok reading) :
    IsBracketed reading.render := by
  have hsource := isUndelimited_qualified htable hcolumn
  unfold readColumn at h
  cases hreference : mapping.column.reference with
  | none =>
    rw [hreference] at h
    cases h
    rw [Reading.render]
    exact hsource.isBracketed
  | some reference =>
    rw [hreference] at h
    obtain ⟨target, hget, h⟩ := bind_ok_iff.mp h
    obtain ⟨inner, hinner, h⟩ := bind_ok_iff.mp h
    have ht := (Relationships.get_ok_iff.mp hget).1
    have hrender := isBracketed_of_readReference (hnames.table target ht) hsource
      (hentries target ht) hinner
    -- At depth zero the reading gets a name.
    split at h
    · cases h
      have hname := (isUndelimited_snakeCase mapping.domainName).isBracketed
      rw [Reading.render]
      exact (hrender.append (by decide)).append hname
    · cases h
      exact hrender

/-- A reading is well bracketed, however many objects are nested. -/
theorem isBracketed_of_read (hnames : relationships.HasNames IsUndelimited) {levels depth : Nat}
    {table : String} {mapping : ColumnMapping} {reading : Reading} (htable : IsUndelimited table)
    (hmapping : mapping.HasNames IsUndelimited)
    (h : read relationships levels depth table mapping = .ok reading) :
    IsBracketed reading.render := by
  -- By induction on the levels: what is nested has names without brackets too.
  refine read_induction_columns
    (p := fun table inner => IsUndelimited table ∧ inner.HasNames IsUndelimited)
    (q := fun _ _ nested => IsBracketed nested.render)
    (fun target ht inner hinner => ⟨hnames.table target ht, hnames.mapping target ht inner hinner⟩)
    (fun hp hentries hread => ?_) ⟨htable, hmapping⟩ h
  refine isBracketed_of_readColumn hnames hp.1 hp.2.column
    (fun target ht found hfound entry hentry => ?_) hread
  obtain ⟨inner, -, hinner, hname, hnested⟩ :=
    exists_left_of_forall₂ (hentries target ht found hfound) hentry
  exact ⟨hname ▸ hinner.2.domainName, hnested⟩

/-! ## Writing -/

/-- The expression for the numbers of rows is well bracketed. -/
theorem isBracketed_lookUp {table parameter : String} (htable : IsUndelimited table)
    (hparameter : IsUndelimited parameter) (isArray : Bool) :
    IsBracketed (lookUp table parameter isArray) := by
  have hid : IsUndelimited "id" := by decide
  have huuid : IsUndelimited "uuid" := by decide
  unfold lookUp
  -- Rows for a list of uuids are aggregated, and for one uuid a row is selected in one line.
  split
  · have hsource : IsBracketed (parameter ++ "::uuid[]") :=
      hparameter.isBracketed.append (by decide)
    exact isBracketed_aggregate htable hsource hid huuid (by decide)
  · have hrow : IsUndelimited
        (table ++ " WHERE " ++ qualified table "uuid" ++ " = " ++ parameter) :=
      (((htable.append (by decide)).append (isUndelimited_qualified htable huuid)).append
        (by decide)).append hparameter
    have hselect := hrow.isBracketed.between
      (show Spans [] "(SELECT id FROM " [.round] by decide) (show Spans _ ")" [] by decide)
    simp only [String.append_assoc] at hselect ⊢
    exact hselect

/-- The expression that is stored in a column is well bracketed. -/
theorem isBracketed_of_input (hnames : relationships.HasNames IsUndelimited)
    {mapping : ColumnMapping} {text : String} (h : input relationships mapping = .ok text) :
    IsBracketed text := by
  have hparameter := isUndelimited_parameter mapping
  unfold input at h
  -- Only a reference by uuid is written by a template; all else is the parameter alone.
  cases hreference : mapping.column.reference with
  | none =>
    rw [hreference] at h
    cases h
    exact hparameter.isBracketed
  | some reference =>
    rw [hreference] at h
    dsimp only at h
    split at h
    · cases h
      exact hparameter.isBracketed
    · obtain ⟨target, hget, h⟩ := bind_ok_iff.mp h
      obtain rfl := pure_ok_iff.mp h
      have htarget := hnames.table target (Relationships.get_ok_iff.mp hget).1
      exact isBracketed_lookUp htarget hparameter mapping.column.isArray

end

end Sql

/-! ## Binding -/

namespace Client

section

variable {value upsert : String} (hvalue : IsUndelimited value)

include hvalue

/-- A reference to a value without brackets has none. -/
theorem isUndelimited_borrow (borrowed : Bool) : IsUndelimited (borrow value borrowed) := by
  unfold borrow
  split
  · exact hvalue
  · exact IsUndelimited.append (by decide) hvalue

/-- The number of the row of a nested object is well bracketed. -/
theorem isBracketed_storedId (hupsert : IsUndelimited upsert) (borrowed : Bool) :
    IsBracketed (storedId value borrowed upsert) := by
  have hmatch : Spans [] ("match " ++ value ++ ".id \x7b") [.curly] :=
    Spans.append (IsUndelimited.append (by decide) hvalue).isBracketed (by decide)
  have hsome : IsBracketed "    Some(id) => id," := by decide
  have hcall : IsBracketed
      ("    None => " ++ upsert ++ "(db, " ++ borrow value borrowed ++ ").await?,") := by
    have hfront : Spans [] ("    None => " ++ upsert ++ "(db, ") [.round] :=
      Spans.append (IsUndelimited.append (by decide) hupsert).isBracketed (by decide)
    exact (isUndelimited_borrow hvalue borrowed).isBracketed.between hfront (by decide)
  have hend : Spans [.curly] "\x7d" [] := by decide
  -- The brace of the first line stays open over the two arms and is closed by the last.
  exact SpansAll.ofLines (.cons hmatch (.cons (hsome.spans _) (.cons (hcall.spans _)
    (.cons hend .nil))))

/-- The numbers of the rows of a list of nested objects are well bracketed. -/
theorem isBracketed_storedIds {element : String} (helement : IsUndelimited element)
    (hupsert : IsUndelimited upsert) (borrowed : Bool) :
    IsBracketed (storedIds value borrowed element upsert) := by
  have hopen : Spans [] "\x7b" [.curly] := by decide
  have hids : IsBracketed ("    let mut ids = Vec::with_capacity(" ++ value ++ ".len());") :=
    hvalue.isBracketed.between (show Spans [] _ [.round] by decide) (by decide)
  have hloop : Spans []
      ("    for " ++ element ++ " in " ++ borrow value borrowed ++ " \x7b") [.curly] := by
    have hfront : IsUndelimited ("    for " ++ element ++ " in " ++ borrow value borrowed) :=
      ((IsUndelimited.append (by decide) helement).append (by decide)).append
        (isUndelimited_borrow hvalue borrowed)
    exact Spans.append hfront.isBracketed (by decide)
  have hpush : IsBracketed
      ("        ids.push(" ++ Text.indent (storedId element true upsert) 8 ++ ");") :=
    IsBracketed.between ((isBracketed_storedId helement hupsert true).indent 8)
      (show Spans [] _ [.round] by decide) (by decide)
  have hdone : Spans [.curly] "    \x7d" [] := by decide
  have hresult : IsBracketed "    ids" := by decide
  have hend : Spans [.curly] "\x7d" [] := by decide
  -- Two braces are open inside the loop, and each is closed in a line of its own.
  exact SpansAll.ofLines (.cons hopen (.cons (hids.spans _) (.cons (hloop.frame [.curly])
    (.cons (hpush.spans _) (.cons (hdone.frame [.curly]) (.cons (hresult.spans _)
      (.cons hend .nil)))))))

/-- What an optional value yields is well bracketed if what the value inside it yields is. -/
theorem isBracketed_whereSome {field someCase : String} (hfield : IsUndelimited field)
    (hsome : IsBracketed someCase) : IsBracketed (whereSome value field someCase) := by
  have hmatch : Spans [] ("match &" ++ value ++ " \x7b") [.curly] :=
    Spans.append (IsUndelimited.append (by decide) hvalue).isBracketed (by decide)
  have hnone : IsBracketed "    None => None," := by decide
  have hyields : IsBracketed
      ("    Some(" ++ field ++ ") => Some(" ++ Text.indent someCase 4 ++ "),") := by
    have hfront : Spans [] ("    Some(" ++ field ++ ") => Some(") [.round] :=
      ((show Spans [] "    Some(" [.round] by decide).append (hfield.isBracketed.spans _)).append
        (by decide)
    exact IsBracketed.between (hsome.indent 4) hfront (by decide)
  have hend : Spans [.curly] "\x7d" [] := by decide
  exact SpansAll.ofLines (.cons hmatch (.cons (hnone.spans _) (.cons (hyields.spans _)
    (.cons hend .nil))))

/-- The number of the row of a nested object, or the numbers for a list of them, are well bracketed.
-/
theorem isBracketed_storedRows {target : Relationship} (htarget : IsUndelimited target.table)
    (isArray borrowed : Bool) : IsBracketed (storedRows target isArray value borrowed) := by
  have hupsert : IsUndelimited ("upsert_" ++ target.table) :=
    IsUndelimited.append (by decide) htarget
  unfold storedRows
  split
  · have helement := isUndelimited_snakeCase target.domainObject
    exact isBracketed_storedIds hvalue helement hupsert borrowed
  · exact isBracketed_storedId hvalue hupsert borrowed

end

/-- The value of a property has no brackets. -/
theorem isUndelimited_value (context : Context) (owner : String) {field : String}
    (hfield : IsUndelimited field) : IsUndelimited (context.value owner field) := by
  cases context with
  | upsert => exact ((isUndelimited_snakeCase owner).append (by decide)).append hfield
  | find => exact hfield

/-- The expression that client code binds for a column is well bracketed. -/
theorem isBracketed_of_argument {relationships : Relationships}
    (hnames : relationships.HasNames IsUndelimited) {owner : String} {mapping : ColumnMapping}
    {context : Context} {text : String}
    (h : argument relationships owner mapping context = .ok text) : IsBracketed text := by
  have hfield := isUndelimited_snakeCase mapping.domainName
  have hvalue := isUndelimited_value context owner hfield
  unfold argument at h
  cases hdirect : mapping.directReference? with
  | none =>
    rw [hdirect] at h
    cases h
    exact hvalue.isBracketed
  | some reference =>
    rw [hdirect] at h
    obtain ⟨target, hget, h⟩ := bind_ok_iff.mp h
    have htarget := hnames.table target (Relationships.get_ok_iff.mp hget).1
    -- A nullable value is matched first, and the rows are bound inside the match.
    split at h
    · cases h
      exact isBracketed_whereSome hvalue hfield (isBracketed_storedRows hfield htarget _ true)
    · cases h
      exact isBracketed_storedRows hvalue htarget _ false

end Client

/-- Among tables, columns and properties without brackets and quotes in their names, all expressions
of a column are well bracketed: what reads it, what writes it, and what client code binds for it,
whatever the context. -/
theorem expressions_are_bracketed {relationships : Relationships}
    (hnames : relationships.HasNames IsUndelimited) {mapping : ColumnMapping}
    (hmapping : mapping.HasNames IsUndelimited) :
    (∀ table, IsUndelimited table → ∀ text,
      Sql.select relationships table mapping = .ok text → IsBracketed text) ∧
    (∀ text, Sql.input relationships mapping = .ok text → IsBracketed text) ∧
    ∀ owner context text, Client.argument relationships owner mapping context = .ok text →
      IsBracketed text := by
  refine ⟨fun table htable text h => ?_, fun text h => Sql.isBracketed_of_input hnames h,
    fun owner context text h => Client.isBracketed_of_argument hnames h⟩
  obtain ⟨reading, hread, rfl⟩ := map_ok_iff.mp h
  exact Sql.isBracketed_of_read hnames htable hmapping hread

/-- What reads the legs of a journey, with the stations of each, is well bracketed, and so is what
client code binds for them. -/
theorem expressions_are_bracketed_timetable :
    timetable.HasNames IsUndelimited ∧ legsColumn.HasNames IsUndelimited ∧
      (∃ text, Sql.select timetable "journey" legsColumn = .ok text ∧ IsBracketed text) ∧
      ∃ text, Client.argument timetable "Journey" legsColumn .upsert = .ok text ∧
        IsBracketed text := by
  have hnames : timetable.HasNames IsUndelimited := by decide
  have hlegs : legsColumn.HasNames IsUndelimited := by decide
  have hjourney : IsUndelimited "journey" := by decide
  obtain ⟨hselect, -, hargument⟩ := expressions_are_bracketed hnames hlegs
  obtain ⟨reading, hread⟩ := exists_ok_of_toBool
    (show (Sql.read timetable timetable.size 0 "journey" legsColumn).toBool = true by decide)
  have htext : Sql.select timetable "journey" legsColumn = .ok reading.render :=
    map_ok_iff.mpr ⟨reading, hread, rfl⟩
  obtain ⟨bound, hbound⟩ := exists_ok_of_toBool
    (show (Client.argument timetable "Journey" legsColumn .upsert).toBool = true by decide +kernel)
  exact ⟨hnames, hlegs, ⟨_, htext, hselect "journey" hjourney _ htext⟩,
    bound, hbound, hargument "Journey" .upsert bound hbound⟩

end DomainTables
