import DomainTables.Proofs.Clauses
import DomainTables.Proofs.Nesting
import DomainTables.Proofs.Words

/-!
# Arrays in order

An array is read and written by joining a table with the elements of the array, and the numbers of
the elements give the order of the rows. So for each array that an expression expands it has one
clause that sorts and one join that numbers (`arrayClauses`), and the sorting is by the numbers of
that very join.

Which arrays are expanded is told by the columns alone (`Sql.ExpandsAll`): those that are arrays of
references, and for columns that nest objects, those of the columns of these. The expression of a
reading has their clauses and no others, by induction on the levels of nesting
(`Sql.hasClauses_of_read`), since each kind of reading puts the clauses of its parts in a row
(`Sql.hasClauses_of_readReference`). No condition on cycles is needed: what nests itself has no
reading.
-/

namespace DomainTables

/-- A name of letters, digits and underscores. -/
def Text.IsPlain (name : String) : Prop :=
  ∀ c ∈ name.toList, Text.isAlphanumeric c = true ∨ c = '_'

instance (name : String) : Decidable (Text.IsPlain name) :=
  decidable_of_iff (name.toList.all (fun c => Text.isAlphanumeric c || c == '_') = true)
    (by simp [Text.IsPlain])

/-- The column and the property have names of letters, digits and underscores. -/
structure ColumnMapping.HasPlainNames (mapping : ColumnMapping) : Prop where
  /-- The name of the column. -/
  column : Text.IsPlain mapping.column.name
  /-- The name of the property. -/
  property : ∀ property ∈ mapping.property, Text.IsPlain property.name

/-- The tables, columns and properties have names of letters, digits and underscores. -/
structure Relationships.HasPlainNames (relationships : Relationships) : Prop where
  /-- The names of tables. -/
  table : ∀ relationship ∈ relationships.toList, Text.IsPlain relationship.table
  /-- The names of columns and properties. -/
  mapping : ∀ relationship ∈ relationships.toList, ∀ mapping ∈ relationship.mappings,
    mapping.HasPlainNames

instance (mapping : ColumnMapping) : Decidable mapping.HasPlainNames :=
  decidable_of_iff (Text.IsPlain mapping.column.name ∧
      ∀ property ∈ mapping.property, Text.IsPlain property.name)
    ⟨fun h => ⟨h.1, h.2⟩, fun h => ⟨h.column, h.property⟩⟩

instance (relationships : Relationships) : Decidable relationships.HasPlainNames :=
  decidable_of_iff ((∀ relationship ∈ relationships.toList, Text.IsPlain relationship.table) ∧
      ∀ relationship ∈ relationships.toList, ∀ mapping ∈ relationship.mappings,
        mapping.HasPlainNames)
    ⟨fun h => ⟨h.1, h.2⟩, fun h => ⟨h.table, h.mapping⟩⟩

namespace Sql

/-! ## Names in expressions -/

/-- A separator is a mark other than the underscore. -/
theorem mem_marks_of_isSeparator {c : Char} (h : isSeparator c = true) :
    c ∈ Text.marks ∧ c ≠ '_' := by
  have hmem := List.contains_iff_mem.mp h
  simp only [List.mem_cons, List.not_mem_nil, or_false] at hmem
  rcases hmem with rfl | rfl | rfl | rfl | rfl | rfl <;> decide

/-- A text without marks has no separators. -/
theorem isSolid_of_forall {text : List Char}
    (h : ∀ mark ∈ Text.marks, mark ≠ '_' → mark ∉ text) : IsSolid text := by
  intro c hc
  by_contra hseparator
  obtain ⟨hmark, hne⟩ := mem_marks_of_isSeparator (Bool.not_eq_false _ ▸ hseparator)
  exact h c hmark hne hc

/-- A plain name has no separators. -/
theorem isSolid_of_isPlain {name : String} (h : Text.IsPlain name) : IsSolid name.toList := by
  refine isSolid_of_forall fun mark hmark hne hmem => ?_
  rcases h mark hmem with halphanumeric | hunderscore
  · rw [Text.isAlphanumeric_of_mem_marks hmark] at halphanumeric
    cases halphanumeric
  · exact hne hunderscore

/-- Texts without separators have none together. -/
theorem isSolid_append {text other : String} (h : IsSolid text.toList)
    (hother : IsSolid other.toList) : IsSolid (text ++ other).toList := by
  rw [String.toList_append]
  exact List.forall_mem_append.mpr ⟨h, hother⟩

/-- A qualified column has no separators. -/
theorem isSolid_qualified {table column : String} (htable : IsSolid table.toList)
    (hcolumn : IsSolid column.toList) : IsSolid (qualified table column).toList :=
  isSolid_append (isSolid_append htable (by decide)) hcolumn

/-- The alias of elements has no separators. -/
theorem isSolid_elementsAlias {table : String} (h : IsSolid table.toList) :
    IsSolid (elementsAlias table).toList :=
  isSolid_append h (by decide)

/-- A parameter has no separators. -/
theorem isSolid_parameter (mapping : ColumnMapping) :
    IsSolid (":" ++ parameterName mapping).toList := by
  refine isSolid_append (by decide) (isSolid_of_forall fun mark hmark _ => ?_)
  unfold parameterName
  split <;> exact Text.mark_notMem_camelCase hmark _

/-! ## Clauses of arrays -/

/-- The clause that sorts by the numbers of the elements joined with a table. -/
def orderOf (table : String) : Clause :=
  ⟨.orderBy, [qualified (elementsAlias table) orderIndex]⟩

/-- The join that binds the elements joined with a table, and their numbers. -/
def joinOf (table key : String) : Clause :=
  ⟨.withOrdinality, ["AS", elementsAlias table, key, orderIndex]⟩

/-- What keeps an array in order: a clause that sorts by the numbers that a join binds. -/
def arrayClauses (table key : String) : List Clause :=
  [orderOf table, joinOf table key]

/-- What a join has behind its keyword: the alias with its columns, and the condition. -/
def joinOperands (table key : String) : String :=
  "\n    AS " ++ (elementsAlias table ++ (" (" ++ (key ++ (", " ++ (orderIndex ++
    (")\n    ON " ++ (qualified table key ++ (" = " ++ qualified (elementsAlias table) key))))))))

/-- A blank and the clause that sorts can follow a name. -/
theorem isApart_elementOrder (table behind : String) (rest : List Char) :
    IsApart ((" " ++ (elementOrder table ++ behind)).toList ++ rest) := by
  have htext : (" " ++ (elementOrder table ++ behind)).toList ++ rest = " ORDER BY ".toList ++
      ((qualified (elementsAlias table) orderIndex).toList ++ (behind.toList ++ rest)) := by
    simp only [elementOrder, String.toList_append, List.append_assoc]
    rfl
  rw [htext]
  exact isApart_of_isOpening (by decide) _

section

variable {table source : String} (htable : IsSolid table.toList)
  (hsource : IsSolid source.toList)

include htable

/-- The clause that brings rows into the order of elements is one that sorts by their numbers. -/
theorem yields_elementOrder : Yields (elementOrder table) [orderOf table] := by
  intro rest hrest
  have hcolumn : IsSolid (qualified (elementsAlias table) orderIndex).toList :=
    isSolid_qualified (isSolid_elementsAlias htable) (by decide)
  have hne : (qualified (elementsAlias table) orderIndex).toList ≠ [] := by
    simp [qualified]
  -- The text is cut where the scan stops: behind the keyword, the blank and the operand.
  have htext : (elementOrder table).toList ++ rest = Keyword.orderBy.chars ++
      ([' '] ++ ((qualified (elementsAlias table) orderIndex).toList ++ rest)) := by
    rw [elementOrder, String.toList_append, List.append_assoc]
    rfl
  rw [htext, clausesOf_chars_append, clausesOf_of_isClosed (by decide),
    clausesOf_of_isSolid hcolumn hrest, piecesOf_append_of_all (by decide),
    piecesOf_append_of_isSolid hcolumn hne hrest.head, orderOf]
  simp [Keyword.arity]

/-- The operands of a join are its alias and the columns that it binds. -/
theorem piecesOf_joinOperands {key : String} (hkey : IsSolid key.toList) (hne : key.toList ≠ [])
    (rest : List Char) :
    (piecesOf ((joinOperands table key).toList ++ rest)).take 4 =
      ["AS".toList, (elementsAlias table).toList, key.toList, orderIndex.toList] := by
  have halias := isSolid_elementsAlias htable
  have hneAlias : (elementsAlias table).toList ≠ [] := by
    simp [elementsAlias]
  have hindex : IsSolid orderIndex.toList := by decide
  -- The condition behind them is left open, since only the first four pieces are operands.
  obtain ⟨condition, htext⟩ : ∃ condition, (joinOperands table key).toList ++ rest =
      "\n    ".toList ++ ("AS".toList ++ (" ".toList ++ ((elementsAlias table).toList ++
        (" (".toList ++ (key.toList ++ (", ".toList ++ (orderIndex.toList ++
          (")\n    ON ".toList ++ condition)))))))) := by
    refine ⟨(qualified table key).toList ++ (" = ".toList ++
      ((qualified (elementsAlias table) key).toList ++ rest)), ?_⟩
    simp only [joinOperands, String.toList_append, List.append_assoc]
    rfl
  rw [htext, piecesOf_append_of_all (by decide),
    piecesOf_append_of_isSolid (by decide) (by decide) (fun c hc => by cases hc; decide),
    piecesOf_append_of_all (by decide),
    piecesOf_append_of_isSolid halias hneAlias (isApart_of_isOpening (by decide) _).head,
    piecesOf_append_of_all (by decide),
    piecesOf_append_of_isSolid hkey hne (isApart_of_isOpening (by decide) _).head,
    piecesOf_append_of_all (by decide),
    piecesOf_append_of_isSolid hindex (by decide) (isApart_of_isOpening (by decide) _).head]
  rfl

/-- What stands behind the keyword of a join has no clauses of its own. -/
theorem yields_joinOperands {key : String} (hkey : IsSolid key.toList) :
    Yields (joinOperands table key) [] := by
  have halias := isSolid_elementsAlias htable
  have hcondition := (Yields.ofSolid (isSolid_qualified htable hkey)).append
    (show IsInert " = " by decide) (Yields.ofSolid (isSolid_qualified halias hkey))
  have hindex := (Yields.ofSolid (show IsSolid orderIndex.toList by decide)).append
    (show IsInert ")\n    ON " by decide) hcondition
  have hcolumns := (Yields.ofSolid hkey).append (show IsInert ", " by decide) hindex
  exact ((Yields.ofSolid halias).append (by decide) hcolumns).literal_append (by decide)

include hsource

/-- Joining a table with elements is one join that numbers them. -/
theorem yields_joinElements {key : String} (hkey : IsSolid key.toList) (hne : key.toList ≠ []) :
    Yields (joinElements table source key) [joinOf table key] := by
  intro rest hrest
  -- The keyword stands between the elements that are joined and the operands of the join.
  have htext : (joinElements table source key).toList ++ rest =
      "FROM ".toList ++ (table.toList ++ ("\n  JOIN unnest(".toList ++ (source.toList ++
        (") ".toList ++ (Keyword.withOrdinality.chars ++
          ((joinOperands table key).toList ++ rest)))))) := by
    rw [joinElements, Text.ofLines, String.toList_intercalate, joinOperands]
    simp only [List.map_cons, List.map_nil, List.intercalate_cons_cons,
      List.intercalate_singleton, String.toList_append, List.append_assoc]
    rfl
  rw [htext, clausesOf_of_isClosed (by decide),
    clausesOf_of_isSolid htable (isApart_of_isOpening (by decide) _),
    clausesOf_of_isClosed (by decide),
    clausesOf_of_isSolid hsource (isApart_of_isOpening (by decide) _),
    clausesOf_of_isClosed (by decide), clausesOf_chars_append, Keyword.arity,
    piecesOf_joinOperands htable hkey hne, yields_joinOperands htable hkey rest hrest]
  simp only [joinOf, List.map_cons, List.map_nil, String.ofList_toList, List.nil_append,
    List.singleton_append]

/-- Aggregated rows are in the order of the elements that they are joined with. -/
theorem yields_aggregate {column key ending : String} (hcolumn : IsSolid column.toList)
    (hkey : IsSolid key.toList) (hne : key.toList ≠ []) (hending : IsInert ending) :
    Yields (Text.ofLines [
      "(",
      "  SELECT COALESCE(array_agg(" ++ qualified table column ++ " " ++ elementOrder table ++
        ending,
      "  " ++ joinElements table source key,
      ")"]) (arrayClauses table key) := by
  -- The line that selects sorts, the one behind it joins, and the brackets around are plain.
  have hselect : Yields ("  SELECT COALESCE(array_agg(" ++ qualified table column ++ " " ++
      elementOrder table ++ ending) [orderOf table] := by
    have hrows := Yields.ofSolid (isSolid_qualified htable hcolumn)
    have horder : Yields (" " ++ (elementOrder table ++ ending)) [orderOf table] :=
      ((yields_elementOrder htable).append_literal hending).literal_append (by decide)
    simp only [String.append_assoc]
    exact (hrows.append_of_isApart horder (isApart_elementOrder table ending)).literal_append
      (by decide)
  have hjoin := (yields_joinElements htable hsource hkey hne).literal_append
    (show isClosed "  ".toList = true by decide)
  exact Yields.ofLines (.cons (.ofLiteral (by decide)) (.cons hselect (.cons hjoin
    (.cons (.ofLiteral (by decide)) .nil))))

/-- The row that a column refers to is selected without any clause. -/
theorem yields_row : Yields
    ("  FROM " ++ table ++ " WHERE " ++ qualified table "id" ++ " = " ++ source) [] := by
  have hid := Yields.ofSolid (isSolid_qualified htable (show IsSolid "id".toList by decide))
  simp only [String.append_assoc]
  exact ((Yields.ofSolid htable).append (by decide)
    (hid.append (by decide) (.ofSolid hsource))).literal_append (by decide)

end

/-- A JSON object has the clauses of its entries. -/
theorem yields_jsonObject {entries : List String} {found : List (List Clause)}
    (h : List.Forall₂ Yields entries found) : Yields (jsonObject entries) found.flatten := by
  unfold jsonObject
  split
  · -- An object without entries is written in one line.
    next hempty =>
    rw [List.isEmpty_iff] at hempty
    subst hempty
    cases h
    exact .ofLiteral (by decide)
  · have hentries := (Yields.intercalate (show IsInert ",\n  " by decide) h).literal_append
      (show isClosed "  ".toList = true by decide)
    have hlines : found.flatten = [[], found.flatten, []].flatten := by simp
    rw [hlines]
    exact Yields.ofLines (.cons (.ofLiteral (by decide)) (.cons hentries
      (.cons (.ofLiteral (by decide)) .nil)))

/-! ## Clauses of readings and lookups -/

section

variable {table source : String} (htable : IsSolid table.toList)
  (hsource : IsSolid source.toList)

include htable hsource

/-- One uuid is read without any clause. -/
theorem yields_uuid : Yields (Reading.uuid table source).render [] := by
  have hcolumn := isSolid_qualified htable (show IsSolid "uuid".toList by decide)
  have hselect := (Yields.ofSolid hcolumn).literal_append
    (show isClosed "  SELECT ".toList = true by decide)
  rw [Reading.render]
  exact Yields.ofLines (.cons (.ofLiteral (by decide)) (.cons hselect
    (.cons (yields_row htable hsource) (.cons (.ofLiteral (by decide)) .nil))))

/-- Uuids are read with the clauses of one array. -/
theorem yields_uuids : Yields (Reading.uuids table source).render (arrayClauses table "id") := by
  rw [Reading.render]
  exact yields_aggregate htable hsource (show IsSolid "uuid".toList by decide)
    (show IsSolid "id".toList by decide) (by decide) (by decide)

variable {entries : List (String × Reading)} {found : List (List Clause)}
  (hentries : List.Forall₂ Yields (renderEntries entries) found)

include hentries

/-- A nested object is read with the clauses of its entries. -/
theorem yields_object : Yields (Reading.object table source entries).render found.flatten := by
  have hobject := (((yields_jsonObject hentries).indent 2).literal_append
    (show isClosed "  SELECT ".toList = true by decide)).append_literal
    (show IsInert " AS json_build_object" by decide)
  have hclauses : found.flatten = [[], found.flatten, [], []].flatten := by
    simp
  rw [hclauses, Reading.render]
  exact Yields.ofLines (.cons (.ofLiteral (by decide)) (.cons hobject
    (.cons (yields_row htable hsource) (.cons (.ofLiteral (by decide)) .nil))))

/-- Nested objects are read with the clauses of the entries of each, and behind these with those of
one array. -/
theorem yields_objects :
    Yields (Reading.objects table source entries).render
      (found.flatten ++ arrayClauses table "id") := by
  have hid : IsSolid "id".toList := by decide
  have hobject := ((yields_jsonObject hentries).indent 6).literal_append
    (show isClosed "      ".toList = true by decide)
  have horder := (yields_elementOrder htable).literal_append
    (show isClosed "      ".toList = true by decide)
  have hjoin := (yields_joinElements htable hsource hid (by decide)).literal_append
    (show isClosed "  ".toList = true by decide)
  -- The entries stand in front of the clause that sorts, and the join comes last.
  have hclauses : found.flatten ++ arrayClauses table "id" =
      [[], [], [], found.flatten, [orderOf table], [], [], [],
        [joinOf table "id"], []].flatten := by
    simp [arrayClauses]
  rw [hclauses, Reading.render]
  exact Yields.ofLines (.cons (.ofLiteral (by decide)) (.cons (.ofLiteral (by decide))
    (.cons (.ofLiteral (by decide)) (.cons hobject (.cons horder
      (.cons (.ofLiteral (by decide)) (.cons (.ofLiteral (by decide))
        (.cons (.ofLiteral (by decide)) (.cons hjoin (.cons (.ofLiteral (by decide))
          .nil))))))))))

end

/-- Numbers of rows are looked up with the clauses of one array, and one number is looked up without
any. -/
theorem yields_lookUp {table parameter : String} (htable : IsSolid table.toList)
    (hparameter : IsSolid parameter.toList) (isArray : Bool) :
    Yields (lookUp table parameter isArray)
      (if isArray then arrayClauses table "uuid" else []) := by
  have hid : IsSolid "id".toList := by decide
  have huuid : IsSolid "uuid".toList := by decide
  unfold lookUp
  split
  · exact yields_aggregate htable (isSolid_append hparameter (by decide)) hid huuid (by decide)
      (by decide)
  · have hrow := (Yields.ofSolid (isSolid_qualified htable huuid)).append
      (show IsInert " = " by decide)
      ((Yields.ofSolid hparameter).append_literal (show IsInert ")" by decide))
    have hselect := ((Yields.ofSolid htable).append (show IsInert " WHERE " by decide)
      hrow).literal_append (show isClosed "(SELECT id FROM ".toList = true by decide)
    simp only [String.append_assoc] at hselect ⊢
    exact hselect

/-! ## Arrays of a column -/

/-- The array that a column is itself, if it is one. -/
def arrayOf (mapping : ColumnMapping) (target : Relationship) : List Relationship :=
  if mapping.column.isArray then [target] else []

/-- The tables with whose rows reading the given columns one after another fills arrays, each array
behind those nested in it. -/
inductive ExpandsAll (relationships : Relationships) :
    List ColumnMapping → List Relationship → Prop where
  /-- Without columns there are no arrays. -/
  | nil : ExpandsAll relationships [] []
  /-- A column without a reference is stored as it is. -/
  | stored {mapping : ColumnMapping} {rest : List ColumnMapping} {arrays : List Relationship} :
      mapping.column.reference = none → ExpandsAll relationships rest arrays →
      ExpandsAll relationships (mapping :: rest) arrays
  /-- A column that refers by uuid may be an array. -/
  | uuid {mapping : ColumnMapping} {rest : List ColumnMapping} {arrays : List Relationship}
      {reference : ColumnReference} {target : Relationship} :
      mapping.column.reference = some reference → reference.method.isDirect = false →
      relationships.get reference.target.name = .ok target →
      ExpandsAll relationships rest arrays →
      ExpandsAll relationships (mapping :: rest) (arrayOf mapping target ++ arrays)
  /-- A column that nests objects may be an array, and so may the columns that these store. -/
  | nested {mapping : ColumnMapping} {rest : List ColumnMapping}
      {inner arrays : List Relationship} {reference : ColumnReference} {target : Relationship} :
      mapping.column.reference = some reference → reference.method.isDirect = true →
      relationships.get reference.target.name = .ok target →
      ExpandsAll relationships (target.mappings.filter fun column => column.property.isSome)
        inner →
      ExpandsAll relationships rest arrays →
      ExpandsAll relationships (mapping :: rest) ((inner ++ arrayOf mapping target) ++ arrays)

/-- The tables with whose rows reading a column fills arrays. -/
def Expands (relationships : Relationships) (mapping : ColumnMapping)
    (arrays : List Relationship) : Prop :=
  ExpandsAll relationships [mapping] arrays

section

variable {relationships : Relationships}

/-- The arrays of columns are those of some and those of the others. -/
theorem ExpandsAll.append {columns others : List ColumnMapping}
    {arrays further : List Relationship} (h : ExpandsAll relationships columns arrays)
    (hothers : ExpandsAll relationships others further) :
    ExpandsAll relationships (columns ++ others) (arrays ++ further) := by
  induction h with
  | nil => exact hothers
  | stored hreference _ ih => exact .stored hreference ih
  | uuid hreference hmethod hget _ ih =>
    rw [List.append_assoc]
    exact .uuid hreference hmethod hget ih
  | nested hreference hmethod hget hinner _ _ ih =>
    rw [List.append_assoc]
    exact .nested hreference hmethod hget hinner ih

/-- Which arrays columns have is determined. -/
theorem ExpandsAll.unique {columns : List ColumnMapping} {arrays others : List Relationship}
    (h : ExpandsAll relationships columns arrays)
    (hother : ExpandsAll relationships columns others) : arrays = others := by
  -- The kind of reference fixes the rule, so the other expansion has used the same one.
  induction h generalizing others with
  | nil =>
    cases hother
    rfl
  | stored hreference _ ih =>
    cases hother with
    | stored _ hrest => exact ih hrest
    | uuid hreference' => rw [hreference] at hreference'; cases hreference'
    | nested hreference' => rw [hreference] at hreference'; cases hreference'
  | uuid hreference hmethod hget _ ih =>
    cases hother with
    | stored hreference' => rw [hreference] at hreference'; cases hreference'
    | uuid hreference' _ hget' hrest =>
      cases hreference.symm.trans hreference'
      cases hget.symm.trans hget'
      rw [ih hrest]
    | nested hreference' hmethod' =>
      cases hreference.symm.trans hreference'
      rw [hmethod] at hmethod'
      cases hmethod'
  | nested hreference hmethod hget _ _ ihInner ih =>
    cases hother with
    | stored hreference' => rw [hreference] at hreference'; cases hreference'
    | uuid hreference' hmethod' =>
      cases hreference.symm.trans hreference'
      rw [hmethod] at hmethod'
      cases hmethod'
    | nested hreference' _ hget' hinner hrest =>
      cases hreference.symm.trans hreference'
      cases hget.symm.trans hget'
      rw [ihInner hinner, ih hrest]

/-- The clauses of arrays that are read, one pair behind the other. -/
def readClauses (arrays : List Relationship) : List Clause :=
  arrays.flatMap fun array => arrayClauses array.table "id"

/-- A reading has the clauses of the arrays that its column expands. -/
def HasClauses (relationships : Relationships) (mapping : ColumnMapping) (reading : Reading) :
    Prop :=
  ∃ arrays, Expands relationships mapping arrays ∧ Yields reading.render (readClauses arrays)

/-- The name of a column with plain names on the side of the domain is plain. -/
theorem isPlain_domainName {mapping : ColumnMapping} (h : mapping.HasPlainNames) :
    Text.IsPlain mapping.domainName := by
  unfold ColumnMapping.domainName
  split
  · next property hproperty => exact h.property property hproperty
  · exact h.column

/-- The entries are those of the columns, each under the name of its column and with the clauses of
the arrays that this expands. -/
def EntriesHaveClauses (relationships : Relationships) (columns : List ColumnMapping)
    (entries : List (String × Reading)) : Prop :=
  List.Forall₂ (fun inner entry => inner.HasPlainNames ∧ inner.domainName = entry.1 ∧
    HasClauses relationships inner entry.2) columns entries

/-- The entries of an object have the clauses of the arrays that its columns expand. -/
theorem exists_expandsAll_of_entries {columns : List ColumnMapping}
    {entries : List (String × Reading)} (h : EntriesHaveClauses relationships columns entries) :
    ∃ arrays found, ExpandsAll relationships columns arrays ∧
      List.Forall₂ Yields (renderEntries entries) found ∧ found.flatten = readClauses arrays := by
  induction h with
  | nil => exact ⟨[], [], .nil, by rw [renderEntries]; exact .nil, rfl⟩
  | @cons inner entry columns entries hfirst _ ih =>
    obtain ⟨hplain, hname, own, hexpands, hyields⟩ := hfirst
    obtain ⟨arrays, found, hall, hrest, hflatten⟩ := ih
    refine ⟨own ++ arrays, readClauses own :: found, hexpands.append hall, ?_, ?_⟩
    · rw [renderEntries]
      refine .cons ?_ hrest
      -- The key stands in quotes before the reading, and a plain name holds no keyword.
      have hkey := Yields.ofSolid (isSolid_of_isPlain (hname ▸ isPlain_domainName hplain))
      rw [String.append_assoc, String.append_assoc]
      exact (hkey.append (by decide) (hyields.indent 2)).literal_append (by decide)
    · rw [List.flatten_cons, hflatten, readClauses, readClauses, readClauses, List.flatMap_append]

/-- The reading of a reference has the clauses of its column, if the objects that it nests have
those of theirs. -/
theorem hasClauses_of_readReference
    {entries : Relationship → Except Cause (List (String × Reading))} {mapping : ColumnMapping}
    {reference : ColumnReference} {target : Relationship} {source : String} {reading : Reading}
    (hreference : mapping.column.reference = some reference)
    (hget : relationships.get reference.target.name = .ok target)
    (htarget : IsSolid target.table.toList) (hsource : IsSolid source.toList)
    (hentries : ∀ found, entries target = .ok found → EntriesHaveClauses relationships
      (target.mappings.filter fun column => column.property.isSome) found)
    (h : readReference entries reference.method mapping.column.isArray source target =
      .ok reading) : HasClauses relationships mapping reading := by
  -- The method and the shape decide between the four ways of reading. What is nested brings the
  -- arrays of its entries, and a list is itself one array more.
  unfold readReference at h
  cases hmethod : reference.method.isDirect <;> cases harray : mapping.column.isArray <;>
    rw [hmethod, harray] at h
  case false.false =>
    cases h
    refine ⟨_, .uuid hreference hmethod hget .nil, ?_⟩
    rw [arrayOf, harray]
    exact yields_uuid htarget hsource
  case false.true =>
    cases h
    refine ⟨_, .uuid hreference hmethod hget .nil, ?_⟩
    rw [arrayOf, harray]
    exact yields_uuids htarget hsource
  case true.false =>
    obtain ⟨found, hfound, rfl⟩ := map_ok_iff.mp h
    obtain ⟨inner, clauses, hexpands, hyields, hflatten⟩ :=
      exists_expandsAll_of_entries (hentries found hfound)
    refine ⟨_, .nested hreference hmethod hget hexpands .nil, ?_⟩
    have hclauses : readClauses ((inner ++ arrayOf mapping target) ++ []) = clauses.flatten := by
      simp [arrayOf, harray, hflatten]
    rw [hclauses]
    exact yields_object htarget hsource hyields
  case true.true =>
    obtain ⟨found, hfound, rfl⟩ := map_ok_iff.mp h
    obtain ⟨inner, clauses, hexpands, hyields, hflatten⟩ :=
      exists_expandsAll_of_entries (hentries found hfound)
    refine ⟨_, .nested hreference hmethod hget hexpands .nil, ?_⟩
    have hclauses : readClauses ((inner ++ arrayOf mapping target) ++ []) =
        clauses.flatten ++ arrayClauses target.table "id" := by
      simp [arrayOf, harray, hflatten, readClauses]
    rw [hclauses]
    exact yields_objects htarget hsource hyields

/-- The reading of a column with plain names has the clauses of the arrays that the column expands,
if those of nested columns do. -/
theorem hasClauses_of_readColumn (hnames : relationships.HasPlainNames)
    {entries : Relationship → Except Cause (List (String × Reading))} {depth : Nat}
    {table : String} {mapping : ColumnMapping} {reading : Reading}
    (htable : Text.IsPlain table) (hmapping : mapping.HasPlainNames)
    (hentries : ∀ target ∈ relationships.toList, ∀ found, entries target = .ok found →
      EntriesHaveClauses relationships
        (target.mappings.filter fun column => column.property.isSome) found)
    (h : readColumn relationships entries depth table mapping = .ok reading) :
    HasClauses relationships mapping reading := by
  have hsource := isSolid_qualified (isSolid_of_isPlain htable)
    (isSolid_of_isPlain hmapping.column)
  unfold readColumn at h
  cases hreference : mapping.column.reference with
  | none =>
    rw [hreference] at h
    cases h
    exact ⟨[], .stored hreference .nil, by rw [Reading.render]; exact .ofSolid hsource⟩
  | some reference =>
    rw [hreference] at h
    obtain ⟨target, hget, h⟩ := bind_ok_iff.mp h
    obtain ⟨inner, hinner, h⟩ := bind_ok_iff.mp h
    have ht := (Relationships.get_ok_iff.mp hget).1
    obtain ⟨arrays, hexpands, hyields⟩ := hasClauses_of_readReference hreference hget
      (isSolid_of_isPlain (hnames.table target ht)) hsource (hentries target ht) hinner
    -- At depth zero the reading gets a name, which adds no clause.
    split at h
    · cases h
      refine ⟨arrays, hexpands, ?_⟩
      have hname := Yields.ofSolid (isSolid_of_forall fun mark hmark hne =>
        Text.mark_notMem_snakeCase hmark hne mapping.domainName)
      rw [Reading.render, String.append_assoc, ← List.append_nil (readClauses arrays)]
      exact hyields.append (by decide) hname
    · cases h
      exact ⟨arrays, hexpands, hyields⟩

/-- A reading has the clauses of the arrays that its column expands, however many objects are
nested. -/
theorem hasClauses_of_read (hnames : relationships.HasPlainNames) {levels depth : Nat}
    {table : String} {mapping : ColumnMapping} {reading : Reading} (htable : Text.IsPlain table)
    (hmapping : mapping.HasPlainNames)
    (h : read relationships levels depth table mapping = .ok reading) :
    HasClauses relationships mapping reading := by
  -- By induction on the levels: what is nested has plain names too, and the clauses of its arrays.
  refine read_induction_columns
    (p := fun table inner => Text.IsPlain table ∧ inner.HasPlainNames)
    (q := fun _ inner nested => HasClauses relationships inner nested)
    (fun target ht inner hinner => ⟨hnames.table target ht, hnames.mapping target ht inner hinner⟩)
    (fun hplain hentries hread => ?_) ⟨htable, hmapping⟩ h
  refine hasClauses_of_readColumn hnames hplain.1 hplain.2 (fun target ht found hfound => ?_) hread
  exact (hentries target ht found hfound).imp fun _ _ hentry => ⟨hentry.1.2, hentry.2⟩

end

/-! ## Expressions -/

/-- The text keeps arrays in order, and does nothing else of the kind: for one after another it has
a clause that sorts by the numbers that the join behind it binds. -/
structure KeepsOrder (text : String) (arrays : List Relationship) (key : String) : Prop where
  /-- The clauses of the text are those of the arrays. -/
  clauses : clausesOf text.toList = arrays.flatMap fun array => arrayClauses array.table key
  /-- The text has as many clauses that sort as there are arrays. -/
  orders : occurrences .orderBy text.toList = arrays.length
  /-- The text has as many joins that number as there are arrays. -/
  joins : occurrences .withOrdinality text.toList = arrays.length

/-- A text with the clauses of arrays keeps them in order. -/
theorem Yields.keepsOrder {text key : String} {arrays : List Relationship}
    (h : Yields text (arrays.flatMap fun array => arrayClauses array.table key)) :
    KeepsOrder text arrays key := by
  -- Each array has one clause of either keyword.
  have hcount : ∀ keyword : Keyword, (arrays.flatMap fun array =>
      arrayClauses array.table key).countP (·.keyword == keyword) = arrays.length := by
    intro keyword
    have hone : List.countP (·.keyword == keyword) ∘
        (fun array : Relationship => arrayClauses array.table key) = fun _ => 1 := by
      funext array
      cases keyword <;> rfl
    rw [List.countP_flatMap, hone, List.map_const', List.sum_replicate_nat, Nat.mul_one]
  refine ⟨h.clausesOf_eq, ?_, ?_⟩
  · rw [← countP_clausesOf, h.clausesOf_eq, hcount]
  · rw [← countP_clausesOf, h.clausesOf_eq, hcount]

/-- The table with whose rows writing a column fills an array, if the column is an array that refers
by uuid. -/
inductive LooksUp (relationships : Relationships) (mapping : ColumnMapping) :
    List Relationship → Prop where
  /-- Any other column is written as it is bound, or from one row. -/
  | nothing : (∀ reference, mapping.column.reference = some reference →
      reference.method.isImplicit = true → mapping.column.isArray = false) →
      LooksUp relationships mapping []
  /-- An array that refers by uuid is written from the rows of its target. -/
  | array {reference : ColumnReference} {target : Relationship} :
      mapping.column.reference = some reference → reference.method.isImplicit = true →
      mapping.column.isArray = true → relationships.get reference.target.name = .ok target →
      LooksUp relationships mapping [target]

/-- The expression that is stored in a column has the clauses of the array that is looked up, if
there is one. -/
theorem exists_looksUp_of_input {relationships : Relationships}
    (hnames : relationships.HasPlainNames) {mapping : ColumnMapping} {text : String}
    (h : input relationships mapping = .ok text) :
    ∃ arrays, LooksUp relationships mapping arrays ∧ KeepsOrder text arrays "uuid" := by
  have hparameter := isSolid_parameter mapping
  have hbound : KeepsOrder (":" ++ parameterName mapping) [] "uuid" :=
    Yields.keepsOrder (.ofSolid hparameter)
  unfold input at h
  -- The text is the bound value alone, unless the column refers to rows by their uuids.
  cases hreference : mapping.column.reference with
  | none =>
    rw [hreference] at h
    cases h
    refine ⟨[], .nothing fun reference hsome => ?_, hbound⟩
    rw [hreference] at hsome
    cases hsome
  | some reference =>
    rw [hreference] at h
    dsimp only at h
    split at h
    · -- What is nested was given its number already, so its parameter is stored as it comes.
      next hdirect =>
      cases h
      refine ⟨[], .nothing fun other hsome himplicit => ?_, hbound⟩
      cases hreference.symm.trans hsome
      rw [ReferenceMethod.isImplicit, hdirect] at himplicit
      cases himplicit
    · next hdirect =>
      obtain ⟨target, hget, h⟩ := bind_ok_iff.mp h
      have himplicit : reference.method.isImplicit = true := by
        rw [ReferenceMethod.isImplicit, Bool.eq_false_iff.mpr hdirect]
        rfl
      have hlookUp := yields_lookUp (isSolid_of_isPlain
        (hnames.table target (Relationships.get_ok_iff.mp hget).1)) hparameter
          mapping.column.isArray
      obtain rfl := pure_ok_iff.mp h
      cases harray : mapping.column.isArray with
      | true =>
        rw [harray] at hlookUp
        exact ⟨[target], .array hreference himplicit harray hget, Yields.keepsOrder hlookUp⟩
      | false =>
        rw [harray] at hlookUp
        exact ⟨[], .nothing fun _ _ _ => harray, Yields.keepsOrder hlookUp⟩

end Sql

/-- Among tables, columns and properties with plain names, the expressions of a column keep arrays
in order, however deep they are nested: what reads a column has one clause that sorts and one join
that numbers for each array that the column expands, and no others, and what writes it has one of
each if the column is an array that refers by uuid, and else none. -/
theorem arrays_keep_order {relationships : Relationships} (hnames : relationships.HasPlainNames)
    {mapping : ColumnMapping} (hmapping : mapping.HasPlainNames) :
    (∀ table, Text.IsPlain table → ∀ text,
      Sql.select relationships table mapping = .ok text →
        ∃ arrays, Sql.Expands relationships mapping arrays ∧
          (∀ others, Sql.Expands relationships mapping others → others = arrays) ∧
          Sql.KeepsOrder text arrays "id") ∧
    ∀ text, Sql.input relationships mapping = .ok text →
      ∃ arrays, Sql.LooksUp relationships mapping arrays ∧ Sql.KeepsOrder text arrays "uuid" := by
  refine ⟨fun table htable text h => ?_, fun text => Sql.exists_looksUp_of_input hnames⟩
  obtain ⟨reading, hread, rfl⟩ := map_ok_iff.mp h
  obtain ⟨arrays, hexpands, hyields⟩ := Sql.hasClauses_of_read hnames htable hmapping hread
  exact ⟨arrays, hexpands, fun others hothers => hothers.unique hexpands, hyields.keepsOrder⟩

/-- The table of stations. -/
def stationTable : Relationship :=
  ⟨"station", "Station", [⟨none, .reserved "id"⟩, ⟨none, .reserved "uuid"⟩], ⟨[], []⟩⟩

/-- The column that holds the stations of a leg. -/
def stationsColumn : ColumnMapping :=
  ⟨some (.ofType "stationUuids" (.array .string)),
    ⟨"station_ids", false, false, true, some ⟨.implicitByUuid, ⟨"Station", .entity⟩⟩⟩⟩

/-- The table of legs. -/
def legTable : Relationship :=
  ⟨"leg", "Leg", [⟨none, .reserved "id"⟩, stationsColumn], ⟨[], []⟩⟩

/-- The column that holds the legs of a journey. -/
def legsColumn : ColumnMapping :=
  ⟨some (.ofType "legs" (.array (.reference ⟨"Leg", .literal⟩))),
    ⟨"leg_ids", false, false, true, some ⟨.directByNesting, ⟨"Leg", .literal⟩⟩⟩⟩

/-- The tables that the legs of a journey are read from. -/
def timetable : Relationships :=
  ⟨[stationTable, legTable], by decide⟩

/-- Reading the legs of a journey keeps two arrays in order: the stations of each leg, and the legs
themselves. -/
theorem arrays_keep_order_timetable :
    timetable.HasPlainNames ∧ legsColumn.HasPlainNames ∧ Text.IsPlain "journey" ∧
      ∃ text, Sql.select timetable "journey" legsColumn = .ok text ∧
        Sql.KeepsOrder text [stationTable, legTable] "id" := by
  have hnames : timetable.HasPlainNames := by decide
  have hlegs : legsColumn.HasPlainNames := by decide
  have hjourney : Text.IsPlain "journey" := by decide
  obtain ⟨reading, hread⟩ := exists_ok_of_toBool
    (show (Sql.read timetable timetable.size 0 "journey" legsColumn).toBool = true by decide)
  have hselect : Sql.select timetable "journey" legsColumn = .ok reading.render :=
    map_ok_iff.mpr ⟨reading, hread, rfl⟩
  obtain ⟨arrays, -, hunique, hkeeps⟩ :=
    (arrays_keep_order hnames hlegs).1 "journey" hjourney _ hselect
  -- The arrays are determined, so it is enough to tell which these are.
  have hstations : Sql.ExpandsAll timetable [stationsColumn]
      (Sql.arrayOf stationsColumn stationTable ++ []) := .uuid rfl rfl rfl .nil
  have hexpands : Sql.ExpandsAll timetable [legsColumn]
      (([stationTable] ++ Sql.arrayOf legsColumn legTable) ++ []) :=
    .nested rfl rfl rfl hstations .nil
  rw [← hunique _ hexpands] at hkeeps
  exact ⟨hnames, hlegs, hjourney, _, hselect, hkeeps⟩

end DomainTables
