import DomainTables.Proofs.Compilation
import DomainTables.Proofs.Reach

/-!
# Expressions of a compilation

In relationships that are in order, every path of nested objects goes down in that order
(`NestingPath.descends`). So it repeats no relationship and is shorter than there are relationships,
which is why every column of a compilation can be read, and written, whatever it refers to
(`expressions_of_compile`).
-/

namespace DomainTables

namespace Sql

/-! ## Paths in an order -/

section

variable {relationships : Relationships} {mapping : ColumnMapping}

/-- Where every name referred to has a relationship, the references of a column are found. -/
theorem exists_get_of_isClosed (hclosed : relationships.IsClosed) {relationship : Relationship}
    (hr : relationship ∈ relationships.toList) (hmapping : mapping ∈ relationship.mappings)
    {reference : ColumnReference} (hreference : mapping.column.reference = some reference) :
    ∃ target, relationships.get reference.target.name = .ok target :=
  Relationships.exists_get_ok_iff.mpr (hclosed.mem_keys hr hmapping hreference)

/-- What a column nests stands in front of its relationship in an order. -/
theorem idxOf_lt_of_directReference {order : List String}
    (horder : relationships.IsOrderedBy order) {relationship target : Relationship}
    (hr : relationship ∈ relationships.toList) (hmapping : mapping ∈ relationship.mappings)
    {reference : ColumnReference} (hdirect : mapping.directReference? = some reference)
    (htarget : relationships.get reference.target.name = .ok target) :
    target ∈ relationships.toList ∧
      order.idxOf target.domainObject < order.idxOf relationship.domainObject := by
  obtain ⟨hreference, -⟩ := ColumnMapping.directReference?_eq_some_iff.mp hdirect
  obtain ⟨ht, hname⟩ := Relationships.get_ok_iff.mp htarget
  exact ⟨ht, hname ▸ horder.idxOf_lt hr hmapping hreference⟩

/-- A path goes down in an order of the relationships, starting below the relationship of its
column. -/
theorem NestingPath.descends {order : List String} (horder : relationships.IsOrderedBy order)
    {path : List Relationship} (h : NestingPath relationships mapping path)
    {relationship : Relationship} (hr : relationship ∈ relationships.toList)
    (hmapping : mapping ∈ relationship.mappings) :
    (relationship :: path).Pairwise fun outer inner =>
      order.idxOf inner.domainObject < order.idxOf outer.domainObject := by
  induction h generalizing relationship with
  | enter hdirect htarget =>
    obtain ⟨-, hlt⟩ := idxOf_lt_of_directReference horder hr hmapping hdirect htarget
    exact List.pairwise_pair.mpr hlt
  | through hdirect htarget hinner _ _ ih =>
    obtain ⟨ht, hlt⟩ := idxOf_lt_of_directReference horder hr hmapping hdirect htarget
    have hpair := ih ht hinner
    refine List.pairwise_cons.mpr ⟨?_, hpair⟩
    -- The rest of the path stands in front of the target, which stands in front of the start.
    intro next hnext
    rcases List.mem_cons.mp hnext with rfl | hnext
    · exact hlt
    · exact Nat.lt_trans ((List.pairwise_cons.mp hpair).1 next hnext) hlt

/-- In relationships that are in order, a path repeats no relationship, and is shorter than there
are relationships. -/
theorem NestingPath.nodup_and_length_lt {order : List String}
    (horder : relationships.IsOrderedBy order) {path : List Relationship}
    (h : NestingPath relationships mapping path) {relationship : Relationship}
    (hr : relationship ∈ relationships.toList) (hmapping : mapping ∈ relationship.mappings) :
    (relationship :: path).Nodup ∧ path.length < relationships.size := by
  have hnodup : (relationship :: path).Nodup := by
    refine (h.descends horder hr hmapping).imp fun hlt heq => ?_
    rw [heq] at hlt
    exact Nat.lt_irrefl _ hlt
  refine ⟨hnodup, ?_⟩
  have hlength := (hnodup.subperm (List.cons_subset.mpr ⟨hr, h.subset⟩)).length_le
  rwa [List.length_cons] at hlength

/-- In relationships that are in order, a column reaches names that stand before its own
relationship. -/
theorem Reaches.idxOf_lt {order : List String} (horder : relationships.IsOrderedBy order)
    {relationship : Relationship} (hr : relationship ∈ relationships.toList)
    (hmapping : mapping ∈ relationship.mappings) {name : String}
    (h : Reaches relationships mapping name) :
    order.idxOf name < order.idxOf relationship.domainObject := by
  refine h.of_closed (p := fun name => order.idxOf name < order.idxOf relationship.domainObject)
    (fun name found hlt hfound inner hinner => ?_) fun reference hreference => ?_
  · obtain ⟨hmem, rfl⟩ := Relationships.get_ok_iff.mp hfound
    exact Nat.lt_trans (horder.before found hmem inner hinner) hlt
  · exact horder.idxOf_lt hr hmapping hreference

/-- In relationships that are in order, a column has one reading, which is found as soon as there
are as many levels as relationships. -/
theorem exists_read_of_isOrderedBy {order : List String} (hclosed : relationships.IsClosed)
    (horder : relationships.IsOrderedBy order) {relationship : Relationship}
    (hr : relationship ∈ relationships.toList) (hmapping : mapping ∈ relationship.mappings)
    (depth : Nat) (table : String) :
    ∃ reading, ∀ levels, relationships.size ≤ levels →
      read relationships levels depth table mapping = .ok reading := by
  have hread : ∃ reading,
      read relationships relationships.size depth table mapping = .ok reading := by
    refine exists_read_iff.mpr ⟨fun _ => Reaches.mem_keys hclosed hr hmapping, fun path hpath => ?_⟩
    exact Nat.le_of_lt (hpath.nodup_and_length_lt horder hr hmapping).2
  obtain ⟨reading, hreading⟩ := hread
  exact ⟨reading, fun levels hle => read_mono hle hreading⟩

end

/-! ## Expressions -/

section

variable {relationships : Relationships} {mapping : ColumnMapping}
  (hfound : ∀ reference, mapping.column.reference = some reference →
    ∃ target, relationships.get reference.target.name = .ok target)

include hfound

/-- A column whose reference is found can be written. -/
theorem exists_input : ∃ text, input relationships mapping = .ok text := by
  cases h : input relationships mapping with
  | ok text => exact ⟨text, rfl⟩
  | error cause =>
    obtain ⟨reference, hreference, -, hmissing, -⟩ := input_error_iff.mp h
    exact (hmissing (Relationships.exists_get_ok_iff.mp (hfound reference hreference))).elim

/-- A column whose reference is found can be bound in client code. -/
theorem exists_argument (owner : String) (context : Client.Context) :
    ∃ text, Client.argument relationships owner mapping context = .ok text := by
  cases h : Client.argument relationships owner mapping context with
  | ok text => exact ⟨text, rfl⟩
  | error cause =>
    obtain ⟨reference, hreference, -, hmissing, -⟩ := Client.argument_error_iff.mp h
    exact (hmissing (Relationships.exists_get_ok_iff.mp (hfound reference hreference))).elim

end

end Sql

/-- Every column of a compilation can be read, written and bound in client code. Reading it enters
no relationship twice in a row of nested objects, hence fewer than there are, and gives the same
reading however many more levels are allowed. -/
theorem expressions_of_compile {limits : Limits} {objects : List DomainObject}
    {compilation : Compilation} (h : compile limits objects = .ok compilation) :
    ∀ relationship ∈ compilation.relationships.toList,
      (∃ texts, Sql.selectAll compilation.relationships relationship = .ok texts) ∧
      (∃ texts, Sql.inputAll compilation.relationships relationship = .ok texts) ∧
      ∀ mapping ∈ relationship.mappings,
        (∀ table, ∃ text, Sql.select compilation.relationships table mapping = .ok text) ∧
        (∃ text, Sql.input compilation.relationships mapping = .ok text) ∧
        (∀ owner context, ∃ text,
          Client.argument compilation.relationships owner mapping context = .ok text) ∧
        (∀ path, Sql.NestingPath compilation.relationships mapping path →
          (relationship :: path).Nodup ∧ path.length < compilation.relationships.size) ∧
        ∀ depth table, ∃ reading, ∀ levels, compilation.relationships.size ≤ levels →
          Sql.read compilation.relationships levels depth table mapping = .ok reading := by
  intro relationship hr
  obtain ⟨known, -, -, hcompiled⟩ := compile_ok_iff.mp h
  have hclosed := (Relationships.provisioningOrder_ok_iff.mp hcompiled).1
  have horder := Relationships.isOrderedBy_of_provisioningOrder hcompiled
  -- Reading uses the order, in which no path comes back to where it was. Writing and client code
  -- look one name up, so for them it is enough that all names are there.
  have hselect : ∀ mapping ∈ relationship.mappings, ∀ table,
      ∃ text, Sql.select compilation.relationships table mapping = .ok text := by
    intro mapping hmapping table
    obtain ⟨reading, hreading⟩ := Sql.exists_read_of_isOrderedBy hclosed horder hr hmapping 0 table
    exact ⟨_, map_ok_iff.mpr ⟨reading, hreading _ (Nat.le_refl _), rfl⟩⟩
  have hfound : ∀ {mapping}, mapping ∈ relationship.mappings →
      ∀ reference : ColumnReference, mapping.column.reference = some reference →
        ∃ target, compilation.relationships.get reference.target.name = .ok target :=
    fun hmapping _ => Sql.exists_get_of_isClosed hclosed hr hmapping
  refine ⟨exists_mapM_ok_iff.mpr fun mapping hmapping => hselect mapping hmapping _,
    exists_mapM_ok_iff.mpr fun mapping hmapping => Sql.exists_input (hfound hmapping), ?_⟩
  intro mapping hmapping
  refine ⟨hselect mapping hmapping, Sql.exists_input (hfound hmapping),
    Sql.exists_argument (hfound hmapping), ?_, ?_⟩
  · exact fun path hpath => hpath.nodup_and_length_lt horder hr hmapping
  · exact Sql.exists_read_of_isOrderedBy hclosed horder hr hmapping

/-- All columns of the railway can be read, and those of a station enter two nested objects. -/
theorem expressions_of_compile_railway :
    ∃ compilation, compile {} railway = .ok compilation ∧
      ∀ relationship ∈ compilation.relationships.toList,
        ∃ texts, Sql.selectAll compilation.relationships relationship = .ok texts := by
  obtain ⟨compilation, h⟩ := exists_compile_railway
  exact ⟨compilation, h, fun relationship hr => (expressions_of_compile h relationship hr).1⟩

end DomainTables
