import Mathlib.Data.List.Find
import DomainTables.Proofs.Carrying
import DomainTables.Proofs.Nesting
import DomainTables.Proofs.Reordering

/-!
# The order of properties

Declaring the properties of an object in another order moves columns of its own table and nothing
else. Reserved columns look their properties up by name, further columns are made one by one, and
the entries of a natural key find the same columns, since no two properties share a name
(`derive_of_properties_perm`). The table refers to the same objects as before, so the order of
provisioning stays.

What is generated for a column depends on the relationships that the column refers to, on those that
these refer to, and so on (`Expressions.areOf_congr`). They all stand before the relationship of the
column in the order of provisioning. So from the columns of an object the object itself is never
reached, and what is generated for them stays the same (`compile_of_properties_perm`), while an
object that nests it lists the moved columns in their new order.
-/

namespace DomainTables

/-! ## What is generated for a column -/

/-- The texts that are generated for a column. -/
structure Expressions where
  /-- The expression that reads the column, by the table or alias that it is read from. -/
  select : String → String
  /-- The expression that is stored in the column. -/
  input : String
  /-- The name of its parameter. -/
  parameter : String
  /-- The expression that client code binds, by the owner and the context. -/
  argument : String → Client.Context → String

/-- All texts are generated for the column, none of them fails. -/
structure Expressions.AreOf (expressions : Expressions) (relationships : Relationships)
    (mapping : ColumnMapping) : Prop where
  /-- The column is read by the expression. -/
  select : ∀ table, Sql.select relationships table mapping = .ok (expressions.select table)
  /-- The column is written by the expression. -/
  input : Sql.input relationships mapping = .ok expressions.input
  /-- The parameter has the name. -/
  parameter : Sql.parameterName mapping = expressions.parameter
  /-- Client code binds the expression. -/
  argument : ∀ owner context, Client.argument relationships owner mapping context =
    .ok (expressions.argument owner context)

/-- In relationships that are in order, all texts are generated for every column. -/
theorem exists_expressions {relationships : Relationships} {order : List String}
    (hclosed : relationships.IsClosed) (horder : relationships.IsOrderedBy order)
    {relationship : Relationship} (hr : relationship ∈ relationships.toList)
    {mapping : ColumnMapping} (hmapping : mapping ∈ relationship.mappings) :
    ∃ expressions : Expressions, expressions.AreOf relationships mapping := by
  have hselect : ∀ table, ∃ text, Sql.select relationships table mapping = .ok text := by
    intro table
    obtain ⟨reading, hreading⟩ := Sql.exists_read_of_isOrderedBy hclosed horder hr hmapping 0 table
    exact ⟨_, map_ok_iff.mpr ⟨reading, hreading _ (Nat.le_refl _), rfl⟩⟩
  have hfound := fun reference (hreference : mapping.column.reference = some reference) =>
    Sql.exists_get_of_isClosed hclosed hr hmapping hreference
  -- The table is an argument of the reading, so a text for each makes a function of tables.
  choose select hselect using hselect
  obtain ⟨input, hinput⟩ := Sql.exists_input hfound
  choose argument hargument using Sql.exists_argument hfound
  exact ⟨⟨select, input, _, argument⟩, hselect, hinput, rfl, hargument⟩

/-! ## What this depends on -/

/-- Two sets of relationships agree on names that lead to no other names. -/
structure Relationships.AgreeOn (relationships relationships' : Relationships)
    (p : String → Prop) : Prop where
  /-- They have the same relationship under each of the names. -/
  get : ∀ name, p name → relationships'.get name = relationships.get name
  /-- What such a relationship refers to is among the names. -/
  closed : ∀ name relationship, p name → relationships.get name = .ok relationship →
    ∀ inner ∈ relationship.referencedNames, p inner

section

variable {relationships relationships' : Relationships} {mapping : ColumnMapping}
  {p : String → Prop} (h : relationships.AgreeOn relationships' p)
  (hmapping : ∀ reference, mapping.column.reference = some reference → p reference.target.name)

include h hmapping

/-- The same texts are generated for a column among as many relationships that agree on what it
refers to. -/
theorem Expressions.areOf_congr (hsize : relationships'.size = relationships.size)
    {expressions : Expressions} (hexpressions : expressions.AreOf relationships mapping) :
    expressions.AreOf relationships' mapping := by
  have hget : ∀ reference, mapping.column.reference = some reference →
      relationships'.get reference.target.name = relationships.get reference.target.name :=
    fun reference hreference => h.get _ (hmapping reference hreference)
  refine ⟨fun table => ?_, ?_, hexpressions.parameter, fun owner context => ?_⟩
  · rw [← hexpressions.select table, Sql.select, Sql.selectAt, hsize,
      Sql.read_congr fun name hname => h.get name (hname.of_closed h.closed hmapping)]
    rfl
  · rw [← hexpressions.input, Sql.input_congr hget]
  · rw [← hexpressions.argument owner context, Client.argument_congr hget]

end

/-! ## The table of an object whose properties are moved -/

/-- Two tables of an object, of which the second follows another order of the properties. -/
structure Relationship.Follows (object reordered : DomainObject)
    (relationship relationship' : Relationship) : Prop where
  /-- The tables have one name. -/
  table : relationship'.table = relationship.table
  /-- They are those of one domain object. -/
  domainObject : relationship'.domainObject = relationship.domainObject
  /-- The reserved columns come first and are the same, and so are the further columns but for their
  order, which is that of the properties. -/
  mappings : ∃ reserved further further',
    relationship.mappings = reserved ++ further ∧ relationship'.mappings = reserved ++ further' ∧
    reserved.map ColumnMapping.column =
      object.variant.reserved.map (fun column => Column.reserved column.column) ∧
    further'.Perm further ∧
    further.map ColumnMapping.property = object.furtherProperties.map some ∧
    further'.map ColumnMapping.property = reordered.furtherProperties.map some
  /-- The natural key is the same, unless it consists of all columns in their order. -/
  unique : object.variant ≠ .literal → relationship'.unique = relationship.unique

namespace DomainObject

variable {object : DomainObject} {properties : Properties}

/-- Entities and events declare their natural key. -/
theorem unique_ne_none_of_checkDecorations (h : object.checkDecorations = .ok ())
    (hvariant : object.variant ≠ .literal) : object.decorations.unique ≠ none := by
  obtain ⟨entries, hunique, -⟩ := (checkDecorations_ok_iff.mp h).unique hvariant
  rw [hunique]
  exact Option.some_ne_none entries

/-- A further column stores a property if it is made for a property of that name. -/
theorem stores_of_mapProperty {known : Universe} {limits : Limits} {property : Property}
    {mapping : ColumnMapping} (h : object.mapProperty known limits property = .ok mapping)
    (name : String) : mapping.stores name = (property.name == name) := by
  obtain ⟨-, _, -, rfl⟩ := mapProperty_ok_iff.mp h
  rfl

/-- Properties under their own names have distinct names. -/
theorem IsKeyedByName.nodup_map_name (hkeys : object.IsKeyedByName) :
    (object.propertyList.map Property.name).Nodup := by
  have hnames : object.propertyList.map Property.name = object.properties.keys := by
    rw [propertyList, List.map_map]
    exact List.map_congr_left fun entry hentry => (hkeys entry hentry).symm
  rw [hnames]
  exact object.properties.nodup

/-- No two further columns of an object that declares its properties under their names store
properties of one name. -/
theorem IsKeyedByName.eq_of_stores (hkeys : object.IsKeyedByName) {known : Universe}
    {limits : Limits} {further : List ColumnMapping}
    (hfurther : List.Forall₂ (fun property mapping =>
      object.mapProperty known limits property = .ok mapping) object.furtherProperties further)
    (name : String) : {mapping ∈ further | mapping.stores name}.Subsingleton := by
  rintro mapping ⟨hmem, hstores⟩ mapping' ⟨hmem', hstores'⟩
  obtain ⟨property, hproperty, hmap⟩ := exists_left_of_forall₂ hfurther hmem
  obtain ⟨property', hproperty', hmap'⟩ := exists_left_of_forall₂ hfurther hmem'
  rw [stores_of_mapProperty hmap, beq_iff_eq] at hstores
  rw [stores_of_mapProperty hmap', beq_iff_eq] at hstores'
  obtain rfl : property = property' :=
    List.inj_on_of_nodup_map hkeys.nodup_map_name (List.mem_filter.mp hproperty).1
      (List.mem_filter.mp hproperty').1 (hstores.trans hstores'.symm)
  exact Except.ok.inj (hmap.symm.trans hmap')

/-- A natural key is found in the columns whatever order they are in, as long as no two further
columns store properties of one name. Only a key that is not declared follows the order. -/
theorem uniqueKey_of_perm (properties : Properties) {reserved further further' : List ColumnMapping}
    (hfurther : further.Perm further')
    (hstores : ∀ name, {mapping ∈ further | mapping.stores name}.Subsingleton)
    {unique : UniqueKey} (h : object.uniqueKey reserved further = .ok unique) :
    ∃ unique', { object with properties := properties }.uniqueKey reserved further' =
        .ok unique' ∧
      (object.decorations.unique ≠ none → unique' = unique) := by
  unfold uniqueKey at h ⊢
  cases hunique : object.decorations.unique with
  | none => exact ⟨_, rfl, fun hne => absurd rfl hne⟩
  | some entries =>
    -- The search passes the reserved columns first, and at most one of the others answers.
    have hcolumn : { object with properties := properties }.uniqueColumn (reserved ++ further') =
        object.uniqueColumn (reserved ++ further) := by
      funext entry
      unfold uniqueColumn
      rw [List.find?_append, List.find?_append,
        List.find?_eq_find?_of_perm hfurther (hstores entry)]
    rw [hunique] at h
    dsimp only at h ⊢
    rw [hcolumn]
    exact ⟨unique, h, fun _ => rfl⟩

section

variable (hperm : object.properties.toList.Perm properties.toList)

include hperm

/-- A key has the same property in another order. -/
theorem property?_of_perm (key : String) :
    { object with properties := properties }.property? key = object.property? key := by
  unfold property?
  rw [Keyed.find?_eq_of_perm hperm]

/-- The further properties are the same in another order. -/
theorem furtherProperties_perm :
    object.furtherProperties.Perm { object with properties := properties }.furtherProperties :=
  (hperm.map _).filter _

/-- The reserved columns are the same in another order. -/
theorem mapReserved_of_perm (reserved : ReservedColumn) :
    { object with properties := properties }.mapReserved reserved =
      object.mapReserved reserved := by
  unfold mapReserved
  rw [property?_of_perm hperm]

end

end DomainObject

/-- An object that declares its properties under their names has the same table in another order of
the properties, up to the order of the further columns. -/
theorem derive_of_properties_perm {known : Universe} {limits : Limits} {object : DomainObject}
    {properties : Properties} (hkeys : object.IsKeyedByName)
    (hperm : object.properties.toList.Perm properties.toList) {relationship : Relationship}
    (h : derive known limits object = .ok relationship) :
    ∃ relationship', derive known limits { object with properties := properties } =
        .ok relationship' ∧
      relationship.Follows object { object with properties := properties } relationship' := by
  obtain ⟨hchecked, reserved, further, unique, hreserved, hfurther, hunique, rfl⟩ :=
    derive_ok_iff.mp h
  -- The further columns, brought into the other order.
  obtain ⟨further', hfurther', hcolumns⟩ :=
    List.perm_comp_forall₂ (DomainObject.furtherProperties_perm hperm).symm hfurther
  obtain ⟨unique', hunique', hsame⟩ := DomainObject.uniqueKey_of_perm properties
    hcolumns.symm (hkeys.eq_of_stores hfurther) hunique
  have hderive : derive known limits { object with properties := properties } =
      .ok ⟨Text.snakeCase object.name, object.name, reserved ++ further', unique'⟩ := by
    refine derive_ok_iff.mpr ⟨hchecked, reserved, further', unique', ?_, hfurther', hunique', rfl⟩
    simp only [DomainObject.mapReserved_of_perm hperm]
    exact hreserved
  have hcolumn : reserved.map ColumnMapping.column =
      object.variant.reserved.map fun column => Column.reserved column.column := by
    refine (map_eq_map_of_forall₂ (fun column mapping hmap => ?_) hreserved).symm
    exact (DomainObject.mapReserved_column hmap).symm
  refine ⟨_, hderive, rfl, rfl, ⟨reserved, further, further', rfl, rfl, hcolumn, hcolumns, ?_, ?_⟩,
    fun hvariant => ?_⟩
  · exact DomainObject.map_property_of_mapProperty hfurther
  · exact DomainObject.map_property_of_mapProperty hfurther'
  · exact hsame (DomainObject.unique_ne_none_of_checkDecorations hchecked hvariant)

/-! ## Compilations -/

/-- Tables whose columns are in different orders refer to the same objects. -/
theorem Relationship.Follows.mem_referencedNames_iff {object reordered : DomainObject}
    {relationship relationship' : Relationship}
    (h : relationship.Follows object reordered relationship') (name : String) :
    name ∈ relationship'.referencedNames ↔ name ∈ relationship.referencedNames := by
  obtain ⟨reserved, further, further', hmappings, hmappings', -, hperm, -, -⟩ := h.mappings
  unfold referencedNames
  rw [hmappings, hmappings']
  exact ((hperm.append_left reserved).filterMap _).mem_iff

namespace Relationships

variable {relationships : Relationships} {relationship relationship' : Relationship}

/-- A relationship in the place of one that refers to the same objects keeps the dependencies. -/
theorem sameDependencies_replace (hr : relationship ∈ relationships.toList)
    (hname : relationship.domainObject = relationship'.domainObject)
    (hreferenced : ∀ name, name ∈ relationship.referencedNames ↔
      name ∈ relationship'.referencedNames) :
    relationships.SameDependencies (relationships.replace relationship') := by
  refine List.Perm.of_eq ?_
  unfold entries Keyed.replace
  rw [List.map_map, List.map_map, List.map_map]
  refine List.map_congr_left fun other hother => ?_
  simp only [Function.comp_apply]
  split
  · -- Names are not repeated, so what is exchanged is the given relationship and no other.
    next heq =>
    obtain rfl := Keyed.eq_of_key_eq hother hr (heq.trans hname.symm)
    rw [hname, sortedNames_congr hreferenced]
  · rfl

/-- Relationships in order agree with those in which one is replaced on all names that stand before
its name. -/
theorem agreeOn_replace {order : List String} (horder : relationships.IsOrderedBy order)
    (relationship : Relationship) :
    relationships.AgreeOn (relationships.replace relationship) fun name =>
      order.idxOf name < order.idxOf relationship.domainObject := by
  refine ⟨fun name hlt => ?_, fun name found hlt hfound inner hinner => ?_⟩
  · have hne : name ≠ relationship.domainObject := by
      rintro rfl
      exact Nat.lt_irrefl _ hlt
    exact get_congr (Keyed.find?_replace_of_ne hne)
  · obtain ⟨hmem, rfl⟩ := get_ok_iff.mp hfound
    exact Nat.lt_trans (horder.before found hmem inner hinner) hlt

end Relationships

/-- The order in which an object declares its properties is irrelevant to what is generated for
their columns. If the properties are declared under their names, a list of objects compiles with
them in any other order too, with the same order of provisioning and the same relationships of all
other objects. The relationship of the object follows the order of its properties, and the same
texts are generated for each of its columns. -/
theorem compile_of_properties_perm {limits : Limits} {before after : List DomainObject}
    {object : DomainObject} {properties : Properties} (hkeys : object.IsKeyedByName)
    (hperm : object.properties.toList.Perm properties.toList) {compilation : Compilation}
    (h : compile limits (before ++ object :: after) = .ok compilation) :
    ∃ compilation',
      compile limits (before ++ { object with properties := properties } :: after) =
        .ok compilation' ∧
      compilation'.order = compilation.order ∧
      compilation'.relationships.keys = compilation.relationships.keys ∧
      (∀ name, name ≠ object.name →
        compilation'.relationships.find? name = compilation.relationships.find? name) ∧
      ∃ relationship relationship',
        compilation.relationships.find? object.name = some relationship ∧
        compilation'.relationships.find? object.name = some relationship' ∧
        relationship.Follows object { object with properties := properties } relationship' ∧
        ∀ mapping ∈ relationship.mappings, ∃ expressions : Expressions,
          expressions.AreOf compilation.relationships mapping ∧
          expressions.AreOf compilation'.relationships mapping := by
  obtain ⟨known, hknown, hderive, hcompiled⟩ := compile_ok_iff.mp h
  have hobject : object ∈ known.toList := hknown ▸ List.mem_append_right _ List.mem_cons_self
  obtain ⟨relationship, hfind, hfrom⟩ := exists_find?_of_deriveAll hderive hobject
  obtain ⟨relationship', hfrom', hfollows⟩ := derive_of_properties_perm hkeys hperm hfrom
  obtain ⟨hr, hname⟩ := Keyed.find?_eq_some_iff.mp hfind
  have hname' : relationship'.domainObject = object.name :=
    hfollows.domainObject.trans (domainObject_of_derive hfrom)
  -- The object is replaced among the known ones, and its relationship among the relationships.
  have hvariant : ∀ declared ∈ known.toList,
      declared.name = { object with properties := properties }.name →
        declared.variant = { object with properties := properties }.variant := by
    intro declared hdeclared heq
    rw [Keyed.eq_of_key_eq hdeclared hobject heq]
  have hderive' := deriveAll_replace hderive hvariant hfrom'
  -- The order stays, because the references stay.
  have hclosed := (Relationships.provisioningOrder_ok_iff.mp hcompiled).1
  have horder := Relationships.isOrderedBy_of_provisioningOrder hcompiled
  have hdependencies := Relationships.sameDependencies_replace hr (hname.trans hname'.symm)
    fun name => (hfollows.mem_referencedNames_iff name).symm
  rw [hdependencies.provisioningOrder_eq hclosed] at hcompiled
  have hagree := Relationships.agreeOn_replace horder relationship'
  refine ⟨⟨compilation.relationships.replace relationship', compilation.order⟩,
    compile_ok_iff.mpr ⟨known.replace _, Keyed.toList_replace hknown rfl, hderive', hcompiled⟩, rfl,
    Keyed.keys_replace _ _, fun name hne => Keyed.find?_replace_of_ne (hname' ▸ hne),
    relationship, relationship', hfind, ?_, hfollows, fun mapping hmapping => ?_⟩
  · rw [← hname']
    exact Keyed.find?_replace_self
      (Keyed.mem_keys_iff.mpr ⟨relationship, hr, hname.trans hname'.symm⟩)
  · obtain ⟨expressions, hexpressions⟩ := exists_expressions hclosed horder hr hmapping
    refine ⟨expressions, hexpressions, Expressions.areOf_congr hagree (fun reference href => ?_)
      (Keyed.size_replace _ _) hexpressions⟩
    -- What a column of the object refers to stands before the object.
    have hbefore := horder.before relationship hr reference.target.name
      (Relationships.mem_referencedNames_iff.mpr ⟨mapping, hmapping, reference, href, rfl⟩)
    rwa [hname, ← hname'] at hbefore

/-- The train of the railway. -/
def train : DomainObject :=
  railway.head (by decide)

/-- The properties of the train, the last one first. -/
def trainProperties : Properties :=
  ⟨train.properties.toList.reverse, by decide +kernel⟩

/-- The railway compiles with the properties of the train in the opposite order too. The tables are
created in the same order, and the same texts are generated for the columns of the train. -/
theorem compile_of_properties_perm_railway :
    train.IsKeyedByName ∧ train.properties.toList.Perm trainProperties.toList ∧
      ∃ compilation compilation', compile {} railway = .ok compilation ∧
        compile {} ({ train with properties := trainProperties } :: railway.tail) =
          .ok compilation' ∧
        compilation'.order = compilation.order ∧
        ∃ relationship, compilation.relationships.find? "Train" = some relationship ∧
          ∀ mapping ∈ relationship.mappings, ∃ expressions : Expressions,
            expressions.AreOf compilation.relationships mapping ∧
            expressions.AreOf compilation'.relationships mapping := by
  have hkeys : train.IsKeyedByName := by
    unfold DomainObject.IsKeyedByName
    decide +kernel
  have hperm : train.properties.toList.Perm trainProperties.toList :=
    (List.reverse_perm train.properties.toList).symm
  obtain ⟨compilation, h⟩ := exists_compile_railway
  have hsplit : compile {} ([] ++ train :: railway.tail) = .ok compilation := h
  obtain ⟨compilation', h', horder, -, -, relationship, relationship', hfind, -, -, hexpressions⟩ :=
    compile_of_properties_perm hkeys hperm hsplit
  exact ⟨hkeys, hperm, compilation, compilation', h, h', horder, relationship, hfind, hexpressions⟩

end DomainTables
