import DomainTables.Proofs.CamelCase
import DomainTables.Proofs.Coherence

/-!
# Names of parameters

The parameter of a column is named after the column if that nests an object, and after the property
if not (`ColumnMapping.parameterSource`), in camel case both times. So columns of different names
share a parameter in three ways. The boundary in front of a digit is lost; or a property and the
uuid of an object have names with the same words, which makes `engineer_uuid` of the one and
`engineer_id` of the other; or the words of a column are not those of the name that the parameter is
made of (`ColumnMapping.SharesParameter`).

There is no fourth way, since what kind of reference a column makes shows in the last word: the mark
of a uuid ends in other letters than the name of a column that nests objects
(`words_append_uuidEnding_ne`), and the mark of several uuids in other letters than that of one
(`isArray_of_words_eq`). In the seven-bit range the parameters of a table are distinct exactly if no
two columns share one (`parameterNames_injective_iff`).
-/

namespace DomainTables

namespace ColumnMapping

/-- The name that the parameter of a column repeats in camel case. -/
def parameterSource (mapping : ColumnMapping) : String :=
  match mapping.directReference? with
  | some _ => mapping.column.name
  | none => mapping.domainName

/-- Tells whether the column refers to other objects by their uuids. -/
def refersByUuid (mapping : ColumnMapping) : Bool :=
  mapping.column.reference.any fun reference => reference.method.isImplicit

/-- The column has the name of its parameter in snake case. -/
def IsSpelledAlike (mapping : ColumnMapping) : Prop :=
  Text.snakeCase mapping.parameterSource = mapping.column.name

instance (mapping : ColumnMapping) : Decidable mapping.IsSpelledAlike :=
  inferInstanceAs (Decidable (_ = _))

/-- Two columns whose parameters have the same name. -/
inductive SharesParameter (mapping other : ColumnMapping) : Prop where
  /-- The names have different words, but differ only in boundaries in front of digits. -/
  | boundary : Text.words mapping.parameterSource ≠ Text.words other.parameterSource →
      Text.gluedWords mapping.parameterSource = Text.gluedWords other.parameterSource →
      SharesParameter mapping other
  /-- The first refers to an object by uuid and the second to none, under names with the same
  words. -/
  | uuidValue : mapping.refersByUuid = true → other.column.reference = none →
      Text.words mapping.parameterSource = Text.words other.parameterSource →
      SharesParameter mapping other
  /-- The second refers to an object by uuid and the first to none, under names with the same
  words. -/
  | valueUuid : mapping.column.reference = none → other.refersByUuid = true →
      Text.words mapping.parameterSource = Text.words other.parameterSource →
      SharesParameter mapping other
  /-- The names have the same words, but not both of the columns are spelled like them. -/
  | misspelled : mapping.refersByUuid = false → other.refersByUuid = false →
      Text.words mapping.parameterSource = Text.words other.parameterSource →
      ¬ (mapping.IsSpelledAlike ∧ other.IsSpelledAlike) → SharesParameter mapping other

instance (mapping other : ColumnMapping) : Decidable (mapping.SharesParameter other) :=
  decidable_of_iff
    ((Text.words mapping.parameterSource ≠ Text.words other.parameterSource ∧
        Text.gluedWords mapping.parameterSource = Text.gluedWords other.parameterSource) ∨
      Text.words mapping.parameterSource = Text.words other.parameterSource ∧
        (mapping.refersByUuid = true ∧ other.column.reference = none ∨
          mapping.column.reference = none ∧ other.refersByUuid = true ∨
          mapping.refersByUuid = false ∧ other.refersByUuid = false ∧
            ¬ (mapping.IsSpelledAlike ∧ other.IsSpelledAlike)))
    ⟨by
      rintro (⟨hne, hglued⟩ | ⟨hwords, ⟨huuid, hnone⟩ | ⟨hnone, huuid⟩ | ⟨hne, hne', hspelled⟩⟩)
      · exact .boundary hne hglued
      · exact .uuidValue huuid hnone hwords
      · exact .valueUuid hnone huuid hwords
      · exact .misspelled hne hne' hwords hspelled, by
      rintro (⟨hne, hglued⟩ | ⟨huuid, hnone, hwords⟩ | ⟨hnone, huuid, hwords⟩ |
        ⟨hne, hne', hwords, hspelled⟩)
      · exact Or.inl ⟨hne, hglued⟩
      · exact Or.inr ⟨hwords, Or.inl ⟨huuid, hnone⟩⟩
      · exact Or.inr ⟨hwords, Or.inr (Or.inl ⟨hnone, huuid⟩)⟩
      · exact Or.inr ⟨hwords, Or.inr (Or.inr ⟨hne, hne', hspelled⟩)⟩⟩

/-- A parameter is named after its source. -/
theorem parameterName_eq (mapping : ColumnMapping) :
    Sql.parameterName mapping = Text.camelCase mapping.parameterSource := by
  unfold Sql.parameterName parameterSource
  cases mapping.directReference? <;> rfl

/-- The parameter of a column that nests no object is named after the property. -/
theorem parameterSource_eq_domainName {mapping : ColumnMapping}
    (h : mapping.directReference? = none) : mapping.parameterSource = mapping.domainName := by
  rw [parameterSource, h]

/-- A reference by uuid is not direct. -/
theorem directReference?_of_refersByUuid {mapping : ColumnMapping}
    (h : mapping.refersByUuid = true) : mapping.directReference? = none := by
  rw [refersByUuid] at h
  rw [directReference?]
  cases hreference : mapping.column.reference with
  | none => rfl
  | some reference =>
    rw [hreference] at h
    simpa [ReferenceMethod.isImplicit] using h

/-- Columns that share a parameter have names with the same joined words. -/
theorem SharesParameter.gluedWords_eq {mapping other : ColumnMapping}
    (h : mapping.SharesParameter other) :
    Text.gluedWords mapping.parameterSource = Text.gluedWords other.parameterSource := by
  cases h with
  | boundary _ hglued => exact hglued
  | uuidValue _ _ hwords => exact Text.gluedWords_congr hwords
  | valueUuid _ _ hwords => exact Text.gluedWords_congr hwords
  | misspelled _ _ hwords _ => exact Text.gluedWords_congr hwords

end ColumnMapping

/-! ## What the last word tells -/

/-- The letters in which the last word ends where a name has the mark of a uuid. -/
def uuidLetters (isArray : Bool) : List Char :=
  if isArray then ['u', 'i', 'd', 's'] else ['u', 'i', 'd']

/-- The mark of a uuid shows in the last word. -/
theorem endsIn_words_uuidEnding (stem : String) (isArray : Bool) :
    Text.EndsIn (uuidLetters isArray) (Text.wordsOf (stem ++ uuidEnding isArray).toList) := by
  have hrun : Text.EndsIn (uuidEnding isArray).toList
      (Text.runsOf (uuidEnding isArray).toList) := by
    cases isArray <;> decide
  -- The capital may stand alone, but no case changes in the letters behind it.
  have hsplit : ∀ casing, Text.EndsIn (uuidLetters isArray)
      (Text.splitRun casing (uuidEnding isArray).toList) := by
    intro casing
    cases isArray <;> cases casing <;> decide
  have hlower : Text.lowerWord (uuidLetters isArray) = uuidLetters isArray := by
    cases isArray <;> decide
  rw [String.toList_append]
  exact hlower ▸ Text.endsIn_wordsOf_append hrun hsplit stem.toList

/-- Whether a name has the mark of one uuid or of several shows in its words. -/
theorem isArray_of_words_eq {stem stem' : String} {isArray isArray' : Bool}
    (h : Text.words (stem ++ uuidEnding isArray) = Text.words (stem' ++ uuidEnding isArray')) :
    isArray = isArray' := by
  obtain ⟨last, hlast, hends⟩ := endsIn_words_uuidEnding stem isArray
  obtain ⟨last', hlast', hends'⟩ := endsIn_words_uuidEnding stem' isArray'
  rw [Text.words_eq_iff.mp h, Option.mem_def] at hlast
  obtain rfl : last = last' := Option.some.inj (hlast.symm.trans hlast')
  -- Of two endings of one word the shorter is an ending of the longer.
  have hnested := List.suffix_or_suffix_of_suffix hends hends'
  revert hnested
  cases isArray <;> cases isArray' <;> decide

/-- A name with the mark of a uuid has other words than the name of a column that refers to
objects. -/
theorem words_append_uuidEnding_ne (stem stem' : String) (isArray isArray' : Bool) :
    Text.words (stem ++ uuidEnding isArray) ≠ Text.words (stem' ++ idEnding isArray') := by
  intro h
  obtain ⟨last, hlast, hends⟩ := endsIn_words_uuidEnding stem isArray
  -- What such a column ends in is a single word, which does not end in the letters of a uuid.
  have hcolumn : ∃ rest, (idEnding isArray').toList = '_' :: rest ∧
      (Text.wordsOf rest).getLast? = some rest ∧ ¬ uuidLetters isArray <:+ rest := by
    cases isArray'
    · exact ⟨['i', 'd'], rfl, by decide, by cases isArray <;> decide⟩
    · exact ⟨['i', 'd', 's'], rfl, by decide, by cases isArray <;> decide⟩
  obtain ⟨rest, hrest, hwords, hnot⟩ := hcolumn
  obtain ⟨front, happend⟩ := Text.wordsOf_append_underscore stem'.toList rest
  rw [Text.words_eq_iff.mp h, String.toList_append, hrest, happend, Option.mem_def,
    List.getLast?_append, hwords] at hlast
  obtain rfl : rest = last := Option.some.inj hlast
  exact hnot hends

/-! ## Columns of a table -/

/-- Properties of one shape whose names are spelled alike give their columns the same name. -/
theorem columnName_congr {property other : Property}
    (hname : Text.snakeCase property.name = Text.snakeCase other.name)
    (hshape : property.type.isArray = other.type.isArray) (isReference : Bool) :
    columnName property isReference = columnName other isReference := by
  rw [columnName, columnName, hname, hshape]

section

variable {known : Universe} {limits : Limits} {object : DomainObject} {relationship : Relationship}
  (hderive : derive known limits object = .ok relationship)
  {mapping other : ColumnMapping} (hmapping : mapping ∈ relationship.mappings)
  (hother : other ∈ relationship.mappings)

include hderive hmapping

/-- A column that makes a reference is named after a property that declares it. -/
theorem exists_declares_of_derive {reference : ColumnReference}
    (hreference : mapping.column.reference = some reference) :
    ∃ property, mapping.property = some property ∧ property.Declares reference ∧
      mapping.column.name = columnName property true := by
  rcases exists_source_of_derive hderive hmapping with
    ⟨reserved, -, hreserved⟩ | ⟨property, -, hmap⟩
  · -- Reserved columns make no references.
    rw [DomainObject.mapReserved_column hreserved] at hreference
    cases hreference
  · obtain ⟨-, found, hclassify, rfl⟩ := DomainObject.mapProperty_ok_iff.mp hmap
    dsimp only at hreference ⊢
    rw [hreference] at hclassify ⊢
    exact ⟨property, rfl, declares_of_classify hclassify, rfl⟩

/-- A column that refers by uuid is named after a property, and the parameter after the name of
that, which has the mark of the shape. -/
theorem exists_uuid_of_derive (huuid : mapping.refersByUuid = true) :
    ∃ property, mapping.column.name = columnName property true ∧
      mapping.parameterSource = property.name ∧
      ∃ stem, property.name = stem ++ uuidEnding property.type.isArray := by
  obtain ⟨reference, hreference, himplicit⟩ := Option.any_eq_true _ _ |>.mp huuid
  obtain ⟨property, hproperty, hdeclares, hname⟩ :=
    exists_declares_of_derive hderive hmapping hreference
  refine ⟨property, hname, ?_, ?_⟩
  · rw [ColumnMapping.parameterSource_eq_domainName
      (ColumnMapping.directReference?_of_refersByUuid huuid), ColumnMapping.domainName, hproperty]
  · -- Nested objects are referred to directly, so the declaration is one of a uuid or of a list.
    cases hdeclares with
    | nested | nestedList => cases himplicit
    | uuid htype hstem _ => exact ⟨_, by rw [htype]; exact hstem⟩
    | uuids htype hstem _ => exact ⟨_, by rw [htype]; exact hstem⟩

/-- The parameter of a column that nests objects is named after the column, which ends as such
columns do. -/
theorem exists_stem_of_derive {reference : ColumnReference}
    (hreference : mapping.column.reference = some reference)
    (hdirect : mapping.refersByUuid = false) :
    ∃ stem isArray, mapping.parameterSource = stem ++ idEnding isArray := by
  obtain ⟨property, -, -, hname⟩ := exists_declares_of_derive hderive hmapping hreference
  -- There is a reference and it is not by uuid, so the parameter is named after its column.
  have hmethod : reference.method.isDirect = true := by
    rw [ColumnMapping.refersByUuid, hreference, Option.any_some, ReferenceMethod.isImplicit,
      Bool.not_eq_false'] at hdirect
    exact hdirect
  have hfound : mapping.directReference? = some reference := by
    rw [ColumnMapping.directReference?, hreference, Option.filter_some, if_pos hmethod]
  refine ⟨referenceStem property, property.type.isArray, ?_⟩
  rw [ColumnMapping.parameterSource, hfound, ← columnName_true]
  exact hname

include hother

/-- Columns that refer by uuid under names with the same words have the same name. -/
theorem column_eq_of_refersByUuid (huuid : mapping.refersByUuid = true)
    (huuid' : other.refersByUuid = true)
    (hwords : Text.words mapping.parameterSource = Text.words other.parameterSource) :
    mapping.column.name = other.column.name := by
  obtain ⟨property, hcolumn, hsource, stem, hstem⟩ := exists_uuid_of_derive hderive hmapping huuid
  obtain ⟨property', hcolumn', hsource', stem', hstem'⟩ :=
    exists_uuid_of_derive hderive hother huuid'
  rw [hsource, hsource'] at hwords
  rw [hcolumn, hcolumn']
  exact columnName_congr (Text.snakeCase_eq_iff.mpr hwords)
    (isArray_of_words_eq (hstem ▸ hstem' ▸ hwords)) true

/-- A column that refers by uuid shares the words of its parameter with no column that nests
objects. -/
theorem reference_eq_none_of_words_eq (huuid : mapping.refersByUuid = true)
    (hdirect : other.refersByUuid = false)
    (hwords : Text.words mapping.parameterSource = Text.words other.parameterSource) :
    other.column.reference = none := by
  obtain ⟨property, -, hsource, stem, hstem⟩ := exists_uuid_of_derive hderive hmapping huuid
  by_contra hsome
  obtain ⟨reference, hreference⟩ := Option.ne_none_iff_exists'.mp hsome
  obtain ⟨stem', isArray, hsource'⟩ := exists_stem_of_derive hderive hother hreference hdirect
  rw [hsource, hstem, hsource'] at hwords
  exact words_append_uuidEnding_ne _ _ _ _ hwords

/-- Two columns of different names have the same parameter exactly if they share one, where names
are of the seven-bit range. -/
theorem parameterName_eq_iff (hne : mapping.column.name ≠ other.column.name)
    (hseven : Text.IsSevenBit mapping.parameterSource)
    (hseven' : Text.IsSevenBit other.parameterSource) :
    Sql.parameterName mapping = Sql.parameterName other ↔ mapping.SharesParameter other := by
  rw [mapping.parameterName_eq, other.parameterName_eq, Text.camelCase_eq_iff hseven hseven']
  refine ⟨fun hglued => ?_, ColumnMapping.SharesParameter.gluedWords_eq⟩
  by_cases hwords : Text.words mapping.parameterSource = Text.words other.parameterSource
  · -- With the same words, it depends on what kinds of references the columns make.
    cases huuid : mapping.refersByUuid <;> cases huuid' : other.refersByUuid
    case true.true =>
      -- Two uuids with the same words would be stored in one column.
      exact absurd (column_eq_of_refersByUuid hderive hmapping hother huuid huuid' hwords) hne
    case true.false =>
      exact .uuidValue huuid
        (reference_eq_none_of_words_eq hderive hmapping hother huuid huuid' hwords) hwords
    case false.true =>
      exact .valueUuid
        (reference_eq_none_of_words_eq hderive hother hmapping huuid' huuid hwords.symm)
        huuid' hwords
    case false.false =>
      -- Columns spelled like their words would have the same name, so one of them is not.
      refine .misspelled huuid huuid' hwords fun ⟨hspelled, hspelled'⟩ => hne ?_
      rw [← hspelled, ← hspelled', Text.snakeCase_eq_iff.mpr hwords]
  · exact .boundary hwords hglued

end

/-- Where the columns of a table have different names, made of names in the seven-bit range, its
parameters are different exactly if no two columns share one. -/
theorem parameterNames_injective_iff {limits : Limits} {objects : List DomainObject}
    {compilation : Compilation} (h : compile limits objects = .ok compilation)
    {relationship : Relationship} (hr : relationship ∈ compilation.relationships.toList)
    (hcolumns : (relationship.mappings.map (·.column.name)).Nodup)
    (hseven : ∀ mapping ∈ relationship.mappings, Text.IsSevenBit mapping.parameterSource) :
    (∀ mapping ∈ relationship.mappings, ∀ other ∈ relationship.mappings,
      Sql.parameterName mapping = Sql.parameterName other → mapping = other) ↔
    ∀ mapping ∈ relationship.mappings, ∀ other ∈ relationship.mappings,
      mapping ≠ other → ¬ mapping.SharesParameter other := by
  obtain ⟨known, -, hderive, -⟩ := compile_ok_iff.mp h
  obtain ⟨object, -, hfrom⟩ := exists_left_of_forall₂ (deriveAll_ok_iff.mp hderive) hr
  -- A column is told by its name within the table, so different columns have different names.
  have hiff : ∀ mapping ∈ relationship.mappings, ∀ other ∈ relationship.mappings,
      mapping ≠ other →
        (Sql.parameterName mapping = Sql.parameterName other ↔ mapping.SharesParameter other) := by
    intro mapping hmapping other hother hne
    refine parameterName_eq_iff hfrom hmapping hother (fun hname => hne ?_)
      (hseven mapping hmapping) (hseven other hother)
    exact List.inj_on_of_nodup_map hcolumns hmapping hother hname
  constructor
  · intro hinj mapping hmapping other hother hne hshares
    exact hne (hinj mapping hmapping other hother
      ((hiff mapping hmapping other hother hne).mpr hshares))
  · intro hnone mapping hmapping other hother hname
    by_contra hne
    exact hnone mapping hmapping other hother hne
      ((hiff mapping hmapping other hother hne).mp hname)

/-- The columns of the railway have different names, of the seven-bit range, and so different
parameters, since no two columns of a table share one. -/
theorem parameterNames_injective_railway :
    ∃ compilation, compile {} railway = .ok compilation ∧
      ∀ relationship ∈ compilation.relationships.toList,
        (relationship.mappings.map (·.column.name)).Nodup ∧
        (∀ mapping ∈ relationship.mappings, Text.IsSevenBit mapping.parameterSource) ∧
        ∀ mapping ∈ relationship.mappings, ∀ other ∈ relationship.mappings,
          Sql.parameterName mapping = Sql.parameterName other → mapping = other := by
  have hcheck : (compile {} railway).toOption.any (fun compilation => decide
      (∀ relationship ∈ compilation.relationships.toList,
        (relationship.mappings.map (·.column.name)).Nodup ∧
        (∀ mapping ∈ relationship.mappings, Text.IsSevenBit mapping.parameterSource) ∧
        ∀ mapping ∈ relationship.mappings, ∀ other ∈ relationship.mappings,
          mapping ≠ other → ¬ mapping.SharesParameter other)) = true := by
    decide +kernel
  obtain ⟨compilation, h, hall⟩ := exists_ok_of_any hcheck
  refine ⟨compilation, h, fun relationship hr => ?_⟩
  obtain ⟨hcolumns, hseven, hnone⟩ := hall relationship hr
  exact ⟨hcolumns, hseven, (parameterNames_injective_iff h hr hcolumns hseven).mpr hnone⟩

/-- A shift that refers to an engineer by uuid, next to a text under a name with the same words. -/
def respelledShift : List DomainObject :=
  engineers.toList ++ [(DomainObject.bare "Shift" .literal)
    |>.addProperty (.ofType "engineerUuid" .string)
    |>.addProperty (.ofType "engineer_uuid" .string)]

/-- The shift compiles, and two of its columns have different names and the same parameter. -/
theorem parameterName_of_respelledShift :
    ∃ compilation, compile {} respelledShift = .ok compilation ∧
      ∃ relationship ∈ compilation.relationships.toList,
        (relationship.mappings.map (·.column.name)).Nodup ∧
        ∃ mapping ∈ relationship.mappings, ∃ other ∈ relationship.mappings,
          mapping.column.name = "engineer_id" ∧ other.column.name = "engineer_uuid" ∧
          Sql.parameterName mapping = "engineerUuid" ∧
          Sql.parameterName other = "engineerUuid" ∧ mapping ≠ other := by
  have hcheck : (compile {} respelledShift).toOption.any (fun compilation => decide
      (∃ relationship ∈ compilation.relationships.toList,
        (relationship.mappings.map (·.column.name)).Nodup ∧
        ∃ mapping ∈ relationship.mappings, ∃ other ∈ relationship.mappings,
          mapping.column.name = "engineer_id" ∧ other.column.name = "engineer_uuid" ∧
          Sql.parameterName mapping = "engineerUuid" ∧
          Sql.parameterName other = "engineerUuid" ∧ mapping ≠ other)) = true := by
    decide +kernel
  exact exists_ok_of_any hcheck

end DomainTables
