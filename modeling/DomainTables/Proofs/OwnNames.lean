import DomainTables.Proofs.Classification
import DomainTables.Proofs.Spelling

/-!
# References by an object's own name

A property can be named after a domain object in full, as errors recommend: `trainEngineerUuid` for
`TrainEngineer`. A name that is spelled as objects are (`IsProperName`) then matches in full, and
with it every name that the first one ends with, with or without an `s` behind it (`CanMean`,
`Name.matches_camelCase_iff`). So the ends of the names alone decide what the property means
(`reports_resolve_camelCase`), and however many words may be left out, it refers to the object
exactly if it can mean no other one (`classify_ownReference_iff`).

The spelling of a property differs from that of an object in the first letter. For the ends of names
that makes no difference (`Text.lowered_suffix_iff`).
-/

namespace DomainTables

/-! ## Names that end with each other -/

/-- A name is spelled as names of domain objects are, with letters and digits of the seven-bit range
only. -/
structure IsProperName (name : String) : Prop where
  /-- All characters are letters and digits. -/
  letters : Text.IsAlphanumericName name
  /-- The name is in upper camel case. -/
  spelling : Text.upperCamelCase name = name

instance (name : String) : Decidable (IsProperName name) :=
  decidable_of_iff (Text.IsAlphanumericName name ∧ Text.upperCamelCase name = name)
    ⟨fun h => ⟨h.1, h.2⟩, fun h => ⟨h.letters, h.spelling⟩⟩

/-- A property named after one object can mean another one: the name of the first ends with that of
the other, or would without the `s` at its end. -/
def CanMean (name other : String) : Prop :=
  other ≠ "" ∧ ((∃ front, name = front ++ other) ∨ ∃ front, name = front ++ other ++ "s")

instance (name other : String) : Decidable (CanMean name other) :=
  decidable_of_iff (other ≠ "" ∧
      (Text.endsWith name other = true ∨ Text.endsWith name (other ++ "s") = true)) <| by
    simp only [CanMean, Text.endsWith_iff, String.append_assoc]

/-- A property named after an object can mean that object, unless this has no name. -/
theorem canMean_self {name : String} (h : name ≠ "") : CanMean name name :=
  ⟨h, Or.inl ⟨"", String.empty_append.symm⟩⟩

/-- A text ends with another one exactly if it does as a list of characters. -/
theorem exists_eq_append_iff {text ending : String} :
    (∃ front, text = front ++ ending) ↔ ending.toList <:+ text.toList := by
  rw [← Text.endsWith_iff, Text.endsWith, List.isSuffixOf_iff_suffix]

section

variable {name other : String}

/-- A proper name is its words, each of them raised. -/
theorem IsProperName.toList_eq_flatMap (h : IsProperName name) :
    name.toList = (Text.wordsOf name.toList).flatMap Text.raised := by
  have hspelling := congrArg String.toList h.spelling
  rw [Text.upperCamelCase, String.toList_ofList] at hspelling
  rw [← Text.upperCamelChars_eq_flatMap h.letters.isSevenBit, hspelling]

/-- The words of a name of the seven-bit range are small. -/
theorem IsProperName.isSmallWord (h : IsProperName name) :
    ∀ word ∈ Text.wordsOf name.toList, Text.IsSmallWord word :=
  fun _ => Text.isSmallWord_of_mem_wordsOf h.letters.isSevenBit

/-- A proper name begins with a capital or a digit. -/
theorem IsProperName.isRaised (h : IsProperName name) : Text.IsRaised name.toList := by
  rw [h.toList_eq_flatMap]
  exact Text.isRaised_flatMap_raised h.isSmallWord

/-- In the spelling of properties a proper name has a small letter in front. -/
theorem IsProperName.toList_camelCase (h : IsProperName name) :
    (Text.camelCase name).toList = Text.lowered name.toList := by
  rw [Text.camelCase, String.toList_ofList, Text.camelChars_eq_camelOf h.letters.isSevenBit,
    Text.camelOf_eq_lowered h.isSmallWord, ← h.toList_eq_flatMap]

/-- The forms of a property named after an object are the object's name with a small letter in
front, and what an `s` at the end leaves of that. -/
theorem isFormOf_camelCase_iff {form : String} (hname : IsProperName name) :
    IsFormOf form (Text.camelCase name) ↔
      ∃ start : String, form.toList = Text.lowered start.toList ∧
        (name = start ∨ start ≠ "" ∧ name = start ++ "s") := by
  have hempty : ∀ {start : String}, Text.lowered start.toList = [] ↔ start = "" :=
    Text.lowered_eq_nil_iff.trans String.toList_eq_nil_iff
  constructor
  · -- The name in full, or the name without the s behind it.
    rintro (rfl | ⟨hne, h⟩)
    · exact ⟨name, hname.toList_camelCase, Or.inl rfl⟩
    · have hlist : Text.lowered name.toList = form.toList ++ "s".toList := by
        rw [← hname.toList_camelCase, h, String.toList_append]
      have hform : form.toList ≠ [] := String.toList_eq_nil_iff.not.mpr hne
      obtain ⟨start, hstart, hlowered⟩ := (Text.lowered_eq_append_iff hform).mp hlist
      refine ⟨String.ofList start, by rw [String.toList_ofList, hlowered], Or.inr ⟨?_, ?_⟩⟩
      · rw [Ne, ← hempty, String.toList_ofList, hlowered]
        exact hform
      · rw [← String.toList_inj, hstart, String.toList_append, String.toList_ofList (l := start)]
  · rintro ⟨start, hform, rfl | ⟨hne, rfl⟩⟩
    · exact Or.inl (String.toList_inj.mp (hform.trans hname.toList_camelCase.symm))
    · refine Or.inr ⟨?_, ?_⟩
      · rw [Ne, ← String.toList_eq_nil_iff, hform, hempty]
        exact hne
      · rw [← String.toList_inj, hname.toList_camelCase, String.toList_append,
          String.toList_append, hform]
        exact (Text.lowered_eq_append_iff (hempty.not.mpr hne)).mpr ⟨_, rfl, rfl⟩

/-- A text with a small letter in front spells a proper name exactly if the text ends with it. -/
theorem spells_iff {form start : String} (hform : form.toList = Text.lowered start.toList)
    (hstart : Text.IsRaised start.toList) (hother : IsProperName other) :
    (form = Text.camelCase other ∨ ∃ qualifiers, form = qualifiers ++ other) ↔
      ∃ front, start = front ++ other := by
  rw [exists_eq_append_iff, exists_eq_append_iff, ← String.toList_inj, hform,
    hother.toList_camelCase, Text.lowered_suffix_iff hstart hother.isRaised]

/-- A name matches a property that is named after another one in full exactly if the property can
mean it. -/
theorem Name.matches_camelCase_iff (hname : IsProperName name) (hother : IsProperName other) :
    (Name.ofString other).Matches (Text.camelCase name) 0 ↔ CanMean name other := by
  have hlower : (Name.ofString other).camelCase = Text.camelCase other :=
    Name.camelCase_ofString hother.letters.isSevenBit
  have hupper : (Name.ofString other).upperCamelCase = other :=
    (Name.upperCamelCase_ofString hother.letters.isSevenBit).trans hother.spelling
  -- No word is left out, so the name matches in one of its two spellings in full.
  rw [Name.Matches, List.length_pos_iff, Name.parts_ne_nil_iff hother.letters, List.drop_zero,
    hlower, hupper, CanMean, and_congr_right_iff]
  intro hne
  constructor
  · rintro ⟨form, hform, hspells⟩
    obtain ⟨start, hlowered, rfl | ⟨-, rfl⟩⟩ := (isFormOf_camelCase_iff hname).mp hform
    · exact Or.inl ((spells_iff hlowered hname.isRaised hother).mp hspells)
    · -- The form was made from the name without the `s`, which begins as the name does.
      have hraised : Text.IsRaised start.toList :=
        Text.IsRaised.of_append (String.toList_append ▸ hname.isRaised)
      obtain ⟨front, rfl⟩ := (spells_iff hlowered hraised hother).mp hspells
      exact Or.inr ⟨front, rfl⟩
  · rintro (h | ⟨front, rfl⟩)
    · exact ⟨Text.camelCase name, Or.inl rfl,
        (spells_iff hname.toList_camelCase hname.isRaised hother).mpr h⟩
    · have hraised : Text.IsRaised (front ++ other).toList :=
        Text.IsRaised.of_append (String.toList_append ▸ hname.isRaised)
      have hform : (String.ofList (Text.lowered (front ++ other).toList)).toList =
          Text.lowered (front ++ other).toList := String.toList_ofList
      refine ⟨_, (isFormOf_camelCase_iff hname).mpr ⟨front ++ other, hform, Or.inr ⟨?_, rfl⟩⟩,
        (spells_iff hform hraised hother).mpr ⟨front, rfl⟩⟩
      exact fun hnil => hne (String.append_eq_empty_iff.mp hnil).2

end

/-! ## What a property named after an object means -/

section

variable {names : List String} {name : String}

/-- Among proper names, a property that is named after one of them means those that it can mean, and
all of these at once, however many words may be left out. -/
theorem reports_resolve_camelCase (hproper : ∀ name ∈ names, IsProperName name)
    (hname : name ∈ names) (hne : name ≠ "") (maxDrops : Nat) :
    (resolve names maxDrops (Text.camelCase name)).Reports
      {other | other ∈ names ∧ CanMean name other} := by
  have hlevel : matchingNames names (Text.camelCase name) 0 =
      {other | other ∈ names ∧ CanMean name other} := by
    ext other
    exact and_congr_right fun hother =>
      Name.matches_camelCase_iff (hproper name hname) (hproper other hother)
  rw [← hlevel, ← firstMatches_of_nonempty (hlevel ▸ ⟨name, hname, canMean_self hne⟩)]
  exact resolve_eq_iff.mp rfl

/-- Nothing refers to an object without a name. -/
theorem resolve_ne_resolved_empty {maxDrops : Nat} {property : String} :
    resolve names maxDrops property ≠ .resolved "" := by
  intro h
  have hreported : "" ∈ (resolve names maxDrops property).names := h ▸ List.mem_singleton_self _
  obtain ⟨dropped, -, -, hleft, -⟩ := mem_names_resolve_iff.mp hreported
  exact absurd hleft (Nat.not_lt_zero dropped)

/-- Among proper names, a property that is named after one of them is resolved to it exactly if it
can mean no other one. -/
theorem resolve_camelCase_iff (hproper : ∀ name ∈ names, IsProperName name) (hname : name ∈ names)
    (maxDrops : Nat) :
    resolve names maxDrops (Text.camelCase name) = .resolved name ↔
      name ≠ "" ∧ ∀ other ∈ names, CanMean name other → other = name := by
  by_cases hempty : name = ""
  · rw [hempty]
    exact iff_of_false resolve_ne_resolved_empty fun h => h.1 rfl
  · have hreports := reports_resolve_camelCase hproper hname hempty maxDrops
    -- The names reported are those that the property can mean, so there has to be just one.
    have hsingle : resolve names maxDrops (Text.camelCase name) = .resolved name ↔
        {other | other ∈ names ∧ CanMean name other} = {name} :=
      ⟨fun h => (h ▸ hreports : (Resolution.resolved name).Reports _), fun h => hreports.unique h⟩
    rw [hsingle, Set.eq_singleton_iff_unique_mem]
    constructor
    · exact fun h => ⟨hempty, fun other hother hmean => h.2 other ⟨hother, hmean⟩⟩
    · exact fun h => ⟨⟨hname, canMean_self hempty⟩, fun other hother => h.2 other hother.1 hother.2⟩

end

/-! ## Classification -/

/-- A property refers to an object by the object's own name. A literal is nested, an entity or an
event is referred to by its uuid, or by a list of uuids. -/
inductive IsOwnReference (object : DomainObject) : Property → ReferenceMethod → Prop where
  /-- The property holds the literal. -/
  | nested (nullable required : Bool) : object.variant = .literal →
      IsOwnReference object
        ⟨Text.camelCase object.name, .reference object.reference, nullable, required⟩
        .directByNesting
  /-- The property holds the uuid. -/
  | uuid (nullable required : Bool) : object.variant ≠ .literal →
      IsOwnReference object
        ⟨Text.camelCase object.name ++ "Uuid", .string, nullable, required⟩ .implicitByUuid
  /-- The property holds a list of uuids. -/
  | uuids (nullable required : Bool) : object.variant ≠ .literal →
      IsOwnReference object
        ⟨Text.camelCase object.name ++ "Uuids", .array .string, nullable, required⟩ .implicitByUuid

section

variable {known : Universe} {limits : Limits} {owner : String} {object : DomainObject}
  {property : Property} {method : ReferenceMethod}

/-- No reference is to an object without a name. -/
theorem name_ne_empty_of_classify {reference : ColumnReference}
    (h : classify known limits owner property = .ok (some reference)) :
    reference.target.name ≠ "" := by
  intro hempty
  obtain ⟨names, text, -, hresolve⟩ := exists_resolve_of_classify h
  exact resolve_ne_resolved_empty (hempty ▸ hresolve)

/-- How a reference by an object's own name is classified: by the name of the property, if the
object is a literal, and otherwise by that name without the mark of a uuid. -/
theorem IsOwnReference.classify_eq (hproper : IsProperName object.name) (hne : object.name ≠ "")
    (h : IsOwnReference object property method) (known : Universe) (limits : Limits)
    (owner : String) :
    (object.variant = .literal ∧ method = .directByNesting ∧
        property.name = Text.camelCase object.name ∧
        classify known limits owner property =
          (classifyDirect known limits owner property object.reference).map some) ∨
      (object.variant ≠ .literal ∧ method = .implicitByUuid ∧
        classify known limits owner property =
          classifyImplicit known limits owner property (Text.camelCase object.name)) := by
  -- A uuid needs a name to refer to, and spelling leaves no name empty.
  have hstem : Text.camelCase object.name ≠ "" := by
    rw [Ne, ← String.toList_eq_nil_iff, hproper.toList_camelCase, Text.lowered_eq_nil_iff,
      String.toList_eq_nil_iff]
    exact hne
  cases h with
  | nested nullable required hliteral => exact Or.inl ⟨hliteral, rfl, rfl, rfl⟩
  | uuid nullable required hidentifiable =>
    refine Or.inr ⟨hidentifiable, rfl, ?_⟩
    rw [classify, Candidate.ofProperty_eq_implicit_iff.mpr ⟨hstem, Or.inl ⟨rfl, rfl⟩⟩]
  | uuids nullable required hidentifiable =>
    refine Or.inr ⟨hidentifiable, rfl, ?_⟩
    rw [classify, Candidate.ofProperty_eq_implicit_iff.mpr ⟨hstem, Or.inr ⟨rfl, rfl⟩⟩]

/-- A reference by an object's own name is accepted exactly if the name is resolved to the object
among all known ones. -/
theorem classify_some_iff_of_isOwnReference (hproper : IsProperName object.name)
    (hobject : object ∈ known.toList) (h : IsOwnReference object property method) :
    classify known limits owner property = .ok (some ⟨method, object.reference⟩) ↔
      resolve known.keys limits.maxQualifierDrops (Text.camelCase object.name) =
        .resolved object.name := by
  by_cases hempty : object.name = ""
  · rw [hempty]
    exact iff_of_false (fun hok => name_ne_empty_of_classify hok hempty) resolve_ne_resolved_empty
  · obtain ⟨hliteral, rfl, hnamed, hclassify⟩ | ⟨hvariant, rfl, hclassify⟩ :=
      h.classify_eq hproper hempty known limits owner
    · have hname : object.reference.name ∈ known.keys := Keyed.key_mem_keys hobject
      rw [hclassify, map_ok_iff]
      constructor
      · rintro ⟨reference, hdirect, -⟩
        obtain ⟨-, hresolve, -⟩ := classifyDirect_ok_iff.mp hdirect
        -- The target is known already, so adding it to the names changes nothing.
        rwa [resolve_append_of_mem hname, hnamed] at hresolve
      · refine fun hresolve => ⟨_, classifyDirect_ok_iff.mpr ⟨hliteral, ?_, rfl⟩, rfl⟩
        rwa [resolve_append_of_mem hname, hnamed]
    · rw [hclassify, classifyImplicit_some_iff]
      constructor
      · rintro ⟨target, -, hresolve, -, heq⟩
        have htarget : target.reference = object.reference := congrArg (·.target) heq
        rwa [show target.name = object.name from congrArg (·.name) htarget] at hresolve
      · have hidentifiable := mt Variant.isIdentifiable_eq_false_iff.mp hvariant
        exact fun hresolve =>
          ⟨object, hobject, hresolve, Bool.of_not_eq_false hidentifiable, rfl⟩

/-- A reference by an object's own name is ambiguous if the name is. -/
theorem classify_ambiguous_of_isOwnReference (hproper : IsProperName object.name)
    (hobject : object ∈ known.toList)
    (hne : object.name ≠ "") (h : IsOwnReference object property method) {found : List String}
    (hambiguous : resolve known.keys limits.maxQualifierDrops (Text.camelCase object.name) =
      .ambiguous found) :
    classify known limits owner property =
      .error (.ambiguousReference owner property.name found) := by
  obtain ⟨hliteral, -, hnamed, hclassify⟩ | ⟨-, -, hclassify⟩ :=
    h.classify_eq hproper hne known limits owner
  · have hname : object.reference.name ∈ known.keys := Keyed.key_mem_keys hobject
    have hidentifiable : ¬ object.reference.variant.isIdentifiable = true :=
      Bool.eq_false_iff.mp (Variant.isIdentifiable_eq_false_iff.mpr hliteral)
    rw [hclassify, classifyDirect, if_neg hidentifiable, resolve_append_of_mem hname, hnamed,
      hambiguous]
    rfl
  · rw [hclassify, classifyImplicit, hambiguous]

end

/-- Where all names are proper, a reference by an object's own name is accepted exactly if the
object has a name, and no other name is the end of it or would be without an `s` behind it.
Otherwise the reference is refused as ambiguous, among all names that it could mean. -/
theorem classify_ownReference_iff {known : Universe}
    (hproper : ∀ name ∈ known.keys, IsProperName name) (limits : Limits) (owner : String)
    {object : DomainObject} (hobject : object ∈ known.toList)
    {property : Property} {method : ReferenceMethod} (h : IsOwnReference object property method) :
    (classify known limits owner property = .ok (some ⟨method, object.reference⟩) ↔
      object.name ≠ "" ∧ ∀ other ∈ known.keys, CanMean object.name other → other = object.name) ∧
    (object.name ≠ "" →
      (∃ other ∈ known.keys, CanMean object.name other ∧ other ≠ object.name) →
      ∃ found,
        classify known limits owner property =
          .error (.ambiguousReference owner property.name found) ∧
        found.Pairwise (· < ·) ∧
        ∀ other, other ∈ found ↔ other ∈ known.keys ∧ CanMean object.name other) := by
  have hname : object.name ∈ known.keys := Keyed.key_mem_keys hobject
  have hown := hproper object.name hname
  refine ⟨?_, fun hne hothers => ?_⟩
  · rw [classify_some_iff_of_isOwnReference hown hobject h, resolve_camelCase_iff hproper hname]
  · have hreports := reports_resolve_camelCase hproper hname hne limits.maxQualifierDrops
    have hself : object.name ∈ {other | other ∈ known.keys ∧ CanMean object.name other} :=
      ⟨hname, canMean_self hne⟩
    cases hresolve : resolve known.keys limits.maxQualifierDrops (Text.camelCase object.name) with
    -- The name itself is always among those reported.
    | unresolved =>
      rw [hresolve] at hreports
      exact absurd hself (Set.eq_empty_iff_forall_notMem.mp hreports _)
    | resolved only =>
      rw [hresolve] at hreports
      have honly : ∀ {other}, other ∈ known.keys ∧ CanMean object.name other → other = only :=
        fun hother => Set.eq_of_mem_singleton (hreports ▸ hother)
      obtain ⟨other, hother, hmean, hdiffers⟩ := hothers
      exact absurd ((honly ⟨hother, hmean⟩).trans (honly hself).symm) hdiffers
    | ambiguous found =>
      rw [hresolve] at hreports
      exact ⟨found, classify_ambiguous_of_isOwnReference hown hobject hne h hresolve, hreports.2⟩

/-- An entity with a code for its natural key. -/
def coded (name : String) : DomainObject :=
  { (DomainObject.bare name .entity).addProperty (.ofType "code" .string) with
    decorations := ⟨some ["code"], some [], none⟩ }

/-- Engineers, and train engineers besides. -/
def staff : Universe :=
  ⟨[coded "Engineer", coded "TrainEngineer"], by decide⟩

/-- An engineer is referred to by name, though the name of a train engineer ends in that too. -/
theorem classify_ownReference_iff_engineer :
    (∀ name ∈ staff.keys, IsProperName name) ∧
      coded "Engineer" ∈ staff.toList ∧
      IsOwnReference (coded "Engineer") (.ofType "engineerUuid" .string) .implicitByUuid ∧
      classify staff {} "Train" (.ofType "engineerUuid" .string) =
        .ok (some ⟨.implicitByUuid, ⟨"Engineer", .entity⟩⟩) := by
  have hproper : ∀ name ∈ staff.keys, IsProperName name := by decide +kernel
  have hobject : coded "Engineer" ∈ staff.toList := List.mem_cons_self
  have hproperty : Property.ofType "engineerUuid" .string =
      ⟨Text.camelCase (coded "Engineer").name ++ "Uuid", .string, false, true⟩ := by
    decide +kernel
  have hown : IsOwnReference (coded "Engineer") (.ofType "engineerUuid" .string)
      .implicitByUuid := hproperty ▸ .uuid false true (by decide)
  refine ⟨hproper, hobject, hown, ?_⟩
  exact (classify_ownReference_iff hproper {} "Train" hobject hown).1.mpr (by decide +kernel)

/-- A train engineer is not: the name that is recommended for the reference could mean an engineer
just as well. The tables of the two have different names. -/
theorem ambiguous_ownReference_trainEngineer :
    (∀ name ∈ staff.keys, IsProperName name) ∧
      (staff.keys.map Text.snakeCase).Nodup ∧
      coded "TrainEngineer" ∈ staff.toList ∧
      IsOwnReference (coded "TrainEngineer") (.ofType "trainEngineerUuid" .string)
        .implicitByUuid ∧
      (Violation.nestedIdentifiable (coded "TrainEngineer").reference false).remediation =
        some "reference it by uuid instead, e.g. `trainEngineerUuid: string`" ∧
      classify staff {} "Train" (.ofType "trainEngineerUuid" .string) =
        .error (.ambiguousReference "Train" "trainEngineerUuid" ["Engineer", "TrainEngineer"]) := by
  have hproperty : Property.ofType "trainEngineerUuid" .string =
      ⟨Text.camelCase (coded "TrainEngineer").name ++ "Uuid", .string, false, true⟩ := by
    decide +kernel
  refine ⟨by decide +kernel, by decide +kernel, List.mem_cons_of_mem _ List.mem_cons_self,
    hproperty ▸ .uuid false true (by decide), by decide +kernel, by decide +kernel⟩

end DomainTables
