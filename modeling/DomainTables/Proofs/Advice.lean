import DomainTables.Proofs.Derivation
import DomainTables.Proofs.Spelling

/-!
# What errors advise

An error about a reference says how the declaration can be mended. This module follows the advice.

A literal cannot be referred to by uuid, and is to be nested by a property with the name in front of
the mark of the uuid. That always works: the name is resolved among the same objects as before, with
the literal added that it was resolved to (`classify_nestingInstead`).

A property that nests a literal but is not named after it is to be renamed so that it ends with the
name of the literal. What suffices is that it ends with the words of that name in upper camel case
(`endingSuffices_upperCamelCase`). The name as it is declared has as many letters, so it suffices
only if it is the same (`endingSuffices_iff`).
-/

namespace DomainTables

section

variable {known : Universe} {limits : Limits} {owner : String} {property : Property}

/-! ## Nesting a literal instead of its uuid -/

/-- A property that is refused because of a literal holds a uuid or several by its declaration, and
its stem is resolved to a literal of the universe. -/
theorem of_classify_literalByUuid {culprit literal stem : String} {name : Option String}
    {isArray : Bool}
    (h : classify known limits owner property =
      .error (.configuration culprit name (.literalByUuid literal stem isArray))) :
    Candidate.ofProperty property = .implicit stem ∧
      culprit = owner ∧ name = property.name ∧ isArray = property.type.isArray ∧
      resolve known.keys limits.maxQualifierDrops stem = .resolved literal ∧
      ∃ target ∈ known.toList, target.reference = ⟨literal, .literal⟩ := by
  unfold classify at h
  split at h
  · next target =>
    -- Nesting an object is refused for other reasons.
    rw [map_error_iff, classifyDirect] at h
    split at h
    · cases h
    · split at h
      · split at h <;> cases h
      · cases h
      · cases h
  · next stem' hcandidate =>
    unfold classifyImplicit at h
    split at h
    · cases h
    · cases h
    · next found hfound =>
      split at h
      · cases h
      · next target hfind =>
        obtain ⟨htarget, rfl⟩ := Keyed.find?_eq_some_iff.mp hfind
        split at h
        · cases h
        · next hid =>
          cases h
          refine ⟨hcandidate, rfl, rfl, rfl, hfound, target, htarget, ?_⟩
          have hliteral : target.variant = .literal :=
            Variant.isIdentifiable_eq_false_iff.mp (Bool.eq_false_iff.mpr hid)
          rw [DomainObject.reference, hliteral]
  · cases h

/-- The property that is advised instead of one that holds the uuid of a literal, or several. -/
def nestingInstead (literal stem : String) (isArray nullable required : Bool) : Property where
  name := stem
  type :=
    if isArray then .array (.reference ⟨literal, .literal⟩) else .reference ⟨literal, .literal⟩
  nullable := nullable
  required := required

/-- The property that is advised nests the literal. -/
theorem nested?_nestingInstead (literal stem : String) (isArray nullable required : Bool) :
    (nestingInstead literal stem isArray nullable required).type.nested? =
      some ⟨literal, .literal⟩ := by
  cases isArray <;> rfl

/-- The advice names the property and shows its type. -/
theorem remediation_literalByUuid (literal stem : String) (isArray nullable required : Bool) :
    (Violation.literalByUuid literal stem isArray).remediation =
      some ("nest it directly instead, e.g. `" ++
        (nestingInstead literal stem isArray nullable required).name ++ ": " ++
        (nestingInstead literal stem isArray nullable required).type.display ++ "`") := by
  cases isArray with
  | false => simp [Violation.remediation, nestingInstead, arrayMark, PropertyType.display]
  | true =>
    simp [Violation.remediation, nestingInstead, arrayMark, PropertyType.display,
      String.append_assoc]

/-- The property that is advised can be stored. -/
theorem checkArray_nestingInstead (owner literal stem : String) (isArray nullable required : Bool) :
    checkArray owner (nestingInstead literal stem isArray nullable required) = .ok () := by
  cases isArray <;> rfl

end

/-- Where a property is refused because it refers to a literal by uuid, the property that the error
advises is accepted in its place, and refers to that literal. The error quotes that property, which
has the name of the other one without the mark of a uuid, and is a list if the other one is. -/
theorem classify_nestingInstead {known : Universe} {limits : Limits} {owner : String}
    {property : Property} {culprit literal stem : String} {name : Option String} {isArray : Bool}
    (h : classify known limits owner property =
      .error (.configuration culprit name (.literalByUuid literal stem isArray)))
    (nullable required : Bool) :
    property.name = stem ++ uuidEnding isArray ∧
      property.type = (if isArray then .array .string else .string) ∧
      (∃ target ∈ known.toList, target.reference = ⟨literal, .literal⟩) ∧
      (Violation.literalByUuid literal stem isArray).remediation =
        some ("nest it directly instead, e.g. `" ++
          (nestingInstead literal stem isArray nullable required).name ++ ": " ++
          (nestingInstead literal stem isArray nullable required).type.display ++ "`") ∧
      checkArray owner (nestingInstead literal stem isArray nullable required) = .ok () ∧
      classify known limits owner (nestingInstead literal stem isArray nullable required) =
        .ok (some ⟨.directByNesting, ⟨literal, .literal⟩⟩) := by
  obtain ⟨hcandidate, -, -, rfl, hresolve, hknown⟩ := of_classify_literalByUuid h
  have hnests := nested?_nestingInstead literal stem property.type.isArray nullable required
  obtain ⟨-, hshape⟩ := Candidate.ofProperty_eq_implicit_iff.mp hcandidate
  refine ⟨?_, ?_, hknown, remediation_literalByUuid .., checkArray_nestingInstead .., ?_⟩
  · obtain ⟨htype, hname⟩ | ⟨htype, hname⟩ := hshape <;> rw [htype, hname] <;> rfl
  · obtain ⟨htype, -⟩ | ⟨htype, -⟩ := hshape <;> rw [htype] <;> rfl
  · refine classify_some_iff.mpr (Or.inl ⟨_, hnests, classifyDirect_ok_iff.mpr ⟨rfl, ?_, rfl⟩⟩)
    exact (resolve_append_of_mem (mem_of_resolve_eq_resolved hresolve)).trans hresolve

/-- Where seats are literals. -/
def seats : Universe :=
  ⟨[(DomainObject.bare "TrainSeat" .literal).addProperty (.ofType "row" .number)], by decide⟩

/-- Seats of a train cannot be referred to by uuid, but under the same name they can be nested. -/
theorem classify_nestingInstead_seats :
    classify seats {} "Train" (.ofType "freeSeatsUuids" (.array .string)) =
        .error (.configuration "Train" "freeSeatsUuids"
          (.literalByUuid "TrainSeat" "freeSeats" true)) ∧
      checkArray "Train" (nestingInstead "TrainSeat" "freeSeats" true false true) = .ok () ∧
      classify seats {} "Train" (nestingInstead "TrainSeat" "freeSeats" true false true) =
        .ok (some ⟨.directByNesting, ⟨"TrainSeat", .literal⟩⟩) := by
  have hrefused : classify seats {} "Train" (.ofType "freeSeatsUuids" (.array .string)) =
      .error (.configuration "Train" "freeSeatsUuids"
        (.literalByUuid "TrainSeat" "freeSeats" true)) := by decide +kernel
  obtain ⟨-, -, -, -, hstored, haccepted⟩ := classify_nestingInstead hrefused false true
  exact ⟨hrefused, hstored, haccepted⟩

/-! ## Renaming a property that nests a literal -/

/-- A property is taken for a reference to a literal that it nests: it is classified so, or the
literal is among the objects that it could refer to. -/
def IsTakenFor (known : Universe) (limits : Limits) (owner : String) (property : Property)
    (target : String) : Prop :=
  classify known limits owner property = .ok (some ⟨.directByNesting, ⟨target, .literal⟩⟩) ∨
    ∃ found, target ∈ found ∧
      classify known limits owner property =
        .error (.ambiguousReference owner property.name found)

/-- A property that nests a literal of a universe need only end so to be taken for a reference to
the literal, whatever else there is. -/
def EndingSuffices (target ending : String) : Prop :=
  ∀ (known : Universe) (limits : Limits) (owner : String) (property : Property),
    (∃ object ∈ known.toList, object.reference = ⟨target, .literal⟩) →
      property.type.nested? = some ⟨target, .literal⟩ →
      (∃ qualifiers, property.name = qualifiers ++ ending) →
      IsTakenFor known limits owner property target

section

variable {known : Universe} {limits : Limits} {owner : String} {property : Property}
  {target : String}

/-- A property that nests a literal is taken for a reference to it exactly if resolution reports the
name of the literal, alone or with others. -/
theorem isTakenFor_iff (hnests : property.type.nested? = some ⟨target, .literal⟩) :
    IsTakenFor known limits owner property target ↔
      target ∈
        (resolve (known.keys ++ [target]) limits.maxQualifierDrops property.name).names := by
  have hclassify : classify known limits owner property =
      (classifyDirect known limits owner property ⟨target, .literal⟩).map some := by
    rw [classify, Candidate.ofProperty_eq_direct_iff.mpr hnests]
  have hliteral : ¬ (ObjectReference.mk target .literal).variant.isIdentifiable = true :=
    Bool.false_ne_true
  rw [IsTakenFor, hclassify, classifyDirect, if_neg hliteral]
  -- A single name that is another one makes the property misnamed, so that case is split again.
  cases resolve (known.keys ++ [target]) limits.maxQualifierDrops property.name with
  | unresolved => simp [Except.map, Resolution.names]
  | resolved name =>
    by_cases heq : name = target
    · simp [heq, Except.map, Resolution.names]
    · simp [heq, Ne.symm heq, Except.map, Resolution.names]
  | ambiguous found => simp [Except.map, Resolution.names]

/-- A name of letters and digits matches in full where a property ends with it in the spelling of
objects. -/
theorem mem_matchingNames_of_upperCamelCase (hletters : Text.IsAlphanumericName target)
    (hne : target ≠ "") {names : List String} (hmem : target ∈ names) (qualifiers : String) :
    target ∈ matchingNames names (qualifiers ++ Text.upperCamelCase target) 0 := by
  refine ⟨hmem, ?_, _, Or.inl rfl, Or.inr ⟨qualifiers, ?_⟩⟩
  · exact List.length_pos_iff.mpr ((Name.parts_ne_nil_iff hletters).mpr hne)
  · rw [List.drop_zero, ← Name.upperCamelCase_ofString hletters.isSevenBit]

/-- A name that begins with a capital matches itself in full only in the spelling of objects. -/
theorem eq_of_matches_self (hletters : Text.IsAlphanumericName target)
    (hcapital : target.toList.head?.any Char.isUpper = true)
    (h : (Name.ofString target).Matches target 0) : Text.upperCamelCase target = target := by
  obtain ⟨-, form, hform, hspelled⟩ := h
  rw [List.drop_zero, Name.camelCase_ofString hletters.isSevenBit,
    Name.upperCamelCase_ofString hletters.isSevenBit] at hspelled
  -- Either spelling of the name is as long as the name, and so is no form but the name itself.
  have hlong : target.toList.length ≤ form.toList.length := by
    obtain rfl | ⟨qualifiers, rfl⟩ := hspelled
    · exact (Text.length_camelCase hletters).ge
    · rw [String.toList_append, List.length_append, Text.length_upperCamelCase hletters]
      exact Nat.le_add_left _ _
  obtain rfl : form = target := hform.resolve_right fun ⟨_, hplural⟩ => by
    rw [hplural, String.toList_append, List.length_append] at hlong
    exact absurd hlong (by simp)
  obtain hlower | ⟨qualifiers, hupper⟩ := hspelled
  · exact absurd hlower.symm (Text.camelCase_ne_of_capital hletters hcapital)
  · have hlength := congrArg (fun text : String => text.toList.length) hupper
    simp only [String.toList_append, List.length_append,
      Text.length_upperCamelCase hletters] at hlength
    have hnil : qualifiers = "" :=
      String.toList_eq_nil_iff.mp (List.length_eq_zero_iff.mp (by omega))
    rw [hnil, String.empty_append] at hupper
    exact hupper.symm

end

/-- A property that nests a literal and is not taken for a reference to it need only end with the
literal's name in upper camel case. -/
theorem endingSuffices_upperCamelCase {target : String} (hletters : Text.IsAlphanumericName target)
    (hne : target ≠ "") : EndingSuffices target (Text.upperCamelCase target) := by
  rintro known limits owner property - hnests ⟨qualifiers, hname⟩
  refine (isTakenFor_iff hnests).mpr (mem_names_resolve_of_mem ?_)
  exact hname ▸ mem_matchingNames_of_upperCamelCase hletters hne
    (List.mem_append_right _ (List.mem_singleton_self target)) qualifiers

/-- For a literal of letters and digits whose name begins with a capital, it suffices that a
property ends with the name as it is declared exactly if the name is in upper camel case. -/
theorem endingSuffices_iff {target : String} (hletters : Text.IsAlphanumericName target)
    (hcapital : target.toList.head?.any Char.isUpper = true) :
    EndingSuffices target target ↔ Text.upperCamelCase target = target := by
  have hne : target ≠ "" := by
    rintro rfl
    cases hcapital
  constructor
  · intro h
    -- Where the literal is all there is and no word may be left out, it has to match in full.
    have htaken := h ⟨[.bare target .literal], List.nodup_singleton _⟩ ⟨0, 0⟩ ""
      (.ofType target (.reference ⟨target, .literal⟩)) ⟨_, List.mem_singleton_self _, rfl⟩ rfl
      ⟨"", String.empty_append.symm⟩
    obtain ⟨level, ⟨⟨-, hlevel, -⟩, -⟩, -, hmatch⟩ :=
      mem_names_resolve_iff.mp ((isTakenFor_iff rfl).mp htaken)
    obtain rfl : level = 0 := Nat.le_zero.mp hlevel
    exact eq_of_matches_self hletters hcapital hmatch
  · intro h
    have hsuffices := endingSuffices_upperCamelCase hletters hne
    rwa [h] at hsuffices

/-- A home address is taken for an address in every universe that has addresses. -/
theorem endingSuffices_iff_address :
    Text.IsAlphanumericName "Address" ∧ "Address".toList.head?.any Char.isUpper = true ∧
      EndingSuffices "Address" "Address" := by
  have hletters : Text.IsAlphanumericName "Address" := by decide
  have hcapital : "Address".toList.head?.any Char.isUpper = true := by decide
  exact ⟨hletters, hcapital, (endingSuffices_iff hletters hcapital).mpr (by decide +kernel)⟩

/-- Where addresses of pages are literals. -/
def pages : Universe :=
  ⟨[(DomainObject.bare "URL" .literal).addProperty (.ofType "path" .string)], by decide⟩

/-- Where the name of a literal is not in upper camel case, a property that ends with it is still to
be renamed so that it ends with it. -/
theorem not_isTakenFor_homeURL :
    Text.IsAlphanumericName "URL" ∧ "URL".toList.head?.any Char.isUpper = true ∧
      (∃ object ∈ pages.toList, object.reference = ⟨"URL", .literal⟩) ∧
      (∃ qualifiers, "homeURL" = qualifiers ++ "URL") ∧
      ¬ IsTakenFor pages {} "Page" (.ofType "homeURL" (.reference ⟨"URL", .literal⟩)) "URL" ∧
      classify pages {} "Page" (.ofType "homeURL" (.reference ⟨"URL", .literal⟩)) =
        .error (.configuration "Page" "homeURL" (.misnamed "URL" none)) ∧
      (Violation.misnamed "URL" none).remediation =
        some "rename the property so that it ends with `URL`" := by
  have hrefused : classify pages {} "Page" (.ofType "homeURL" (.reference ⟨"URL", .literal⟩)) =
      .error (.configuration "Page" "homeURL" (.misnamed "URL" none)) := by decide +kernel
  refine ⟨by decide, by decide, ⟨_, List.mem_cons_self, rfl⟩, ⟨"home", rfl⟩, ?_, hrefused,
    by decide⟩
  rintro (h | ⟨found, -, h⟩)
  · rw [hrefused] at h
    cases h
  · rw [hrefused] at h
    cases h

end DomainTables
