import DomainTables.Proofs.Keyed
import DomainTables.Proofs.Levels
import DomainTables.Proofs.Steps
import DomainTables.Reference.Classification

/-!
# What a property refers to

A property nests an object if its type is a reference or a list of references
(`PropertyType.nested?`), and only then is it a candidate for direct nesting
(`Candidate.ofProperty_eq_direct_iff`). What resolution finds is the only match among the names it
searches (`exists_match_of_resolve`), so a classification that succeeds refers either to the nested
object, with the variant that the type gives it, or to an object of the universe, with the variant
that is declared (`classify_some_iff`). A classification that fails finds fault with the owner of
the property (`classify_error`): the universe has every name that resolution finds in it.
-/

namespace DomainTables

/-- Objects without a uuid are literals. -/
theorem Variant.isIdentifiable_eq_false_iff {variant : Variant} :
    variant.isIdentifiable = false ↔ variant = .literal := by
  cases variant <;> simp [isIdentifiable]

/-- The declarations are at fault where a domain object is, and then no promise is broken. -/
theorem Cause.isConfiguration_of_domainObject? {cause : Cause} {domainObject : String}
    (h : cause.domainObject? = some domainObject) :
    cause.isConfiguration = true ∧ cause.isInternalConsistency = false := by
  cases cause with
  | configuration => exact ⟨rfl, rfl⟩
  | ambiguousReference => exact ⟨rfl, rfl⟩
  | message | foreign | cyclicReference | internalConsistency => cases h

/-! ## Candidates -/

/-- The object that the type holds itself, or that the elements of its lists hold. -/
def PropertyType.nested? : PropertyType → Option ObjectReference
  | .reference target => some target
  | .array (.reference target) => some target
  | _ => none

/-- Elements make a candidate for nesting exactly if they are references. -/
theorem Candidate.ofElement_eq_direct_iff {element : PropertyType} {name ending : String}
    {target : ObjectReference} :
    ofElement element name ending = .direct target ↔ element = .reference target := by
  cases element with
  | reference found => simp [ofElement]
  | string =>
    simp only [ofElement, reduceCtorEq, iff_false]
    split
    · split <;> simp
    · simp
  | number | boolean | date | enum | array => simp [ofElement]

/-- A property is a candidate for nesting an object exactly if its type nests the object. -/
theorem Candidate.ofProperty_eq_direct_iff {property : Property} {target : ObjectReference} :
    ofProperty property = .direct target ↔ target ∈ property.type.nested? := by
  unfold ofProperty
  cases property.type with
  | array element =>
    rw [ofElement_eq_direct_iff]
    cases element <;> simp [PropertyType.nested?]
  | reference | string | number | boolean | date | enum =>
    simp [ofElement_eq_direct_iff, PropertyType.nested?]

/-- Elements make a candidate for a uuid exactly if they are texts and the name is a stem, which is
not empty, and the ending. -/
theorem Candidate.ofElement_eq_implicit_iff {element : PropertyType} {name ending stem : String} :
    ofElement element name ending = .implicit stem ↔
      element = .string ∧ name = stem ++ ending ∧ stem ≠ "" := by
  cases element with
  | string =>
    simp only [ofElement, true_and, ← Text.stemBefore?_eq_some_iff]
    cases Text.stemBefore? name ending with
    | none => simp
    | some found =>
      -- A stem that is the empty text counts as none.
      by_cases hempty : found = ""
      · simp only [hempty, if_true, Option.some.injEq, reduceCtorEq, false_iff]
        rintro ⟨rfl, hne⟩
        exact hne rfl
      · simp only [hempty, if_false, Option.some.injEq, Candidate.implicit.injEq]
        constructor
        · rintro rfl
          exact ⟨rfl, hempty⟩
        · exact fun h => h.1
  | reference | number | boolean | date | enum | array => simp [ofElement]

/-- A property is a candidate for a uuid exactly if it is a text, or a list of texts, and its name
is a stem and the mark of that. -/
theorem Candidate.ofProperty_eq_implicit_iff {property : Property} {stem : String} :
    ofProperty property = .implicit stem ↔
      stem ≠ "" ∧
        (property.type = .string ∧ property.name = stem ++ "Uuid" ∨
          property.type = .array .string ∧ property.name = stem ++ "Uuids") := by
  unfold ofProperty
  cases property.type with
  | array element =>
    rw [ofElement_eq_implicit_iff]
    simp [uuidEnding, and_comm, and_left_comm]
  | reference | string | number | boolean | date | enum =>
    simp [ofElement_eq_implicit_iff, uuidEnding, and_comm]

/-! ## Classification -/

section

variable {known : Universe} {limits : Limits} {owner : String} {property : Property}

/-- A nested object is accepted if the type calls it a literal and the property is named after
it. -/
theorem classifyDirect_ok_iff {target : ObjectReference} {reference : ColumnReference} :
    classifyDirect known limits owner property target = .ok reference ↔
      target.variant = .literal ∧
        resolve (known.keys ++ [target.name]) limits.maxQualifierDrops property.name =
          .resolved target.name ∧
        ⟨.directByNesting, target⟩ = reference := by
  rw [classifyDirect, ← Variant.isIdentifiable_eq_false_iff]
  -- Only the last of the nested checks accepts: a literal, resolved, to the nested name itself.
  split
  · next hid => simp [hid]
  · next hid =>
    split
    · next name hname =>
      split
      · next heq => simp [hid, hname, heq]
      · next hne => simp [hname, hne]
    · next names hnames => simp [hnames]
    · next hnone => simp [hnone]

/-- A uuid makes a reference if its stem is resolved to an entity or an event of the universe. -/
theorem classifyImplicit_some_iff {stem : String} {reference : ColumnReference} :
    classifyImplicit known limits owner property stem = .ok (some reference) ↔
      ∃ target ∈ known.toList,
        resolve known.keys limits.maxQualifierDrops stem = .resolved target.name ∧
        target.variant.isIdentifiable = true ∧
        ⟨.implicitByUuid, target.reference⟩ = reference := by
  rw [classifyImplicit]
  split
  · next hnone => simp [hnone]
  · next names hnames => simp [hnames]
  · next name hname =>
    split
    · next hfind =>
      have habsent := Keyed.find?_eq_none_iff.mp hfind
      simp only [hname, reduceCtorEq, Resolution.resolved.injEq, false_iff]
      rintro ⟨target, htarget, rfl, -⟩
      exact habsent (Keyed.key_mem_keys htarget)
    · next target hfind =>
      obtain ⟨htarget, rfl⟩ := Keyed.find?_eq_some_iff.mp hfind
      -- Only one known object has the name, so any other witness is the one that was found.
      have hunique : ∀ other ∈ known.toList, target.name = other.name → target = other :=
        fun other hother => Keyed.eq_of_key_eq htarget hother
      split
      · next hid =>
        simp only [hname, Except.ok.injEq, Option.some.injEq, Resolution.resolved.injEq]
        constructor
        · exact fun h => ⟨target, htarget, rfl, hid, h⟩
        · rintro ⟨other, hother, heq, -, h⟩
          rwa [hunique other hother heq]
      · next hid =>
        simp only [hname, reduceCtorEq, Resolution.resolved.injEq, false_iff]
        rintro ⟨other, hother, heq, hother', -⟩
        rw [← hunique other hother heq] at hother'
        exact hid hother'

/-- A property refers either to the object it nests, as its type gives that object, or to the
object of the universe that its uuid means. -/
theorem classify_some_iff {reference : ColumnReference} :
    classify known limits owner property = .ok (some reference) ↔
      (∃ target ∈ property.type.nested?,
        classifyDirect known limits owner property target = .ok reference) ∨
      (∃ stem, Candidate.ofProperty property = .implicit stem ∧
        classifyImplicit known limits owner property stem = .ok (some reference)) := by
  simp only [← Candidate.ofProperty_eq_direct_iff, classify]
  split
  · next target hcandidate =>
    cases hdirect : classifyDirect known limits owner property target <;>
      simp [hcandidate, Except.map, hdirect]
  · next stem hcandidate => simp [hcandidate]
  · next hcandidate => simp [hcandidate]

/-- What a property refers to was resolved, among all known names at least. -/
theorem exists_resolve_of_classify {reference : ColumnReference}
    (h : classify known limits owner property = .ok (some reference)) :
    ∃ names text, (∀ name ∈ known.keys, name ∈ names) ∧
      resolve names limits.maxQualifierDrops text = .resolved reference.target.name := by
  rcases classify_some_iff.mp h with ⟨target, -, hdirect⟩ | ⟨stem, -, himplicit⟩
  · obtain ⟨-, hresolve, rfl⟩ := classifyDirect_ok_iff.mp hdirect
    exact ⟨_, _, fun name hname => List.mem_append_left _ hname, hresolve⟩
  · obtain ⟨target, -, hresolve, -, rfl⟩ := classifyImplicit_some_iff.mp himplicit
    exact ⟨_, _, fun name hname => hname, hresolve⟩

/-- A property that nests an object and is accepted refers to that object, which is a literal by the
property's type. -/
theorem eq_directByNesting_of_nests {target : ObjectReference} {found : Option ColumnReference}
    (hnests : target ∈ property.type.nested?)
    (h : classify known limits owner property = .ok found) :
    found = some ⟨.directByNesting, target⟩ ∧ target.variant = .literal := by
  have hcandidate := Candidate.ofProperty_eq_direct_iff.mpr hnests
  rw [classify, hcandidate, map_ok_iff] at h
  obtain ⟨reference, hdirect, rfl⟩ := h
  obtain ⟨hliteral, -, rfl⟩ := classifyDirect_ok_iff.mp hdirect
  exact ⟨rfl, hliteral⟩

/-- A nested object that is refused is the fault of the property's owner. -/
theorem classifyDirect_error {target : ObjectReference} {cause : Cause}
    (h : classifyDirect known limits owner property target = .error cause) :
    cause.domainObject? = some owner := by
  unfold classifyDirect at h
  -- Whether the object has a uuid, is named otherwise, or not at all, its owner is named.
  split at h
  · cases h
    rfl
  · split at h
    · split at h
      · cases h
      · cases h
        rfl
    · cases h
      rfl
    · cases h
      rfl

/-- A uuid that is refused is the fault of the property's owner. What resolution finds in the
universe is known there. -/
theorem classifyImplicit_error {stem : String} {cause : Cause}
    (h : classifyImplicit known limits owner property stem = .error cause) :
    cause.domainObject? = some owner := by
  unfold classifyImplicit at h
  split at h
  · cases h
  · cases h
    rfl
  · next name hname =>
    split at h
    · -- Only the known names were searched, so what was found cannot be unknown.
      next hfind =>
      exact absurd (mem_of_resolve_eq_resolved hname) (Keyed.find?_eq_none_iff.mp hfind)
    · split at h
      · cases h
      · cases h
        rfl

/-- A property that is refused is the fault of its owner. -/
theorem classify_error {cause : Cause}
    (h : classify known limits owner property = .error cause) :
    cause.domainObject? = some owner := by
  unfold classify at h
  split at h
  · exact classifyDirect_error (map_error_iff.mp h)
  · exact classifyImplicit_error h
  · cases h

end

end DomainTables
