import DomainTables.Proofs.Levels
import DomainTables.Proofs.WordBreaks

/-!
# References on whole words

Resolution drops qualifiers by words, but it compares what is left of a name with the end of a
property as texts. A text can end with the spelling of words without having them for its last words:
`roomHVAC` ends with the `C` of `VitaminC`. What resolution reports is spelled by a form of the
property (`Name.IsSpelledBy`), and it stands there as whole words exactly if a word of the form
begins at the place of each of its words (`wholeWords_of_resolve`).

A form that spells words ends with them, small or raised (`Name.spells_of_isSpelledBy`), so that the
theorem is one on texts and the places at which words begin in them (`Text.suffix_wordsOf_iff`).
-/

namespace DomainTables

/-- A form of a property's name is a name in the spelling of properties, or ends with it in the
spelling of objects. -/
def Name.IsSpelledBy (name : Name) (form : String) : Prop :=
  form = name.camelCase ∨ ∃ qualifiers, form = qualifiers ++ name.upperCamelCase

/-- The name without its first words. -/
def Name.dropWords (name : Name) (count : Nat) : Name :=
  ⟨name.parts.drop count⟩

/-- Some words of a name, from one within the limit to the last, are the last words of a form of a
property's name. -/
def Name.EndsWordwise (name : Name) (property : String) (maxDrops : Nat) : Prop :=
  ∃ dropped ≤ maxDrops, (name.dropWords dropped).parts ≠ [] ∧
    ∃ form, IsFormOf form property ∧ (name.dropWords dropped).parts <:+ Text.words form

section

variable {name : Name} {property form : String}

/-- A form of a name of letters and digits is one. -/
theorem IsFormOf.isAlphanumericName (h : IsFormOf form property)
    (hproperty : Text.IsAlphanumericName property) : Text.IsAlphanumericName form := by
  rcases h with rfl | ⟨-, rfl⟩
  · exact hproperty
  · exact fun c hc => hproperty c (by simp [hc])

/-- Words are the last ones of a text exactly if they are as lists of characters. -/
theorem suffix_words_iff {words : List String} {text : String} :
    words <:+ Text.words text ↔ words.map String.toList <:+ Text.wordsOf text.toList := by
  have hwords : Text.wordsOf text.toList = (Text.words text).map String.toList :=
    (Name.map_toList_parts_ofString text).symm
  rw [hwords, List.suffix_map_iff_of_injective fun _ _ => String.toList_inj.mp]

/-- A form that spells small words ends with them. -/
theorem Name.spells_of_isSpelledBy (hsmall : name.IsSmall) (h : name.IsSpelledBy form) :
    Text.Spells form.toList (name.parts.map String.toList) := by
  rcases h with rfl | ⟨qualifiers, rfl⟩
  · rw [toList_camelCase hsmall]
    exact Text.spells_camelOf _
  · rw [String.toList_append, toList_upperCamelCase hsmall]
    exact Text.spells_flatMap_raised _ _

/-- Where a form spells a name, its last words are those of the name exactly if these are small and
a word of the form begins at the place of each. -/
theorem Name.suffix_words_iff_of_isSpelledBy (hform : Text.IsAlphanumericName form)
    (h : name.IsSpelledBy form) :
    name.parts <:+ Text.words form ↔
      name.IsSmall ∧ Text.MarksWords form.toList (name.parts.map String.toList) := by
  rw [suffix_words_iff]
  constructor
  · intro hsuffix
    have hsmall : name.IsSmall := fun word hword =>
      Text.isSmallWord_of_mem_wordsOf hform.isSevenBit (hsuffix.subset hword)
    have hspells := spells_of_isSpelledBy hsmall h
    exact ⟨hsmall, (Text.suffix_wordsOf_iff hspells hform hsmall).mp hsuffix⟩
  · rintro ⟨hsmall, hmarks⟩
    have hspells := spells_of_isSpelledBy hsmall h
    exact (Text.suffix_wordsOf_iff hspells hform hsmall).mpr hmarks

end

/-- What resolution reports is spelled by a form of the property, in full or from one of the words
within the limit on: the form is the rest in lower camel case, or ends with it in upper camel case.
Its words are the last ones of the form exactly if they have letters and digits of the seven-bit
range only and a word of the form begins at the place of each: at the beginning of the form, or with
a capital, if the last letter in front is small, or if that is a capital and a small letter follows.
-/
theorem wholeWords_of_resolve (names : List String) (maxDrops : Nat) {property : String}
    (hproperty : Text.IsAlphanumericName property) {name : String}
    (hname : name ∈ (resolve names maxDrops property).names) :
    name ∈ names ∧ ∃ dropped ≤ maxDrops, ∃ rest : Name,
      rest = (Name.ofString name).dropWords dropped ∧ rest.parts ≠ [] ∧
      (∃ form, IsFormOf form property ∧ rest.IsSpelledBy form) ∧
      ∀ form, IsFormOf form property → rest.IsSpelledBy form →
        (rest.parts <:+ Text.words form ↔
          rest.IsSmall ∧ Text.MarksWords form.toList (rest.parts.map String.toList)) := by
  obtain ⟨dropped, ⟨⟨-, hle, -⟩, -⟩, hmem, hleft, form, hform, hspelled⟩ :=
    mem_names_resolve_iff.mp hname
  refine ⟨hmem, dropped, Nat.zero_add maxDrops ▸ hle, _, rfl, ?_, ⟨form, hform, hspelled⟩,
    fun form hform hspelled => ?_⟩
  · exact fun hnil => absurd hleft (Nat.not_lt.mpr (List.drop_eq_nil_iff.mp hnil))
  · exact Name.suffix_words_iff_of_isSpelledBy (hform.isAlphanumericName hproperty) hspelled

/-- An engineer who leads is an engineer by the last word of that, which the name of the property
spells. -/
theorem wholeWords_of_resolve_leadEngineer :
    Text.IsAlphanumericName "leadEngineer" ∧
      "TrainEngineer" ∈ (resolve ["Address", "TrainEngineer"] 20 "leadEngineer").names ∧
      ∃ dropped ≤ 20, ∃ form, IsFormOf form "leadEngineer" ∧
        ((Name.ofString "TrainEngineer").dropWords dropped).IsSpelledBy form := by
  have hproperty : Text.IsAlphanumericName "leadEngineer" := by decide
  have hname : "TrainEngineer" ∈
      (resolve ["Address", "TrainEngineer"] 20 "leadEngineer").names := by decide +kernel
  obtain ⟨-, dropped, hle, rest, rfl, -, hspelled, -⟩ :=
    wholeWords_of_resolve ["Address", "TrainEngineer"] 20 hproperty hname
  exact ⟨hproperty, hname, dropped, hle, hspelled⟩

/-- The climate of a room is taken for a vitamin by the last letter of its only other word. -/
theorem not_endsWordwise_roomHVAC :
    Text.IsAlphanumericName "roomHVAC" ∧
      resolve ["VitaminC"] 20 "roomHVAC" = .resolved "VitaminC" ∧
      ¬ (Name.ofString "VitaminC").EndsWordwise "roomHVAC" 20 := by
  refine ⟨by decide, by decide +kernel, ?_⟩
  rintro ⟨dropped, -, hne, form, hform, hsuffix⟩
  have hforms : propertyForms "roomHVAC" = ["roomHVAC"] := by decide +kernel
  have hparts : (Name.ofString "VitaminC").parts = ["vitamin", "c"] := by decide +kernel
  have hwords : Text.words "roomHVAC" = ["room", "hvac"] := by decide +kernel
  -- The property is no plural, so it is its own only form.
  obtain rfl := List.mem_singleton.mp (hforms ▸ mem_propertyForms_iff.mpr hform)
  rw [Name.dropWords, hparts] at hne hsuffix
  rw [hwords] at hsuffix
  match dropped with
  | 0 => exact absurd hsuffix (by decide)
  | 1 => exact absurd hsuffix (by decide)
  | dropped + 2 => exact hne List.drop_nil

end DomainTables
