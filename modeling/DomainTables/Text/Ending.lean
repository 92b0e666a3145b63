/-!
# Endings of texts

Names carry meaning in their endings: the mark of a uuid, a plural, the name of another object.
-/

namespace DomainTables.Text

/-- Tells whether a text ends with another. -/
def endsWith (text ending : String) : Bool :=
  ending.toList.isSuffixOf text.toList

/-- What stands before an ending of a text, or `none` if the text does not end so. -/
def stemBefore? (text ending : String) : Option String :=
  if endsWith text ending then
    some (String.ofList (text.toList.take (text.toList.length - ending.toList.length)))
  else none

/-- A text ends with another exactly if it is some text followed by the other. -/
theorem endsWith_iff {text ending : String} :
    endsWith text ending = true ↔ ∃ stem, text = stem ++ ending := by
  rw [endsWith, List.isSuffixOf_iff_suffix]
  constructor
  · rintro ⟨stem, h⟩
    exact ⟨String.ofList stem, String.toList_inj.1 (by simp [h])⟩
  · rintro ⟨stem, rfl⟩
    exact ⟨stem.toList, by simp⟩

/-- A text ends with another exactly if something stands before that. -/
theorem endsWith_eq_isSome (text ending : String) :
    endsWith text ending = (stemBefore? text ending).isSome := by
  rw [stemBefore?]
  split
  · next ends => exact ends
  · next ends => exact Bool.eq_false_iff.2 ends

/-- What stands before an ending makes the text together with it. -/
theorem stemBefore?_eq_some_iff {text ending stem : String} :
    stemBefore? text ending = some stem ↔ text = stem ++ ending := by
  constructor
  · intro h
    rw [stemBefore?] at h
    split at h
    · next ends =>
      obtain ⟨start, rfl⟩ := endsWith_iff.1 ends
      cases h
      exact String.toList_inj.1 (by simp)
    · cases h
  · rintro rfl
    rw [stemBefore?, if_pos (endsWith_iff.2 ⟨stem, rfl⟩)]
    simp

end DomainTables.Text
