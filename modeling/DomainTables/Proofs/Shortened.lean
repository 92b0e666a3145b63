import Mathlib.Data.List.Infix
import DomainTables.Proofs.Levels
import DomainTables.Proofs.Spelling

/-!
# Names without their first words

A name of the seven-bit range is spelled from its words as the text is that it was taken from, in
all three conventions. The words are what snake case has between underscores
(`Name.map_toList_parts_eq_splitOn`), and camel case takes a text apart again that was put together
like this.

What is left of a name without its first words is spelled like the end of the name
(`Name.upperCamelCase_of_dropLeading`), since each word is raised for itself. So a text that ends
with the rest of a name ends with any shorter rest too, down to the last word
(`Name.endsWith_of_dropLeading`).
-/

namespace DomainTables.Name

open Text (IsSevenBit IsSmallWord raised)

/-- The words of a text are what its snake case has between underscores. -/
theorem map_toList_parts_eq_splitOn (text : String) :
    (ofString text).parts.map String.toList =
      ((Text.snakeCase text).toList.splitOn '_').filter fun piece => !piece.isEmpty := by
  rw [map_toList_parts_ofString, Text.snakeCase, String.toList_ofList]
  by_cases hwords : Text.wordsOf text.toList = []
  · rw [Text.snakeChars_eq_nil_iff.mpr hwords, hwords]
    rfl
  · rw [Text.splitOn_snakeChars hwords, eq_comm, List.filter_eq_self]
    intro word hword
    rw [Bool.not_eq_true', List.isEmpty_eq_false_iff]
    exact (Text.word_of_mem_wordsOf hword).1

/-- A name has the snake case of the text that it was taken from. -/
theorem snakeCase_ofString (text : String) :
    (ofString text).snakeCase = Text.snakeCase text := by
  rw [← String.toList_inj, toList_snakeCase, map_toList_parts_ofString, Text.snakeCase,
    String.toList_ofList, Text.snakeChars]

section

variable {name rest shorter : Name} {dropped deeper : Nat}

/-- What is left of a name of small words has small words, and some of them. -/
theorem isSmall_of_dropLeading (h : name.IsSmall) (hrest : name.dropLeading dropped = some rest) :
    rest.IsSmall ∧ rest.parts ≠ [] := by
  obtain ⟨hlt, rfl⟩ := dropLeading_eq_some_iff.mp hrest
  refine ⟨fun word hword => h word ?_, fun hnil => ?_⟩
  · exact ((List.drop_suffix dropped name.parts).map String.toList).subset hword
  · exact absurd (List.drop_eq_nil_iff.mp hnil) (Nat.not_le.mpr hlt)

/-- What is left of a name without more words is left of what is left without fewer. -/
theorem dropLeading_of_le (hle : dropped ≤ deeper) (hrest : name.dropLeading dropped = some rest)
    (hshorter : name.dropLeading deeper = some shorter) :
    rest.dropLeading (deeper - dropped) = some shorter := by
  obtain ⟨-, rfl⟩ := dropLeading_eq_some_iff.mp hrest
  obtain ⟨hlt, rfl⟩ := dropLeading_eq_some_iff.mp hshorter
  refine dropLeading_eq_some_iff.mpr ⟨?_, ?_⟩
  · rw [List.length_drop]
    exact Nat.sub_lt_sub_right hle hlt
  · rw [List.drop_drop, Nat.add_sub_cancel' hle]

/-- Words in the spelling of objects are not nothing. -/
theorem upperCamelCase_ne_empty (h : name.IsSmall) (hne : name.parts ≠ []) :
    name.upperCamelCase ≠ "" := by
  rw [Ne, ← String.toList_eq_nil_iff, toList_upperCamelCase h, List.flatMap_eq_nil_iff]
  intro hraised
  obtain ⟨word, hword⟩ := List.exists_mem_of_ne_nil _ hne
  have hmem : word.toList ∈ name.parts.map String.toList := List.mem_map_of_mem hword
  obtain ⟨c, more, hcons⟩ := List.exists_cons_of_ne_nil (h word.toList hmem).1
  rw [hcons] at hmem
  cases hraised _ hmem

/-- What is left of a name is spelled like the end of it, and is not nothing. -/
theorem upperCamelCase_of_dropLeading (h : name.IsSmall)
    (hrest : name.dropLeading dropped = some rest) :
    rest.upperCamelCase ≠ "" ∧ ∃ front, name.upperCamelCase = front ++ rest.upperCamelCase := by
  obtain ⟨hsmall, hne⟩ := isSmall_of_dropLeading h hrest
  refine ⟨upperCamelCase_ne_empty hsmall hne, ?_⟩
  obtain ⟨-, rfl⟩ := dropLeading_eq_some_iff.mp hrest
  have hsuffix := (List.drop_suffix dropped name.parts).map String.toList
  obtain ⟨front, hfront⟩ := hsuffix.flatMap raised
  refine ⟨String.ofList front, ?_⟩
  rw [← String.toList_inj, String.toList_append, String.toList_ofList, toList_upperCamelCase h,
    toList_upperCamelCase hsmall, ← hfront]

/-- A text that ends with what is left of a name ends with any shorter rest of it. -/
theorem endsWith_of_dropLeading (h : name.IsSmall) (hle : dropped ≤ deeper)
    (hrest : name.dropLeading dropped = some rest)
    (hshorter : name.dropLeading deeper = some shorter) {form : String}
    (hform : Text.endsWith form rest.upperCamelCase = true) :
    Text.endsWith form shorter.upperCamelCase = true := by
  obtain ⟨-, front, hfront⟩ := upperCamelCase_of_dropLeading (isSmall_of_dropLeading h hrest).1
    (dropLeading_of_le hle hrest hshorter)
  obtain ⟨qualifiers, rfl⟩ := Text.endsWith_iff.mp hform
  refine Text.endsWith_iff.mpr ⟨qualifiers ++ front, ?_⟩
  rw [hfront, String.append_assoc]

end

/-- A name taken from a text of the seven-bit range has the words that the text has in snake case,
and is spelled from them as the text is. Without its first words it is spelled like the end of that,
unless no words are left. So a form that ends with the name at one level means it at every deeper
level at which words are left. -/
theorem spellings_ofString {text : String} (h : IsSevenBit text) :
    (ofString text).parts.map String.toList =
      ((Text.snakeCase text).toList.splitOn '_').filter (fun piece => !piece.isEmpty) ∧
    (ofString text).snakeCase = Text.snakeCase text ∧
    (ofString text).camelCase = Text.camelCase text ∧
    (ofString text).upperCamelCase = Text.upperCamelCase text ∧
    ∀ dropped rest, (ofString text).dropLeading dropped = some rest →
      rest.upperCamelCase ≠ "" ∧
      (∃ front, (ofString text).upperCamelCase = front ++ rest.upperCamelCase) ∧
      ∀ deeper shorter, dropped ≤ deeper → (ofString text).dropLeading deeper = some shorter →
        ∀ forms, ∀ form ∈ forms, Text.endsWith form rest.upperCamelCase = true →
          Text.endsWith form shorter.upperCamelCase = true ∧ shorter.isMeantBy forms = true := by
  have hsmall := isSmall_ofString h
  refine ⟨map_toList_parts_eq_splitOn text, snakeCase_ofString text, camelCase_ofString h,
    upperCamelCase_ofString h, fun dropped rest hrest => ?_⟩
  obtain ⟨hne, hfront⟩ := upperCamelCase_of_dropLeading hsmall hrest
  refine ⟨hne, hfront, fun deeper shorter hle hshorter forms form hform hends => ?_⟩
  have hshort := endsWith_of_dropLeading hsmall hle hrest hshorter hends
  exact ⟨hshort, isMeantBy_iff.mpr ⟨form, hform, Or.inr (Text.endsWith_iff.mp hshort)⟩⟩

/-- A server that speaks two protocols is spelled with each abbreviation as a word, and a property
named after the whole of it is named after the server alone as well. -/
theorem spellings_ofString_server :
    IsSevenBit "HTTPAndFTP2_server" ∧
      (ofString "HTTPAndFTP2_server").upperCamelCase = "HttpAndFtp2Server" ∧
      (ofString "HTTPAndFTP2_server").dropLeading 3 = some ⟨["server"]⟩ ∧
      Text.endsWith "mainHttpAndFtp2Server" (Name.mk ["server"]).upperCamelCase = true := by
  have hseven : IsSevenBit "HTTPAndFTP2_server" := by decide
  obtain ⟨-, -, -, hupper, hrests⟩ := spellings_ofString hseven
  have hwhole : (ofString "HTTPAndFTP2_server").dropLeading 0 =
      some ⟨["http", "and", "ftp2", "server"]⟩ := by
    decide
  have hserver : (ofString "HTTPAndFTP2_server").dropLeading 3 = some ⟨["server"]⟩ := by
    decide
  obtain ⟨-, -, hdeeper⟩ := hrests 0 _ hwhole
  obtain ⟨hends, -⟩ := hdeeper 3 _ (by decide) hserver ["mainHttpAndFtp2Server"]
    "mainHttpAndFtp2Server" (by decide) (by decide)
  exact ⟨hseven, hupper.trans (by decide), hserver, hends⟩

end DomainTables.Name
