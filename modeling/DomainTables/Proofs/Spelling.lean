import DomainTables.Domain.Name
import DomainTables.Proofs.CamelCase

/-!
# Names spelled from their words

A name that was taken apart is spelled again from its words, by way of snake case. In the seven-bit
range nothing is lost on the way: the underscores stand where the words were cut, and a word of
small letters and digits is not cut once more (`spelledWords_intercalate`). So the words decide how
a name is spelled, each of them raised, except for the first one of a property
(`Name.toList_upperCamelCase`, `Name.toList_camelCase`), and a name is spelled like the text that it
was taken from (`Name.upperCamelCase_ofString`).

The spelling of an object and that of a property with the same words differ in the first letter only
(`camelOf_eq_lowered`, `raised_camelOf`). That letter makes no difference for what a text ends with
(`lowered_suffix_iff`), and neither spelling makes a difference for its length
(`length_upperCamelCase`, `length_camelCase`).
-/

namespace DomainTables.Text

/-- A name has letters and digits of the seven-bit range only. -/
def IsAlphanumericName (name : String) : Prop :=
  ∀ c ∈ name.toList, c.isAlphanum = true

instance (name : String) : Decidable (IsAlphanumericName name) :=
  decidable_of_iff (name.toList.all Char.isAlphanum = true) List.all_eq_true

/-- A name of letters and digits of the seven-bit range is of that range. -/
theorem IsAlphanumericName.isSevenBit {name : String} (h : IsAlphanumericName name) :
    IsSevenBit name :=
  fun c hc => (isAlphanumeric_of_isAlphanum (h c hc)).1

/-! ## Words between underscores -/

/-- A small letter or digit is a letter or digit, no capital, and its own small form. -/
theorem plain_of_isSmall {c : Char} (h : isSmall c = true) :
    isAlphanumeric c = true ∧ isUpper c = false ∧ c.toLower = c := by
  have hc := toNat_lt_of_isSmall h
  rw [isAlphanumeric, if_pos hc, isUpper, if_pos hc]
  exact of_sevenBit (p := fun c => isSmall c = true →
    c.isAlphanum = true ∧ c.isUpper = false ∧ c.toLower = c) (by decide) hc h

/-- Letters and digits alone are one run. -/
theorem runsOf_of_forall {word : List Char} (hne : word ≠ [])
    (hword : ∀ c ∈ word, isAlphanumeric c = true) : runsOf word = [word] := by
  induction word with
  | nil => exact absurd rfl hne
  | cons c rest ih =>
    obtain ⟨hc, hrest⟩ := List.forall_mem_cons.mp hword
    rw [runsOf, if_pos hc]
    -- The last letter begins the run, and each one before it is put in front.
    cases rest with
    | nil => rfl
    | cons next more =>
      rw [ih (List.cons_ne_nil _ _) hrest]
      rfl

/-- Letters and digits of the seven-bit range are cut as one run. -/
theorem spelledWords_of_isAlphanum {text : List Char} (htext : ∀ c ∈ text, c.isAlphanum = true) :
    spelledWords text = splitRun .undecided text := by
  by_cases hnil : text = []
  · rw [hnil]
    rfl
  · have hrun := runsOf_of_forall hnil fun c hc => (isAlphanumeric_of_isAlphanum (htext c hc)).2
    rw [spelledWords, hrun, List.flatMap_singleton]

/-- Letters and digits of the seven-bit range have words unless there are none of them. -/
theorem wordsOf_eq_nil_iff {text : List Char} (htext : ∀ c ∈ text, c.isAlphanum = true) :
    wordsOf text = [] ↔ text = [] := by
  constructor
  · intro h
    rw [wordsOf, List.map_eq_nil_iff, spelledWords_of_isAlphanum htext] at h
    rw [← flatten_splitRun .undecided text, h, List.flatten_nil]
  · rintro rfl
    rfl

/-- Letters and digits in front of an underscore are one run. -/
theorem runsOf_append_underscore_of_forall {word : List Char}
    (hword : ∀ c ∈ word, isAlphanumeric c = true) (text : List Char) :
    runsOf (word ++ '_' :: text) = word :: runsOf text := by
  induction word with
  | nil => rfl
  | cons c rest ih =>
    obtain ⟨hc, hrest⟩ := List.forall_mem_cons.mp hword
    rw [List.cons_append, runsOf, if_pos hc, ih hrest]
    rfl

/-- Words between underscores are the runs of the text. -/
theorem runsOf_intercalate {words : List (List Char)} (hne : ∀ word ∈ words, word ≠ [])
    (hwords : ∀ word ∈ words, ∀ c ∈ word, isAlphanumeric c = true) :
    runsOf (['_'].intercalate words) = words := by
  induction words with
  | nil => rfl
  | cons word rest ih =>
    obtain ⟨hword, hrest⟩ := List.forall_mem_cons.mp hwords
    obtain ⟨hnil, hnils⟩ := List.forall_mem_cons.mp hne
    -- Behind the last word there is no underscore.
    cases rest with
    | nil => rw [List.intercalate_singleton, runsOf_of_forall hnil hword]
    | cons next more =>
      rw [List.intercalate_cons_cons, List.append_assoc, List.singleton_append,
        runsOf_append_underscore_of_forall hword, ih hnils hrest]

/-- A run without capitals is not cut, whatever casing it follows. -/
theorem splitRun_of_forall {run : List Char} (hne : run ≠ [])
    (hrun : ∀ c ∈ run, isUpper c = false) (casing : Casing) : splitRun casing run = [run] := by
  fun_induction splitRun casing run with
  | case1 => exact absurd rfl hne
  | case2 => rfl
  -- Both ways of cutting a run need a capital on the right side of the cut.
  | case3 casing c next rest hbreak =>
    rw [hrun next (List.mem_cons_of_mem _ List.mem_cons_self)] at hbreak
    cases hbreak.2
  | case4 casing c next rest _ hbreak =>
    rw [hrun c List.mem_cons_self] at hbreak
    cases hbreak.2.1
  | case5 casing c next rest _ _ ih =>
    rw [ih (List.cons_ne_nil _ _) (List.forall_mem_cons.mp hrun).2]
    rfl

/-- Small words between underscores are the words of the text. -/
theorem spelledWords_intercalate {words : List (List Char)}
    (h : ∀ word ∈ words, IsSmallWord word) : spelledWords (['_'].intercalate words) = words := by
  have hsplit : ∀ word ∈ words, splitRun .undecided word = [word] := fun word hword =>
    splitRun_of_forall (h word hword).1
      (fun c hc => (plain_of_isSmall ((h word hword).2 c hc)).2.1) .undecided
  rw [spelledWords, runsOf_intercalate (fun word hword => (h word hword).1)
    fun word hword c hc => (plain_of_isSmall ((h word hword).2 c hc)).1]
  calc words.flatMap (splitRun .undecided)
      = words.flatMap fun word => [word] := by
        rw [List.flatMap_def, List.map_congr_left hsplit, ← List.flatMap_def]
    _ = words := List.flatMap_singleton' words

/-- A small word is its own small form. -/
theorem lowerWord_of_isSmallWord {word : List Char} (h : IsSmallWord word) :
    lowerWord word = word := by
  rw [lowerWord_of_sevenBit fun c hc => toNat_lt_of_isSmall (h.2 c hc)]
  exact (List.map_congr_left fun c hc => (plain_of_isSmall (h.2 c hc)).2.2).trans
    (List.map_id' word)

/-- Small words between underscores are the words of the text in small letters. -/
theorem wordsOf_intercalate {words : List (List Char)} (h : ∀ word ∈ words, IsSmallWord word) :
    wordsOf (['_'].intercalate words) = words := by
  rw [wordsOf, spelledWords_intercalate h]
  calc words.map lowerWord
      = words.map fun word => word :=
        List.map_congr_left fun word hword => lowerWord_of_isSmallWord (h word hword)
    _ = words := List.map_id' words

/-- Small words between underscores are a text of the seven-bit range. -/
theorem sevenBit_intercalate {words : List (List Char)} (h : ∀ word ∈ words, IsSmallWord word) :
    ∀ c ∈ ['_'].intercalate words, c.toNat < 0x80 := by
  intro c hc
  by_contra hlarge
  refine notMem_intercalate (fun hmark => ?_) (fun word hword hmem => ?_) hc
  · rw [List.mem_singleton.mp hmark] at hlarge
    exact hlarge (by decide)
  · exact hlarge (toNat_lt_of_isSmall ((h word hword).2 c hmem))

/-- The spelling of an object depends on the words alone in the seven-bit range. -/
theorem upperCamelChars_eq_flatMap {text : List Char} (htext : ∀ c ∈ text, c.toNat < 0x80) :
    upperCamelChars text = (wordsOf text).flatMap raised := by
  rw [upperCamelChars, flatMap_capitalized (sevenBit_of_mem_spelledWords htext), wordsOf]

/-! ## The first letter -/

/-- A small letter or digit is the small form of its capital. -/
theorem toLower_toUpper_of_isSmall {c : Char} (h : isSmall c = true) : c.toUpper.toLower = c := by
  obtain ⟨-, hdigit, hletter⟩ := facts_of_isSmall h
  cases hc : c.isDigit with
  | true => rw [hdigit hc, (plain_of_isSmall h).2.2]
  | false => exact (hletter hc).2

/-- A text with a small letter for its first character. -/
def lowered : List Char → List Char
  | [] => []
  | c :: rest => c.toLower :: rest

/-- Words spelled like a property are spelled like an object but for the first letter. -/
theorem camelOf_eq_lowered {words : List (List Char)} (h : ∀ word ∈ words, IsSmallWord word) :
    camelOf words = lowered (words.flatMap raised) := by
  cases words with
  | nil => rfl
  | cons first others =>
    have hfirst := h first List.mem_cons_self
    obtain ⟨c, rest, rfl⟩ := List.exists_cons_of_ne_nil hfirst.1
    calc camelOf ((c :: rest) :: others)
        = c :: (rest ++ others.flatMap raised) := rfl
      _ = c.toUpper.toLower :: (rest ++ others.flatMap raised) := by
        rw [toLower_toUpper_of_isSmall (hfirst.2 c List.mem_cons_self)]

/-- Words spelled like an object are spelled like a property but for the first letter. -/
theorem raised_camelOf {words : List (List Char)} (h : ∀ word ∈ words, word ≠ []) :
    raised (camelOf words) = words.flatMap raised := by
  cases words with
  | nil => rfl
  | cons first others =>
    obtain ⟨c, rest, rfl⟩ := List.exists_cons_of_ne_nil (h first List.mem_cons_self)
    rfl

/-- A text begins with a capital or a digit, if it is not empty: a capital in front is nothing new,
and takes a small letter in front back. -/
def IsRaised (text : List Char) : Prop :=
  raised text = text ∧ raised (lowered text) = text

/-- Raised words begin with a capital or a digit. -/
theorem isRaised_flatMap_raised {words : List (List Char)} (h : ∀ word ∈ words, IsSmallWord word) :
    IsRaised (words.flatMap raised) := by
  constructor
  · cases words with
    | nil => rfl
    | cons first others =>
      have hfirst := h first List.mem_cons_self
      obtain ⟨c, rest, rfl⟩ := List.exists_cons_of_ne_nil hfirst.1
      have hseven := toNat_lt_of_isSmall (hfirst.2 c List.mem_cons_self)
      -- Making a capital twice is making it once, which is tried for all seven-bit characters.
      have hupper : c.toUpper.toUpper = c.toUpper :=
        of_sevenBit (p := fun c => c.toUpper.toUpper = c.toUpper) (by decide) hseven
      exact congrArg (· :: (rest ++ others.flatMap raised)) hupper
  · rw [← camelOf_eq_lowered h, raised_camelOf fun word hword => (h word hword).1]

/-- The beginning of a text that begins with a capital does so, too. -/
theorem IsRaised.of_append {front rest : List Char} (h : IsRaised (front ++ rest)) :
    IsRaised front := by
  cases front with
  | nil => exact ⟨rfl, rfl⟩
  | cons c more =>
    exact ⟨congrArg (· :: more) (List.cons_eq_cons.mp h.1).1,
      congrArg (· :: more) (List.cons_eq_cons.mp h.2).1⟩

/-- Only the empty text is empty with a small letter in front. -/
theorem lowered_eq_nil_iff {text : List Char} : lowered text = [] ↔ text = [] := by
  cases text <;> simp [lowered]

/-- A text with a small letter in front is made of two parts if the text is. -/
theorem lowered_eq_append_iff {text front rest : List Char} (hfront : front ≠ []) :
    lowered text = front ++ rest ↔ ∃ start, text = start ++ rest ∧ lowered start = front := by
  constructor
  · intro h
    obtain ⟨c, more, rfl⟩ := List.exists_cons_of_ne_nil hfront
    cases text with
    | nil => cases h
    | cons d others =>
      -- Only the first letter differs, and that is in front of the cut as `front` is not empty.
      obtain ⟨hc, hothers⟩ := List.cons_eq_cons.mp h
      exact ⟨d :: more, congrArg (d :: ·) hothers, congrArg (· :: more) hc⟩
  · rintro ⟨start, rfl, rfl⟩
    cases start with
    | nil => exact absurd rfl hfront
    | cons c more => rfl

/-- A text with a small letter in front is another one with a small letter in front, or ends with it
as it is, exactly if the text ends with the other one. -/
theorem lowered_suffix_iff {text ending : List Char} (htext : IsRaised text)
    (hending : IsRaised ending) :
    lowered text = lowered ending ∨ ending <:+ lowered text ↔ ending <:+ text := by
  constructor
  · rintro (hlowered | ⟨front, h⟩)
    · have heq : text = ending := by rw [← htext.2, hlowered, hending.2]
      exact heq ▸ List.suffix_rfl
    · by_cases hnil : front = []
      · -- A capital cannot be a small letter, so the two begin with the same digit.
        have heq : text = ending := by rw [← htext.2, ← h, hnil, List.nil_append, hending.1]
        exact heq ▸ List.suffix_rfl
      · obtain ⟨start, rfl, -⟩ := (lowered_eq_append_iff hnil).mp h.symm
        exact List.suffix_append start ending
  · rintro ⟨front, rfl⟩
    cases front with
    | nil => exact Or.inl rfl
    | cons c more => exact Or.inr (List.suffix_append (c.toLower :: more) ending)

/-- In the spelling of properties no name begins with a capital. -/
theorem camelCase_ne_of_capital {name : String} (hletters : IsAlphanumericName name)
    (hcapital : name.toList.head?.any Char.isUpper = true) : camelCase name ≠ name := by
  intro heq
  have hchars : camelOf (wordsOf name.toList) = name.toList := by
    rw [← camelChars_eq_camelOf hletters.isSevenBit, ← String.toList_ofList (l := camelChars _)]
    exact congrArg String.toList heq
  rw [← hchars] at hcapital
  -- The spelling begins with the first letter of the first word, which is small.
  cases hwords : wordsOf name.toList with
  | nil =>
    rw [hwords] at hcapital
    cases hcapital
  | cons first others =>
    have hfirst : IsSmallWord first :=
      isSmallWord_of_mem_wordsOf hletters.isSevenBit (hwords ▸ List.mem_cons_self)
    obtain ⟨c, rest, rfl⟩ := List.exists_cons_of_ne_nil hfirst.1
    have hc := hfirst.2 c List.mem_cons_self
    have hseven := toNat_lt_of_isSmall hc
    have hsmall := (plain_of_isSmall hc).2.1
    rw [isUpper, if_pos hseven] at hsmall
    rw [hwords] at hcapital
    exact absurd hcapital (Bool.eq_false_iff.mp hsmall)

/-! ## Lengths -/

/-- Small forms of words of the seven-bit range have the same lengths. -/
theorem length_flatten_map_lowerWord {words : List (List Char)}
    (h : ∀ word ∈ words, ∀ c ∈ word, c.toNat < 0x80) :
    (words.map lowerWord).flatten.length = words.flatten.length := by
  induction words with
  | nil => rfl
  | cons word rest ih =>
    obtain ⟨hword, hrest⟩ := List.forall_mem_cons.mp h
    rw [List.map_cons, List.flatten_cons, List.flatten_cons, List.length_append, List.length_append,
      lowerWord_of_sevenBit hword, List.length_map, ih hrest]

/-- Raised words are as long as the words. -/
theorem length_flatMap_raised (words : List (List Char)) :
    (words.flatMap raised).length = words.flatten.length := by
  induction words with
  | nil => rfl
  | cons word rest ih =>
    have hword : (raised word).length = word.length := by cases word <;> rfl
    rw [List.flatMap_cons, List.flatten_cons, List.length_append, List.length_append, hword, ih]

/-- Words spelled like a property are as long as the words. -/
theorem length_camelOf (words : List (List Char)) :
    (camelOf words).length = words.flatten.length := by
  cases words with
  | nil => rfl
  | cons first others =>
    rw [camelOf, List.flatten_cons, List.length_append, List.length_append, length_flatMap_raised]

/-- Letters and digits of the seven-bit range are as long as their words. -/
theorem length_flatten_wordsOf {text : List Char} (htext : ∀ c ∈ text, c.isAlphanum = true) :
    (wordsOf text).flatten.length = text.length := by
  have hseven : ∀ c ∈ text, c.toNat < 0x80 :=
    fun c hc => (isAlphanumeric_of_isAlphanum (htext c hc)).1
  rw [wordsOf, length_flatten_map_lowerWord (sevenBit_of_mem_spelledWords hseven),
    spelledWords_of_isAlphanum htext, flatten_splitRun]

/-- A name is as long in the spelling of objects as it is declared. -/
theorem length_upperCamelCase {name : String} (hletters : IsAlphanumericName name) :
    (upperCamelCase name).toList.length = name.toList.length := by
  rw [upperCamelCase, String.toList_ofList, upperCamelChars_eq_flatMap hletters.isSevenBit,
    length_flatMap_raised, length_flatten_wordsOf hletters]

/-- A name is as long in the spelling of properties as it is declared. -/
theorem length_camelCase {name : String} (hletters : IsAlphanumericName name) :
    (camelCase name).toList.length = name.toList.length := by
  rw [camelCase, String.toList_ofList, camelChars_eq_camelOf hletters.isSevenBit,
    length_camelOf, length_flatten_wordsOf hletters]

end DomainTables.Text

namespace DomainTables.Name

open Text (IsSevenBit IsSmallWord camelOf raised)

variable {name : Name} {text : String}

/-- The words of a name are small: letters and digits of the seven-bit range, and at least one. -/
def IsSmall (name : Name) : Prop :=
  ∀ word ∈ name.parts.map String.toList, IsSmallWord word

/-- A name has the words that it was taken apart into. -/
theorem map_toList_parts_ofString (text : String) :
    (ofString text).parts.map String.toList = Text.wordsOf text.toList := by
  rw [ofString, Text.words, List.map_map]
  calc (Text.wordsOf text.toList).map (String.toList ∘ String.ofList)
      = (Text.wordsOf text.toList).map fun word => word :=
        List.map_congr_left fun word _ => String.toList_ofList
    _ = Text.wordsOf text.toList := List.map_id' _

/-- A name of letters and digits of the seven-bit range has words unless it is empty. -/
theorem parts_ne_nil_iff (h : Text.IsAlphanumericName text) :
    (ofString text).parts ≠ [] ↔ text ≠ "" := by
  rw [ofString, Text.words, Ne, List.map_eq_nil_iff, Text.wordsOf_eq_nil_iff h,
    String.toList_eq_nil_iff]

/-- A name of the seven-bit range has small words. -/
theorem isSmall_ofString (h : IsSevenBit text) : (ofString text).IsSmall := by
  rw [IsSmall, map_toList_parts_ofString]
  exact fun word => Text.isSmallWord_of_mem_wordsOf h

/-- The words of a name stand between underscores in snake case. -/
theorem toList_snakeCase (name : Name) :
    name.snakeCase.toList = ['_'].intercalate (name.parts.map String.toList) :=
  String.toList_intercalate

/-- A name is spelled like an object by raising its words. -/
theorem toList_upperCamelCase (h : name.IsSmall) :
    name.upperCamelCase.toList = (name.parts.map String.toList).flatMap raised := by
  rw [upperCamelCase, Text.upperCamelCase, String.toList_ofList, toList_snakeCase,
    Text.upperCamelChars_eq_flatMap (Text.sevenBit_intercalate h), Text.wordsOf_intercalate h]

/-- A name is spelled like a property by raising its words but for the first one. -/
theorem toList_camelCase (h : name.IsSmall) :
    name.camelCase.toList = camelOf (name.parts.map String.toList) := by
  rw [camelCase, Text.camelCase, String.toList_ofList, toList_snakeCase,
    Text.camelChars_eq_camelOf (Text.sevenBit_intercalate h), Text.wordsOf_intercalate h]

/-- A name of the seven-bit range is spelled like an object as the text is that it comes from. -/
theorem upperCamelCase_ofString (h : IsSevenBit text) :
    (ofString text).upperCamelCase = Text.upperCamelCase text := by
  refine String.toList_inj.mp ?_
  rw [toList_upperCamelCase (isSmall_ofString h), map_toList_parts_ofString, Text.upperCamelCase,
    String.toList_ofList, Text.upperCamelChars_eq_flatMap h]

/-- A name of the seven-bit range is spelled like a property as the text is that it was taken
from. -/
theorem camelCase_ofString (h : IsSevenBit text) :
    (ofString text).camelCase = Text.camelCase text := by
  refine String.toList_inj.mp ?_
  rw [toList_camelCase (isSmall_ofString h), map_toList_parts_ofString, Text.camelCase,
    String.toList_ofList, Text.camelChars_eq_camelOf h]

end DomainTables.Name
