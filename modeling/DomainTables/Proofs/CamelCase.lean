import DomainTables.Proofs.Words

/-!
# Words in camel case

Camel case marks where a word begins by a capital. In a text of the seven-bit range every small
letter has one, so what camel case says of the words can be read back from its capitals
(`readCapitals`). A digit has none: a word that begins with a digit cannot be told from the end of
the word in front of it. Names are spelled alike in camel case exactly if their words are the same
once each such word is glued to the one before (`camelCase_eq_iff`).

How a text ends decides how its last word does. Behind an underscore a new word begins
(`wordsOf_append_underscore`), and the letters of the mark of a uuid stay in one word
(`endsIn_wordsOf_append`).
-/

namespace DomainTables.Text

/-! ## Words of the seven-bit range -/

/-- A text has characters of the seven-bit range only. -/
def IsSevenBit (text : String) : Prop :=
  ∀ c ∈ text.toList, c.toNat < 0x80

instance (text : String) : Decidable (IsSevenBit text) :=
  decidable_of_iff (text.toList.all (fun c => decide (c.toNat < 0x80)) = true)
    (by simp [IsSevenBit])

/-- Small letters and digits of the seven-bit range. -/
def isSmall (c : Char) : Bool :=
  c.isLower || c.isDigit

/-- What holds of all numbers of the seven-bit range holds of its characters. -/
theorem of_sevenBit {p : Char → Prop} (hall : ∀ n < 0x80, p (Char.ofNat n)) {c : Char}
    (hc : c.toNat < 0x80) : p c :=
  Char.ofNat_toNat c ▸ hall c.toNat hc

/-- A letter or digit of the seven-bit range becomes a small one. -/
theorem isSmall_toLower {c : Char} (hc : c.toNat < 0x80) (h : isAlphanumeric c = true) :
    isSmall c.toLower = true := by
  rw [isAlphanumeric, if_pos hc] at h
  exact of_sevenBit (p := fun c => c.isAlphanum = true → isSmall c.toLower = true) (by decide) hc h

/-- The letters and digits of the seven-bit range are letters and digits. -/
theorem isAlphanumeric_of_isAlphanum {c : Char} (h : c.isAlphanum = true) :
    c.toNat < 0x80 ∧ isAlphanumeric c = true := by
  have hc : c.toNat < 0x80 := by
    -- Each of the three ranges has its own last character, and all of them are below the limit.
    rcases Bool.or_eq_true_iff.mp h with halpha | hdigit
    · rcases Bool.or_eq_true_iff.mp halpha with hupper | hlower
      · have hlast : c.val ≤ 'Z'.val := (of_decide_eq_true hupper).2
        exact Nat.lt_of_le_of_lt hlast (by decide)
      · have hlast : c.val ≤ 'z'.val := of_decide_eq_true (Bool.and_eq_true_iff.mp hlower).2
        exact Nat.lt_of_le_of_lt hlast (by decide)
    · have hlast : c.val ≤ '9'.val := of_decide_eq_true (Bool.and_eq_true_iff.mp hdigit).2
      exact Nat.lt_of_le_of_lt hlast (by decide)
  exact ⟨hc, by rw [isAlphanumeric, if_pos hc, h]⟩

/-- Small letters and digits are of the seven-bit range. -/
theorem toNat_lt_of_isSmall {c : Char} (h : isSmall c = true) : c.toNat < 0x80 := by
  have hletters : c.isAlphanum = true := by
    rcases Bool.or_eq_true_iff.mp h with hlower | hdigit
    · exact Bool.or_eq_true_iff.mpr (Or.inl (Bool.or_eq_true_iff.mpr (Or.inr hlower)))
    · exact Bool.or_eq_true_iff.mpr (Or.inr hdigit)
  exact (isAlphanumeric_of_isAlphanum hletters).1

/-- A small letter or digit is no capital, and of these only a small letter is changed by making it
one. -/
theorem facts_of_isSmall {c : Char} (h : isSmall c = true) :
    c.isUpper = false ∧ (c.isDigit = true → c.toUpper = c) ∧
      (c.isDigit = false → c.toUpper.isUpper = true ∧ c.toUpper.toLower = c) :=
  of_sevenBit (p := fun c => isSmall c = true → c.isUpper = false ∧
    (c.isDigit = true → c.toUpper = c) ∧
    (c.isDigit = false → c.toUpper.isUpper = true ∧ c.toUpper.toLower = c)) (by decide)
    (toNat_lt_of_isSmall h) h

/-- A word of the seven-bit range in small letters is made character by character. -/
theorem lowerWord_of_sevenBit {word : List Char} (h : ∀ c ∈ word, c.toNat < 0x80) :
    lowerWord word = word.map Char.toLower := by
  induction word with
  | nil => rfl
  | cons c rest ih =>
    obtain ⟨hc, hrest⟩ := List.forall_mem_cons.mp h
    -- The one letter whose small form depends on its place is not of the seven-bit range.
    have hsigma : ¬ (c = 'Σ' ∧ rest = []) := fun hs => absurd (hs.1 ▸ hc) (by decide)
    rw [lowerWord, if_neg hsigma, lowerChar, if_pos hc, ih hrest, List.map_cons,
      List.singleton_append]

/-- A word with a capital for its first character. -/
def raised : List Char → List Char
  | [] => []
  | c :: rest => c.toUpper :: rest

/-- A word of the seven-bit range is capitalized by raising it in small letters. -/
theorem capitalized_of_sevenBit {word : List Char} (h : ∀ c ∈ word, c.toNat < 0x80) :
    capitalized word = raised (lowerWord word) := by
  cases word with
  | nil => rfl
  | cons c rest =>
    obtain ⟨hc, hrest⟩ := List.forall_mem_cons.mp h
    have hupper := of_sevenBit (p := fun c => c.toLower.toUpper = c.toUpper) (by decide) hc
    rw [capitalized, upperChar, if_pos hc, lowerWord_of_sevenBit h, lowerWord_of_sevenBit hrest,
      List.map_cons, raised, hupper, List.singleton_append]

/-- A word of small letters and digits. -/
def IsSmallWord (word : List Char) : Prop :=
  word ≠ [] ∧ ∀ c ∈ word, isSmall c = true

/-- The words of a text of the seven-bit range have small letters and digits. -/
theorem isSmallWord_of_mem_wordsOf {text : List Char} (htext : ∀ c ∈ text, c.toNat < 0x80)
    {word : List Char} (h : word ∈ wordsOf text) : IsSmallWord word := by
  obtain ⟨spelled, hspelled, rfl⟩ := List.mem_map.mp h
  obtain ⟨hne, hall⟩ := word_of_mem_spelledWords hspelled
  refine ⟨lowerWord_ne_nil hne, ?_⟩
  rw [lowerWord_of_sevenBit fun c hc => htext c (hall c hc).1, List.forall_mem_map]
  exact fun c hc => isSmall_toLower (htext c (hall c hc).1) (hall c hc).2

/-! ## Camel case of words -/

/-- The first word as it is, the others raised, without a separator. -/
def camelOf : List (List Char) → List Char
  | [] => []
  | first :: others => first ++ others.flatMap raised

/-- Words of the seven-bit range are capitalized by raising them in small letters. -/
theorem flatMap_capitalized {words : List (List Char)}
    (h : ∀ word ∈ words, ∀ c ∈ word, c.toNat < 0x80) :
    words.flatMap capitalized = (words.map lowerWord).flatMap raised := by
  rw [List.flatMap_map, List.flatMap_def, List.flatMap_def]
  congr 1
  exact List.map_congr_left fun word hword => capitalized_of_sevenBit (h word hword)

/-- Spelled words of a text of the seven-bit range are of that range. -/
theorem sevenBit_of_mem_spelledWords {text : List Char} (htext : ∀ c ∈ text, c.toNat < 0x80) :
    ∀ word ∈ spelledWords text, ∀ c ∈ word, c.toNat < 0x80 :=
  fun _ hword c hc => htext c ((word_of_mem_spelledWords hword).2 c hc).1

/-- Camel case depends on the words alone in the seven-bit range. -/
theorem camelChars_eq_camelOf {text : List Char} (htext : ∀ c ∈ text, c.toNat < 0x80) :
    camelChars text = camelOf (wordsOf text) := by
  have hseven := sevenBit_of_mem_spelledWords htext
  rw [camelChars, wordsOf]
  cases hwords : spelledWords text with
  | nil => rfl
  | cons first others =>
    rw [hwords, List.forall_mem_cons] at hseven
    dsimp only
    rw [List.map_cons, camelOf, flatMap_capitalized hseven.2]

/-- Tells whether a word begins with a digit. -/
def beginsWithDigit (word : List Char) : Bool :=
  word.head?.any Char.isDigit

/-- Joins every word that begins with a digit to the word in front of it. -/
def glued : List (List Char) → List (List Char)
  | [] => []
  | word :: rest =>
    match glued rest with
    | [] => [word]
    | next :: others =>
      if beginsWithDigit next then (word ++ next) :: others else word :: next :: others

/-- Joined words have small letters and digits like the words that they are joined of, and behind
the first of them none begins with a digit. -/
theorem glued_words {words : List (List Char)} (h : ∀ word ∈ words, IsSmallWord word) :
    (∀ word ∈ glued words, IsSmallWord word) ∧
      ∀ word ∈ (glued words).tail, beginsWithDigit word = false := by
  induction words with
  | nil => exact ⟨List.forall_mem_nil _, List.forall_mem_nil _⟩
  | cons word rest ih =>
    obtain ⟨hword, hrest⟩ := List.forall_mem_cons.mp h
    obtain ⟨hsmall, hletters⟩ := ih hrest
    rw [glued]
    cases hglued : glued rest with
    | nil => exact ⟨List.forall_mem_singleton.mpr hword, List.forall_mem_nil _⟩
    | cons next others =>
      rw [hglued] at hsmall hletters
      obtain ⟨hnext, hothers⟩ := List.forall_mem_cons.mp hsmall
      -- The rest is joined first, so a digit can only begin the word that now comes next.
      dsimp only
      split
      · have hjoined : IsSmallWord (word ++ next) :=
          ⟨List.append_ne_nil_of_left_ne_nil hword.1 _,
            List.forall_mem_append.mpr ⟨hword.2, hnext.2⟩⟩
        exact ⟨List.forall_mem_cons.mpr ⟨hjoined, hothers⟩, hletters⟩
      · next hdigit =>
        exact ⟨List.forall_mem_cons.mpr ⟨hword, hsmall⟩,
          List.forall_mem_cons.mpr ⟨Bool.eq_false_iff.mpr hdigit, hletters⟩⟩

/-- A word that begins with a digit has no other form. -/
theorem raised_of_beginsWithDigit {word : List Char} (hword : IsSmallWord word)
    (h : beginsWithDigit word = true) : raised word = word := by
  cases word with
  | nil => rfl
  | cons c rest =>
    rw [raised, (facts_of_isSmall (hword.2 c List.mem_cons_self)).2.1 h]

/-- Raising does not see which words are joined. -/
theorem flatMap_raised_glued {words : List (List Char)} (h : ∀ word ∈ words, IsSmallWord word) :
    (glued words).flatMap raised = words.flatMap raised := by
  induction words with
  | nil => rfl
  | cons word rest ih =>
    obtain ⟨hword, hrest⟩ := List.forall_mem_cons.mp h
    rw [List.flatMap_cons, ← ih hrest, glued]
    cases hglued : glued rest with
    | nil => rfl
    | cons next others =>
      dsimp only
      split
      · next hdigit =>
        have hnext : IsSmallWord next :=
          (glued_words hrest).1 next (hglued ▸ List.mem_cons_self)
        -- Raising changes the first letter only, and that is the first one of `word`.
        have happend : raised (word ++ next) = raised word ++ next := by
          obtain ⟨c, more, rfl⟩ := List.exists_cons_of_ne_nil hword.1
          rfl
        rw [List.flatMap_cons, List.flatMap_cons, happend,
          raised_of_beginsWithDigit hnext hdigit, List.append_assoc]
      · rfl

/-- Camel case does not see which words are joined. -/
theorem camelOf_glued {words : List (List Char)} (h : ∀ word ∈ words, IsSmallWord word) :
    camelOf (glued words) = camelOf words := by
  cases words with
  | nil => rfl
  | cons word rest =>
    obtain ⟨hword, hrest⟩ := List.forall_mem_cons.mp h
    rw [camelOf, ← flatMap_raised_glued hrest, glued]
    -- The first word is not raised, so it is kept apart from the induction over the others.
    cases hglued : glued rest with
    | nil => rfl
    | cons next others =>
      dsimp only
      split
      · next hdigit =>
        have hnext : IsSmallWord next :=
          (glued_words hrest).1 next (hglued ▸ List.mem_cons_self)
        rw [camelOf, List.flatMap_cons, raised_of_beginsWithDigit hnext hdigit, List.append_assoc]
      · rfl

/-! ## Reading camel case -/

/-- The words that the capitals of a text separate, in small letters. The first one may be empty. -/
def readCapitals : List Char → List (List Char)
  | [] => [[]]
  | c :: rest =>
    if c.isUpper then [] :: pushLetter c.toLower (readCapitals rest)
    else pushLetter c (readCapitals rest)

/-- A word in small letters belongs to the first word that is read. -/
theorem readCapitals_append {word : List Char} (hword : ∀ c ∈ word, isSmall c = true)
    {text first : List Char} {others : List (List Char)}
    (h : readCapitals text = first :: others) :
    readCapitals (word ++ text) = (word ++ first) :: others := by
  induction word with
  | nil => exact h
  | cons c rest ih =>
    obtain ⟨hc, hrest⟩ := List.forall_mem_cons.mp hword
    rw [List.cons_append, readCapitals, if_neg (by rw [(facts_of_isSmall hc).1]; decide), ih hrest]
    rfl

/-- Words that begin with letters are read back once they are raised. -/
theorem readCapitals_flatMap_raised {words : List (List Char)}
    (hsmall : ∀ word ∈ words, IsSmallWord word)
    (hletters : ∀ word ∈ words, beginsWithDigit word = false) :
    readCapitals (words.flatMap raised) = [] :: words := by
  induction words with
  | nil => rfl
  | cons word rest ih =>
    obtain ⟨hword, hrest⟩ := List.forall_mem_cons.mp hsmall
    obtain ⟨hletter, hothers⟩ := List.forall_mem_cons.mp hletters
    cases word with
    | nil => exact absurd rfl hword.1
    | cons c more =>
      obtain ⟨hc, hmore⟩ := List.forall_mem_cons.mp hword.2
      -- Made a capital, the first letter begins a word again, and made small it is what it was.
      obtain ⟨hupper, hlower⟩ := (facts_of_isSmall hc).2.2 hletter
      rw [List.flatMap_cons, raised, List.cons_append, readCapitals, if_pos hupper, hlower,
        readCapitals_append hmore (ih hrest hothers), List.append_nil]
      rfl

/-- Words are read back from their camel case if none but the first begins with a digit. -/
theorem readCapitals_camelOf {words : List (List Char)} (hne : words ≠ [])
    (hsmall : ∀ word ∈ words, IsSmallWord word)
    (hletters : ∀ word ∈ words.tail, beginsWithDigit word = false) :
    readCapitals (camelOf words) = words := by
  cases words with
  | nil => exact absurd rfl hne
  | cons first others =>
    obtain ⟨hfirst, hothers⟩ := List.forall_mem_cons.mp hsmall
    rw [camelOf, readCapitals_append hfirst.2 (readCapitals_flatMap_raised hothers hletters),
      List.append_nil]

/-- Only no words at all are nothing in camel case. -/
theorem camelOf_eq_nil_iff {words : List (List Char)} (hsmall : ∀ word ∈ words, IsSmallWord word) :
    camelOf words = [] ↔ words = [] := by
  cases words with
  | nil => exact iff_of_true rfl rfl
  | cons first others =>
    refine iff_of_false (fun h => ?_) (List.cons_ne_nil _ _)
    exact (hsmall first List.mem_cons_self).1 (List.append_eq_nil_iff.mp h).1

/-- Words of which none but the first begins with a digit are told apart by camel case. -/
theorem camelOf_inj {words others : List (List Char)}
    (hsmall : ∀ word ∈ words, IsSmallWord word)
    (hletters : ∀ word ∈ words.tail, beginsWithDigit word = false)
    (hsmall' : ∀ word ∈ others, IsSmallWord word)
    (hletters' : ∀ word ∈ others.tail, beginsWithDigit word = false)
    (h : camelOf words = camelOf others) : words = others := by
  by_cases hnil : words = []
  · have hcamel : camelOf others = [] := h.symm.trans ((camelOf_eq_nil_iff hsmall).mpr hnil)
    rw [hnil, (camelOf_eq_nil_iff hsmall').mp hcamel]
  · have hnil' : others ≠ [] := fun hempty => hnil
      ((camelOf_eq_nil_iff hsmall).mp (h.trans ((camelOf_eq_nil_iff hsmall').mpr hempty)))
    rw [← readCapitals_camelOf hnil hsmall hletters, h,
      readCapitals_camelOf hnil' hsmall' hletters']

/-- Texts of the seven-bit range are spelled alike in camel case exactly if their joined words are
the same. -/
theorem camelChars_eq_iff {text other : List Char} (htext : ∀ c ∈ text, c.toNat < 0x80)
    (hother : ∀ c ∈ other, c.toNat < 0x80) :
    camelChars text = camelChars other ↔ glued (wordsOf text) = glued (wordsOf other) := by
  have hsmall := fun word (hword : word ∈ wordsOf text) => isSmallWord_of_mem_wordsOf htext hword
  have hsmall' := fun word (hword : word ∈ wordsOf other) =>
    isSmallWord_of_mem_wordsOf hother hword
  rw [camelChars_eq_camelOf htext, camelChars_eq_camelOf hother, ← camelOf_glued hsmall,
    ← camelOf_glued hsmall']
  constructor
  · exact camelOf_inj (glued_words hsmall).1 (glued_words hsmall).2
      (glued_words hsmall').1 (glued_words hsmall').2
  · exact congrArg camelOf

/-- The words of an identifier, with each word that begins with a digit joined to the one in front
of it: `seat2Number` and `seat_2_number` both have `seat2` and `number`. -/
def gluedWords (text : String) : List String :=
  (glued (wordsOf text.toList)).map String.ofList

/-- Names of the seven-bit range are spelled alike in camel case exactly if their joined words are
the same. -/
theorem camelCase_eq_iff {name other : String} (hname : IsSevenBit name)
    (hother : IsSevenBit other) :
    camelCase name = camelCase other ↔ gluedWords name = gluedWords other := by
  rw [camelCase, camelCase, gluedWords, gluedWords, String.ofList_inj,
    camelChars_eq_iff hname hother, List.map_inj_right fun _ _ => String.ofList_inj.mp]

/-- Names with the same words have the same joined words. -/
theorem gluedWords_congr {name other : String} (h : words name = words other) :
    gluedWords name = gluedWords other := by
  rw [gluedWords, gluedWords, words_eq_iff.mp h]

/-! ## Last words -/

/-- The last word of a list ends in the given letters. -/
def EndsIn (ending : List Char) (words : List (List Char)) : Prop :=
  ∃ last ∈ words.getLast?, ending <:+ last

instance (ending : List Char) (words : List (List Char)) : Decidable (EndsIn ending words) :=
  inferInstanceAs (Decidable (∃ last ∈ words.getLast?, ending <:+ last))

/-- The last word is the one behind all others. -/
theorem endsIn_iff {ending : List Char} {words : List (List Char)} :
    EndsIn ending words ↔ ∃ front last, words = front ++ [last] ∧ ending <:+ last := by
  simp only [EndsIn, Option.mem_def, List.getLast?_eq_some_iff]
  constructor
  · rintro ⟨last, ⟨front, hwords⟩, hends⟩
    exact ⟨front, last, hwords, hends⟩
  · rintro ⟨front, last, hwords, hends⟩
    exact ⟨last, ⟨front, hwords⟩, hends⟩

/-- Words in front change nothing about the last one. -/
theorem EndsIn.append_left {ending : List Char} {words : List (List Char)} (h : EndsIn ending words)
    (front : List (List Char)) : EndsIn ending (front ++ words) := by
  obtain ⟨before, last, rfl, hends⟩ := endsIn_iff.mp h
  exact endsIn_iff.mpr ⟨front ++ before, last, (List.append_assoc ..).symm, hends⟩

/-- A further character in front changes nothing about the end of the last word. -/
theorem EndsIn.pushLetter {ending : List Char} {words : List (List Char)} (h : EndsIn ending words)
    (c : Char) : EndsIn ending (pushLetter c words) := by
  obtain ⟨front, last, rfl, hends⟩ := endsIn_iff.mp h
  cases front with
  | nil => exact endsIn_iff.mpr ⟨[], c :: last, rfl, hends.trans (List.suffix_cons c last)⟩
  | cons first others => exact endsIn_iff.mpr ⟨(c :: first) :: others, last, rfl, hends⟩

/-- A run ends as its last letters do, whatever casing they follow. -/
theorem EndsIn.splitRun {ending letters : List Char}
    (h : ∀ casing, EndsIn ending (splitRun casing letters)) (casing : Casing) (run : List Char) :
    EndsIn ending (splitRun casing (run ++ letters)) := by
  induction run generalizing casing with
  | nil => exact h casing
  | cons c rest ih =>
    rw [List.cons_append]
    cases hmore : rest ++ letters with
    | nil =>
      -- The letters are not empty, since their run has a last word.
      obtain ⟨last, hlast, -⟩ := h .undecided
      rw [(List.append_eq_nil_iff.mp hmore).2] at hlast
      cases hlast
    | cons next more =>
      rw [Text.splitRun, ← hmore]
      split
      · exact (ih .undecided).append_left [_]
      · split
        · exact ((ih .undecided).pushLetter c).append_left [_]
        · exact (ih _).pushLetter c

/-- A text ends in the run in which its last letters do. -/
theorem EndsIn.runsOf {ending letters : List Char} (h : EndsIn ending (runsOf letters))
    (text : List Char) : EndsIn ending (runsOf (text ++ letters)) := by
  induction text with
  | nil => exact h
  | cons c rest ih =>
    rw [List.cons_append, Text.runsOf]
    split
    · exact ih.pushLetter c
    · exact ih.append_left [[]]

/-- The small form of a word ends in the small form of its ending. -/
theorem lowerWord_suffix {ending word : List Char} (h : ending <:+ word) :
    lowerWord ending <:+ lowerWord word := by
  obtain ⟨front, rfl⟩ := h
  induction front with
  | nil => exact List.suffix_refl _
  | cons c rest ih => exact List.suffix_append_of_suffix ih

/-- The last word of a text ends as its last letters do, if they are one run that ends so. -/
theorem endsIn_wordsOf_append {ending letters : List Char}
    (hrun : EndsIn letters (runsOf letters))
    (hsplit : ∀ casing, EndsIn ending (splitRun casing letters)) (text : List Char) :
    EndsIn (lowerWord ending) (wordsOf (text ++ letters)) := by
  -- The letters end the last run, and the ending ends the last word of that run.
  obtain ⟨runs, last, hruns, start, hlast⟩ := endsIn_iff.mp (EndsIn.runsOf hrun text)
  obtain ⟨front, word, hwords, hends⟩ := endsIn_iff.mp (EndsIn.splitRun hsplit .undecided start)
  rw [hlast] at hwords
  have hspelled : spelledWords (text ++ letters) =
      (runs.flatMap (splitRun .undecided) ++ front) ++ [word] := by
    rw [spelledWords, hruns, List.flatMap_append, List.flatMap_singleton, hwords,
      List.append_assoc]
  rw [wordsOf, hspelled, List.map_append]
  exact EndsIn.append_left (endsIn_iff.mpr ⟨[], _, rfl, lowerWord_suffix hends⟩) _

/-- Behind an underscore begins a run of its own. -/
theorem runsOf_append_underscore (text rest : List Char) :
    ∃ front, front ≠ [] ∧ runsOf (text ++ '_' :: rest) = front ++ runsOf rest := by
  induction text with
  | nil => exact ⟨[[]], List.cons_ne_nil _ _, rfl⟩
  | cons c more ih =>
    obtain ⟨front, hne, hruns⟩ := ih
    rw [List.cons_append, runsOf, hruns]
    split
    · obtain ⟨first, others, rfl⟩ := List.exists_cons_of_ne_nil hne
      exact ⟨(c :: first) :: others, List.cons_ne_nil _ _, rfl⟩
    · exact ⟨[] :: front, List.cons_ne_nil _ _, rfl⟩

/-- The words behind an underscore are the last ones of a text. -/
theorem wordsOf_append_underscore (text rest : List Char) :
    ∃ front, wordsOf (text ++ '_' :: rest) = front ++ wordsOf rest := by
  obtain ⟨runs, -, hruns⟩ := runsOf_append_underscore text rest
  refine ⟨(runs.flatMap (splitRun .undecided)).map lowerWord, ?_⟩
  rw [wordsOf, spelledWords, hruns, List.flatMap_append, List.map_append]
  rfl

end DomainTables.Text
