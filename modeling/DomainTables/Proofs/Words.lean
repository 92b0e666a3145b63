import Mathlib.Tactic.ByContra
import DomainTables.Text.Case

/-!
# Words and snake case

A name in snake case says which words it has. Its words are runs of letters and digits, cut at
changes of case (`flatten_splitRun`), so none of them is empty, and other forms of letters bring in
no marks (`mark_notMem_lowerChar`, `mark_notMem_upperChar`). So the words can be told apart again
where underscores join them, and names are spelled alike in snake case exactly if they have the same
words (`snakeCase_eq_iff`).
-/

namespace DomainTables.Text

/-! ## Cutting runs into words -/

/-- A character put in front of the first word comes first in the text. -/
theorem flatten_pushLetter (c : Char) (words : List (List Char)) :
    (pushLetter c words).flatten = c :: words.flatten := by
  cases words <;> rfl

/-- Only the words after the first one matter for whether a word is empty once the first one gets a
further character. -/
theorem nil_mem_pushLetter_iff {c : Char} {words : List (List Char)} :
    [] ∈ pushLetter c words ↔ [] ∈ words.tail := by
  cases words <;> simp [pushLetter]

/-- The words of a run are the run, cut into pieces. -/
theorem flatten_splitRun (casing : Casing) (run : List Char) :
    (splitRun casing run).flatten = run := by
  fun_induction splitRun casing run with
  | case1 => rfl
  | case2 => rfl
  | case3 casing c next rest _ ih => rw [List.flatten_cons, ih, List.singleton_append]
  | case4 casing c next rest _ _ ih =>
    rw [List.flatten_cons, List.nil_append, flatten_pushLetter, ih]
  | case5 casing c next rest _ _ ih => rw [flatten_pushLetter, ih]

/-- No word of a run is empty, except that a word of capitals which the run continues may get
nothing more of it. -/
theorem nil_notMem_splitRun (casing : Casing) (run : List Char) :
    [] ∉ (splitRun casing run).tail ∧ (casing ≠ .upper → [] ∉ splitRun casing run) := by
  fun_induction splitRun casing run with
  | case1 => simp
  | case2 => simp
  | case3 casing c next rest _ ih =>
    have hrest := ih.2 (by decide)
    exact ⟨hrest, fun _ => by simpa using hrest⟩
  | case4 casing c next rest _ hupper ih =>
    -- Here a capital begins the next word, so the word of capitals in front of it ends.
    refine ⟨?_, fun hne => absurd hupper.1 hne⟩
    rw [List.tail_cons, nil_mem_pushLetter_iff]
    exact ih.1
  | case5 casing c next rest _ _ ih =>
    have hall : [] ∉ pushLetter c (splitRun (casing.after c) (next :: rest)) := by
      rw [nil_mem_pushLetter_iff]
      exact ih.1
    exact ⟨fun h => hall (List.mem_of_mem_tail h), fun _ => hall⟩

/-- Runs hold letters and digits of the text only. -/
theorem mem_of_mem_runsOf {text run : List Char} (hrun : run ∈ runsOf text) {c : Char}
    (hc : c ∈ run) : c ∈ text ∧ isAlphanumeric c = true := by
  induction text generalizing run with
  | nil => cases hrun
  | cons first rest ih =>
    have later : ∀ {run}, run ∈ runsOf rest → c ∈ run →
        c ∈ first :: rest ∧ isAlphanumeric c = true :=
      fun hrun hc => (ih hrun hc).imp_left (List.mem_cons_of_mem _)
    rw [runsOf] at hrun
    split at hrun
    · next hfirst =>
      -- The first character joins the first run of the rest, or is a run of its own.
      cases hruns : runsOf rest with
      | nil =>
        rw [hruns, pushLetter, List.mem_singleton] at hrun
        rw [hrun, List.mem_singleton] at hc
        exact ⟨hc ▸ List.mem_cons_self, hc ▸ hfirst⟩
      | cons head tail =>
        rw [hruns, pushLetter, List.mem_cons] at hrun
        rcases hrun with rfl | htail
        · rcases List.mem_cons.mp hc with rfl | hc
          · exact ⟨List.mem_cons_self, hfirst⟩
          · exact later (hruns ▸ List.mem_cons_self) hc
        · exact later (hruns ▸ List.mem_cons_of_mem _ htail) hc
    · rcases List.mem_cons.mp hrun with rfl | hrun
      · cases hc
      · exact later hrun hc

/-- A spelled word is not empty, and it holds letters and digits of the text only. -/
theorem word_of_mem_spelledWords {text word : List Char} (h : word ∈ spelledWords text) :
    word ≠ [] ∧ ∀ c ∈ word, c ∈ text ∧ isAlphanumeric c = true := by
  obtain ⟨run, hrun, hword⟩ := List.mem_flatMap.mp h
  constructor
  · rintro rfl
    exact (nil_notMem_splitRun .undecided run).2 (by decide) hword
  · intro c hc
    have hmem : c ∈ (splitRun .undecided run).flatten := List.mem_flatten.mpr ⟨word, hword, hc⟩
    rw [flatten_splitRun] at hmem
    exact mem_of_mem_runsOf hrun hmem

/-! ## Other forms of letters -/

/-- The characters that stand around words, in names and in expressions. -/
def marks : List Char :=
  ['_', ' ', '\n', ',', '(', ')', '[', ']', '\x7b', '\x7d', '\'']

/-- What is tested of each of the marks holds of a mark. -/
theorem of_mem_marks {p : Char → Prop} [DecidablePred p]
    (hall : (marks.all fun mark => decide (p mark)) = true) {mark : Char} (hmark : mark ∈ marks) :
    p mark :=
  of_decide_eq_true (List.all_eq_true.mp hall mark hmark)

/-- No mark is a letter or a digit. -/
theorem isAlphanumeric_of_mem_marks {mark : Char} (hmark : mark ∈ marks) :
    isAlphanumeric mark = false :=
  of_mem_marks (p := fun mark => isAlphanumeric mark = false) (by decide) hmark

/-- Only the number of a character makes it a mark. -/
theorem eq_of_ofNat_eq_mark {mark : Char} (hmark : mark ∈ marks) {n : Nat}
    (h : Char.ofNat n = mark) : n = mark.toNat := by
  by_cases hvalid : n.isValidChar
  · rw [Char.ofNat, dif_pos hvalid] at h
    exact congrArg Char.toNat h
  · -- An invalid number stands for the character zero.
    rw [Char.ofNat, dif_neg hvalid] at h
    subst h
    exact absurd hmark (by decide)

/-- No letter beyond the seven-bit range has a mark as its counterpart. -/
theorem shifted_ne_mark {shifts : List Shift}
    (hshifts : shifts = lowerShifts ∨ shifts = upperShifts)
    {mark : Char} (hmark : mark ∈ marks) {c : Char} (hc : c ≠ mark) : shifted shifts c ≠ mark := by
  -- A letter shifted onto a mark would lie in one of the ranges, all of which are tried.
  have hnone : ∀ shifts ∈ [lowerShifts, upperShifts], ∀ shift ∈ shifts,
      onStride shift.1 shift.2.1 shift.2.2.1 (mark.toNat - shift.2.2.2).toNat = false :=
    of_mem_marks (p := fun mark => ∀ shifts ∈ [lowerShifts, upperShifts], ∀ shift ∈ shifts,
      onStride shift.1 shift.2.1 shift.2.2.1 (mark.toNat - shift.2.2.2).toNat = false)
      (by decide +kernel) hmark
  intro h
  unfold shifted at h
  split at h
  · next first last stride distance hfind =>
    -- Shifting adds the distance, so taking it off the mark leads back to the letter.
    have hpoint := eq_of_ofNat_eq_mark hmark h
    have hstride := List.find?_some hfind
    dsimp only at hstride
    have hpositive := of_mem_marks (p := fun mark => 0 < mark.toNat) (by decide) hmark
    have hnum : c.toNat = (mark.toNat - distance).toNat := by
      omega
    have hmem : shifts ∈ [lowerShifts, upperShifts] := by
      rcases hshifts with rfl | rfl <;> simp
    rw [hnum, hnone shifts hmem _ (List.mem_of_find?_eq_some hfind)] at hstride
    cases hstride
  · exact hc h

/-- Making a character small brings in no mark. -/
theorem mark_notMem_lowerChar {mark : Char} (hmark : mark ∈ marks) {c : Char} (hc : c ≠ mark) :
    mark ∉ lowerChar c := by
  unfold lowerChar
  split
  · next hseven =>
    -- Below the seven-bit limit the case is tried for all characters at once.
    have hall := of_mem_marks (p := fun mark => ∀ n : Fin 0x80,
      (Char.ofNat n).toLower = mark → Char.ofNat n = mark) (by decide) hmark
    have hlower := hall ⟨c.toNat, hseven⟩
    rw [Char.ofNat_toNat] at hlower
    simp only [List.mem_singleton]
    exact fun h => hc (hlower h.symm)
  · split
    · exact of_mem_marks (p := fun mark => mark ∉ ['i', '\u0307']) (by decide) hmark
    · simp only [List.mem_singleton]
      exact fun h => shifted_ne_mark (Or.inl rfl) hmark hc h.symm

/-- Making a character a capital brings in no mark. -/
theorem mark_notMem_upperChar {mark : Char} (hmark : mark ∈ marks) {c : Char} (hc : c ≠ mark) :
    mark ∉ upperChar c := by
  unfold upperChar
  split
  · next hseven =>
    have hall := of_mem_marks (p := fun mark => ∀ n : Fin 0x80,
      (Char.ofNat n).toUpper = mark → Char.ofNat n = mark) (by decide) hmark
    have hupper := hall ⟨c.toNat, hseven⟩
    rw [Char.ofNat_toNat] at hupper
    simp only [List.mem_singleton]
    exact fun h => hc (hupper h.symm)
  · split
    · next found points hfind =>
      -- Some letters have several as their capital, and none of these expansions has a mark.
      exact of_mem_marks (p := fun mark => ∀ expansion ∈ upperExpansions,
        mark ∉ expansion.2.map Char.ofNat) (by decide +kernel) hmark _
        (List.mem_of_find?_eq_some hfind)
    · simp only [List.mem_singleton]
      exact fun h => shifted_ne_mark (Or.inr rfl) hmark hc h.symm

/-- A character has a small form. -/
theorem lowerChar_ne_nil (c : Char) : lowerChar c ≠ [] := by
  unfold lowerChar
  split
  · simp
  · split <;> simp

/-- A word in small letters is not empty if the word is not. -/
theorem lowerWord_ne_nil {word : List Char} (h : word ≠ []) : lowerWord word ≠ [] := by
  cases word with
  | nil => exact absurd rfl h
  | cons c rest =>
    rw [lowerWord]
    split
    · simp
    · simp [lowerChar_ne_nil]

/-- A word in small letters has no mark that the word has not. -/
theorem mark_notMem_lowerWord {mark : Char} (hmark : mark ∈ marks) {word : List Char}
    (h : mark ∉ word) : mark ∉ lowerWord word := by
  induction word with
  | nil => exact h
  | cons c rest ih =>
    obtain ⟨hc, hrest⟩ := not_or.mp (List.mem_cons.not.mp h)
    rw [lowerWord, List.mem_append, not_or]
    refine ⟨?_, ih hrest⟩
    split
    · exact of_mem_marks (p := fun mark => mark ∉ ['ς']) (by decide) hmark
    · exact mark_notMem_lowerChar hmark (Ne.symm hc)

/-- A capitalized word has no mark that the word has not. -/
theorem mark_notMem_capitalized {mark : Char} (hmark : mark ∈ marks) {word : List Char}
    (h : mark ∉ word) : mark ∉ capitalized word := by
  cases word with
  | nil => exact h
  | cons c rest =>
    obtain ⟨hc, hrest⟩ := not_or.mp (List.mem_cons.not.mp h)
    rw [capitalized, List.mem_append, not_or]
    exact ⟨mark_notMem_upperChar hmark (Ne.symm hc), mark_notMem_lowerWord hmark hrest⟩

/-! ## Joining words -/

/-- A spelled word has no mark. -/
theorem mark_notMem_of_mem_spelledWords {mark : Char} (hmark : mark ∈ marks)
    {text word : List Char} (h : word ∈ spelledWords text) : mark ∉ word := by
  intro hmem
  have halphanumeric := ((word_of_mem_spelledWords h).2 mark hmem).2
  rw [isAlphanumeric_of_mem_marks hmark] at halphanumeric
  cases halphanumeric

/-- A word is not empty, and it has no mark. -/
theorem word_of_mem_wordsOf {text word : List Char} (h : word ∈ wordsOf text) :
    word ≠ [] ∧ ∀ mark ∈ marks, mark ∉ word := by
  obtain ⟨spelled, hspelled, rfl⟩ := List.mem_map.mp h
  refine ⟨lowerWord_ne_nil (word_of_mem_spelledWords hspelled).1, fun mark hmark => ?_⟩
  exact mark_notMem_lowerWord hmark (mark_notMem_of_mem_spelledWords hmark hspelled)

/-- A character of joined words is one of the separator or of a word. -/
theorem notMem_intercalate {c : Char} {separator : List Char} (hseparator : c ∉ separator)
    {words : List (List Char)} (h : ∀ word ∈ words, c ∉ word) :
    c ∉ separator.intercalate words := by
  induction words with
  | nil => exact List.not_mem_nil
  | cons word rest ih =>
    obtain ⟨hword, hrest⟩ := List.forall_mem_cons.mp h
    cases rest with
    | nil => rwa [List.intercalate_singleton]
    | cons next more =>
      rw [List.intercalate_cons_cons, List.mem_append, List.mem_append, not_or, not_or]
      exact ⟨⟨hword, hseparator⟩, ih hrest⟩

/-- The only mark in snake case is the underscore. -/
theorem mark_notMem_snakeCase {mark : Char} (hmark : mark ∈ marks) (hne : mark ≠ '_')
    (name : String) : mark ∉ (snakeCase name).toList := by
  rw [snakeCase, String.toList_ofList, snakeChars]
  exact notMem_intercalate (List.mem_singleton.not.mpr hne)
    fun word hword => (word_of_mem_wordsOf hword).2 mark hmark

/-- There are no marks in camel case. -/
theorem mark_notMem_camelCase {mark : Char} (hmark : mark ∈ marks) (name : String) :
    mark ∉ (camelCase name).toList := by
  rw [camelCase, String.toList_ofList, camelChars]
  -- The first word is made small and the others are capitalized, and neither brings in a mark.
  have hspelled := fun word (hword : word ∈ spelledWords name.toList) =>
    mark_notMem_of_mem_spelledWords hmark hword
  split
  · exact List.not_mem_nil
  · next first others hwords =>
    rw [hwords] at hspelled
    obtain ⟨hfirst, hothers⟩ := List.forall_mem_cons.mp hspelled
    rw [List.mem_append, not_or, List.mem_flatMap, not_exists]
    exact ⟨mark_notMem_lowerWord hmark hfirst, fun word ⟨hword, hmem⟩ =>
      mark_notMem_capitalized hmark (hothers word hword) hmem⟩

/-- Between the underscores of a text in snake case stand its words, if there are any. -/
theorem splitOn_snakeChars {text : List Char} (h : wordsOf text ≠ []) :
    (snakeChars text).splitOn '_' = wordsOf text :=
  List.splitOn_intercalate '_' (fun _ hword => (word_of_mem_wordsOf hword).2 '_' (by decide)) h

/-- A text without words is empty in snake case, and no other is. -/
theorem snakeChars_eq_nil_iff {text : List Char} : snakeChars text = [] ↔ wordsOf text = [] := by
  constructor
  · intro h
    by_contra hne
    -- Split at underscores, an empty text would have an empty word, and words are never empty.
    have hsplit := splitOn_snakeChars hne
    rw [h, List.splitOn_nil] at hsplit
    have hempty : [] ∈ wordsOf text := hsplit ▸ List.mem_singleton.mpr rfl
    exact (word_of_mem_wordsOf hempty).1 rfl
  · intro h
    rw [snakeChars, h]
    rfl

/-- Texts are spelled alike in snake case exactly if they have the same words. -/
theorem snakeChars_eq_iff {text other : List Char} :
    snakeChars text = snakeChars other ↔ wordsOf text = wordsOf other := by
  constructor
  · intro h
    -- Without words there is nothing to split back, since an empty text is split into one part.
    by_cases hnil : wordsOf text = []
    · have hother : wordsOf other = [] :=
        snakeChars_eq_nil_iff.mp (h ▸ snakeChars_eq_nil_iff.mpr hnil)
      rw [hnil, hother]
    · have hother : wordsOf other ≠ [] := fun hempty =>
        hnil (snakeChars_eq_nil_iff.mp (h.trans (snakeChars_eq_nil_iff.mpr hempty)))
      rw [← splitOn_snakeChars hnil, ← splitOn_snakeChars hother, h]
  · intro h
    rw [snakeChars, snakeChars, h]

/-- The words of names are the same exactly if they are as lists of characters. -/
theorem words_eq_iff {name other : String} :
    words name = words other ↔ wordsOf name.toList = wordsOf other.toList :=
  List.map_inj_right fun _ _ => String.ofList_inj.mp

/-- Names are spelled alike in snake case exactly if they have the same words. -/
theorem snakeCase_eq_iff {name other : String} :
    snakeCase name = snakeCase other ↔ words name = words other := by
  rw [snakeCase, snakeCase, String.ofList_inj, snakeChars_eq_iff, words_eq_iff]

end DomainTables.Text
