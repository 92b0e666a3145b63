import Mathlib.Data.List.Induction
import DomainTables.Proofs.Spelling

/-!
# Where words begin

In a run of letters and digits of the seven-bit range, whether a word begins at a place is told by
three characters: the last letter in front of the place, the character at it and the one behind
(`beginsWord`). Where a word begins, the words in front and the words behind can be read apart
(`splitRun_append`), and where the words can be read apart, a word begins
(`beginsWord_of_splitRun`).

So it can be told at which places of a text that ends with some words, each of them small or raised
(`Spells`), these are the last words of the text: a word must begin at the place of each
(`suffix_wordsOf_iff`).
-/

namespace DomainTables.Text

/-! ## Casing -/

/-- The casing of a word after further characters. -/
def Casing.through (casing : Casing) (text : List Char) : Casing :=
  text.foldl Casing.after casing

/-- Tells whether a word begins with a text, where `casing` is that of the last letter in front:
with a capital behind a small letter, or with one that a small letter follows behind a capital. -/
def beginsWord (casing : Casing) : List Char → Bool
  | [] => false
  | c :: rest =>
    isUpper c && (decide (casing = .lower) ||
      decide (casing = .upper) && rest.head?.any isLower)

/-- A word begins with a capital, at which the casing changes. -/
theorem beginsWord_cons_iff {casing : Casing} {c : Char} {rest : List Char} :
    beginsWord casing (c :: rest) = true ↔
      isUpper c = true ∧ (casing = .lower ∨ casing = .upper ∧ rest.head?.any isLower = true) := by
  simp [beginsWord]

/-- No capital of the seven-bit range is a small letter. -/
theorem isLower_of_isUpper {c : Char} (hc : c.toNat < 0x80) (h : isUpper c = true) :
    isLower c = false := by
  rw [isUpper, if_pos hc] at h
  rw [isLower, if_pos hc]
  exact of_sevenBit (p := fun c => c.isUpper = true → c.isLower = false) (by decide) hc h

/-- After a small letter the casing is small. -/
theorem Casing.after_of_isLower {c : Char} (h : isLower c = true) (casing : Casing) :
    casing.after c = .lower :=
  if_pos h

/-- After a capital of the seven-bit range the casing is capital. -/
theorem Casing.after_of_isUpper {c : Char} (hc : c.toNat < 0x80) (h : isUpper c = true)
    (casing : Casing) : casing.after c = .upper := by
  rw [after, if_neg (Bool.eq_false_iff.mp (isLower_of_isUpper hc h)), if_pos h]

/-- The casing behind a letter of the seven-bit range does not depend on what stands in front of
it. -/
theorem Casing.through_of_isCased {c : Char} (hc : c.toNat < 0x80)
    (h : isLower c = true ∨ isUpper c = true) (casing casing' : Casing) (rest : List Char) :
    casing.through (c :: rest) = casing'.through (c :: rest) := by
  have hafter : casing.after c = casing'.after c := by
    rcases h with hlower | hupper
    · rw [after_of_isLower hlower, after_of_isLower hlower]
    · rw [after_of_isUpper hc hupper, after_of_isUpper hc hupper]
  rw [through, through, List.foldl_cons, List.foldl_cons, hafter]

/-! ## Cutting at a place -/

/-- A run of letters and digits has a word. -/
theorem splitRun_ne_nil {run : List Char} (h : run ≠ []) (casing : Casing) :
    splitRun casing run ≠ [] := by
  intro hnil
  rw [← flatten_splitRun casing run, hnil] at h
  exact h rfl

/-- A character joins the first word, whatever words come behind. -/
theorem pushLetter_append (c : Char) {words : List (List Char)} (h : words ≠ [])
    (others : List (List Char)) :
    pushLetter c (words ++ others) = pushLetter c words ++ others := by
  obtain ⟨word, rest, rfl⟩ := List.exists_cons_of_ne_nil h
  rfl

/-- A run that begins with a small letter is cut in the same way whatever casing it follows. -/
theorem splitRun_of_isLower {c : Char} (hc : c.toNat < 0x80) (h : isLower c = true)
    (casing casing' : Casing) (rest : List Char) :
    splitRun casing (c :: rest) = splitRun casing' (c :: rest) := by
  cases rest with
  | nil => rfl
  | cons next more =>
    have hupper : ¬ isUpper c = true := fun hupper => by
      rw [isLower_of_isUpper hc hupper] at h
      cases h
    simp [splitRun, Casing.after_of_isLower h, hupper]

/-- A run of two letters or more that begins with a capital and a small letter is not cut between
them. -/
theorem splitRun_of_isUpper {c next : Char} (hc : c.toNat < 0x80) (hnext : next.toNat < 0x80)
    (hupper : isUpper c = true) (hlower : isLower next = true) (rest : List Char) :
    splitRun .undecided (c :: next :: rest) =
      pushLetter c (splitRun .undecided (next :: rest)) := by
  rw [splitRun, Casing.after_of_isUpper hc hupper, if_neg (by simp), if_neg (by simp),
    splitRun_of_isLower hnext hlower .upper .undecided]

/-- A run gives nothing to the word in front of it exactly if that ends in a capital and a new word
begins with the run. -/
theorem splitRun_eq_nil_cons_iff {casing : Casing} {run : List Char}
    (hrun : ∀ c ∈ run, c.toNat < 0x80) {words : List (List Char)} :
    splitRun casing run = [] :: words ↔
      casing = .upper ∧ beginsWord casing run = true ∧ splitRun .undecided run = words := by
  -- A letter that is put in front of the pieces is in the first one, which is then not empty.
  have hpush : ∀ c (pieces : List (List Char)), pushLetter c pieces ≠ [] :: words := by
    intro c pieces
    cases pieces <;> simp [pushLetter]
  cases run with
  | nil => simp [splitRun, beginsWord]
  | cons c more =>
    obtain ⟨hc, hmore⟩ := List.forall_mem_cons.mp hrun
    cases more with
    | nil =>
      refine iff_of_false (by simp [splitRun]) ?_
      rintro ⟨rfl, hbegins, -⟩
      simp [beginsWord] at hbegins
    | cons next rest =>
      have hnext := (List.forall_mem_cons.mp hmore).1
      rw [splitRun, beginsWord_cons_iff]
      split
      · -- After a small letter the run is cut behind its first letter, which is no capital here.
        next hbreak =>
        refine iff_of_false (by simp) ?_
        rintro ⟨-, ⟨hupper, -⟩, -⟩
        rw [Casing.after_of_isUpper hc hupper] at hbreak
        cases hbreak.1
      · split
        · next hbreak =>
          obtain ⟨hcasing, hupper, hlower⟩ := hbreak
          rw [splitRun_of_isUpper hc hnext hupper hlower]
          simp [hcasing, hupper, hlower]
        · next hbreak =>
          refine iff_of_false (hpush _ _) ?_
          rintro ⟨hcasing, ⟨hupper, hbegins⟩, -⟩
          refine hbreak ⟨hcasing, hupper, ?_⟩
          simpa [hcasing] using hbegins

/-- Where a word begins, the words in front and the words behind are those of the whole run. -/
theorem splitRun_append {casing : Casing} {front rest : List Char} (hfront : front ≠ [])
    (hseven : ∀ c ∈ front ++ rest, c.toNat < 0x80)
    (h : beginsWord (casing.through front) rest = true) :
    splitRun casing (front ++ rest) = splitRun casing front ++ splitRun .undecided rest := by
  -- The induction follows the cuts in front; the break itself is met where one letter is left.
  fun_induction splitRun casing front with
  | case1 => exact absurd rfl hfront
  | case2 casing c =>
    cases rest with
    | nil => cases h
    | cons first others =>
      have hrest : ∀ c ∈ first :: others, c.toNat < 0x80 := (List.forall_mem_cons.mp hseven).2
      have hbegins : beginsWord (casing.after c) (first :: others) = true := h
      obtain ⟨hupper, hcasing⟩ := beginsWord_cons_iff.mp hbegins
      have hfirst := isLower_of_isUpper (List.forall_mem_cons.mp hrest).1 hupper
      rw [List.singleton_append, splitRun]
      rcases hcasing with hlower | ⟨hcapital, -⟩
      · rw [if_pos ⟨hlower, hupper⟩]
        rfl
      · rw [if_neg (by simp [hcapital]), if_neg (by simp [hfirst]),
          (splitRun_eq_nil_cons_iff hrest).mpr ⟨hcapital, hbegins, rfl⟩]
        rfl
  | case3 casing c next more hbreak ih =>
    have hrest := (List.forall_mem_cons.mp hseven).2
    -- The letter behind a cut has a case, so the casing there does not depend on what came before.
    have hthrough : casing.through (c :: next :: more) = Casing.undecided.through (next :: more) :=
      Casing.through_of_isCased (List.forall_mem_cons.mp hrest).1 (Or.inr hbreak.2) _ _ _
    rw [List.cons_append, List.cons_append, splitRun, if_pos hbreak, ← List.cons_append,
      ih (List.cons_ne_nil _ _) hrest (hthrough ▸ h), List.cons_append]
  | case4 casing c next more hlower hbreak ih =>
    have hrest := (List.forall_mem_cons.mp hseven).2
    have hthrough : casing.through (c :: next :: more) = Casing.undecided.through (next :: more) :=
      Casing.through_of_isCased (List.forall_mem_cons.mp hrest).1 (Or.inl hbreak.2.2) _ _ _
    rw [List.cons_append, List.cons_append, splitRun, if_neg hlower, if_pos hbreak,
      ← List.cons_append, ih (List.cons_ne_nil _ _) hrest (hthrough ▸ h),
      pushLetter_append c (splitRun_ne_nil (List.cons_ne_nil _ _) _), List.cons_append]
  | case5 casing c next more hlower hbreak ih =>
    have hrest := (List.forall_mem_cons.mp hseven).2
    rw [List.cons_append, List.cons_append, splitRun, if_neg hlower, if_neg hbreak,
      ← List.cons_append, ih (List.cons_ne_nil _ _) hrest h,
      pushLetter_append c (splitRun_ne_nil (List.cons_ne_nil _ _) _)]

/-- Words of which the first begins with a further character are cut where the others are. -/
theorem exists_of_pushLetter_eq_append {c : Char} {text : List Char}
    {words before behind : List (List Char)} (hwords : words ≠ [])
    (h : pushLetter c words = before ++ behind) (hbefore : before.flatten = c :: text) :
    ∃ word others, words = word :: others ++ behind ∧ (word :: others).flatten = text := by
  obtain ⟨word, rest, rfl⟩ := List.exists_cons_of_ne_nil hwords
  cases before with
  | nil => cases hbefore
  | cons first others =>
    obtain ⟨rfl, rfl⟩ := List.cons_eq_cons.mp h
    exact ⟨word, others, rfl, (List.cons_eq_cons.mp hbefore).2⟩

/-- Where the first character of a run can be read apart, a word begins behind it. -/
theorem beginsWord_of_splitRun_cons {casing : Casing} {c : Char} {rest : List Char}
    {before behind : List (List Char)} (hrest : rest ≠ [])
    (hseven : ∀ d ∈ c :: rest, d.toNat < 0x80)
    (h : splitRun casing (c :: rest) = before ++ behind) (hbefore : before.flatten = [c]) :
    beginsWord (casing.after c) rest = true := by
  have hmore := (List.forall_mem_cons.mp hseven).2
  have hwords : ∀ casing, splitRun casing rest ≠ [] := splitRun_ne_nil hrest
  obtain ⟨next, others, rfl⟩ := List.exists_cons_of_ne_nil hrest
  rw [splitRun] at h
  split at h
  · next hbreak => exact beginsWord_cons_iff.mpr ⟨hbreak.2, Or.inl hbreak.1⟩
  · split at h
    · cases before with
      | nil => cases hbefore
      | cons first tail =>
        obtain ⟨rfl, hpush⟩ := List.cons_eq_cons.mp h
        obtain ⟨word, words, hsplit, hflat⟩ :=
          exists_of_pushLetter_eq_append (hwords _) hpush hbefore
        -- Nothing of the word that begins with the character would stand behind it.
        obtain ⟨rfl, -⟩ := List.append_eq_nil_iff.mp hflat
        refine absurd ?_ ((nil_notMem_splitRun .undecided (next :: others)).2 (by decide))
        rw [hsplit]
        exact List.mem_cons_self
    · obtain ⟨word, words, hsplit, hflat⟩ := exists_of_pushLetter_eq_append (hwords _) h hbefore
      obtain ⟨rfl, -⟩ := List.append_eq_nil_iff.mp hflat
      exact ((splitRun_eq_nil_cons_iff hmore).mp hsplit).2.1

/-- Where the words of a run can be read apart, a word begins. -/
theorem beginsWord_of_splitRun {casing : Casing} {front rest : List Char}
    {before behind : List (List Char)} (hfront : front ≠ []) (hrest : rest ≠ [])
    (hseven : ∀ c ∈ front ++ rest, c.toNat < 0x80)
    (h : splitRun casing (front ++ rest) = before ++ behind) (hbefore : before.flatten = front) :
    beginsWord (casing.through front) rest = true := by
  induction front generalizing casing before with
  | nil => exact absurd rfl hfront
  | cons c more ih =>
    cases more with
    | nil => exact beginsWord_of_splitRun_cons hrest hseven h hbefore
    | cons next others =>
      have hmore := (List.forall_mem_cons.mp hseven).2
      have hnext := (List.forall_mem_cons.mp hmore).1
      have hwords : ∀ casing, splitRun casing (next :: others ++ rest) ≠ [] :=
        splitRun_ne_nil (List.cons_ne_nil _ _)
      -- A cased letter behind the first one decides alone what the rest of the text in front says.
      have hthrough : (isLower next = true ∨ isUpper next = true) →
          Casing.undecided.through (next :: others) = casing.through (c :: next :: others) :=
        fun hcased => Casing.through_of_isCased hnext hcased _ (casing.after c) others
      rw [List.cons_append, List.cons_append, splitRun, ← List.cons_append] at h
      split at h
      · next hbreak =>
        cases before with
        | nil => cases hbefore
        | cons first tail =>
          obtain ⟨rfl, hsplit⟩ := List.cons_eq_cons.mp h
          have hflat : tail.flatten = next :: others := (List.cons_eq_cons.mp hbefore).2
          exact hthrough (Or.inr hbreak.2) ▸ ih (List.cons_ne_nil _ _) hmore hsplit hflat
      · split at h
        · next hbreak =>
          cases before with
          | nil => cases hbefore
          | cons first tail =>
            obtain ⟨rfl, hpush⟩ := List.cons_eq_cons.mp h
            obtain ⟨word, words, hsplit, hflat⟩ :=
              exists_of_pushLetter_eq_append (hwords _) hpush hbefore
            exact hthrough (Or.inl hbreak.2.2) ▸ ih (List.cons_ne_nil _ _) hmore hsplit hflat
        · obtain ⟨word, words, hsplit, hflat⟩ :=
            exists_of_pushLetter_eq_append (hwords _) h hbefore
          exact ih (List.cons_ne_nil _ _) hmore hsplit hflat

/-! ## The last words of a text -/

/-- A text ends with words, each of them small or raised. -/
inductive Spells : List Char → List (List Char) → Prop where
  /-- Every text ends with no words. -/
  | nil (text : List Char) : Spells text []
  /-- A word stands behind a text that ends with the words in front of it. -/
  | concat {text spelled word : List Char} {words : List (List Char)} : Spells text words →
      spelled = word ∨ spelled = raised word → Spells (text ++ spelled) (words ++ [word])

/-- A text ends with raised words. -/
theorem spells_flatMap_raised (text : List Char) (words : List (List Char)) :
    Spells (text ++ words.flatMap raised) words := by
  induction words using List.reverseRecOn with
  | nil => exact .nil _
  | append_singleton words word ih =>
    rw [List.flatMap_append, List.flatMap_singleton, ← List.append_assoc]
    exact ih.concat (Or.inr rfl)

/-- Words spelled like a property end with themselves. -/
theorem spells_camelOf (words : List (List Char)) : Spells (camelOf words) words := by
  -- Words are compared from the last one, so they are taken off at the end.
  induction words using List.reverseRecOn with
  | nil => exact .nil _
  | append_singleton words word ih =>
    cases words with
    | nil =>
      have hword : camelOf ([] ++ [word]) = [] ++ word := List.append_nil word
      exact hword ▸ Spells.concat (.nil []) (Or.inl rfl)
    | cons first others =>
      rw [List.cons_append, camelOf, List.flatMap_append, List.flatMap_singleton,
        ← List.append_assoc]
      exact ih.concat (Or.inr rfl)

/-- Tells whether a word of a run begins at a place of it. -/
def wordBeginsAt (text : List Char) (place : Nat) : Bool :=
  decide (place = 0) ||
    beginsWord (Casing.undecided.through (text.take place)) (text.drop place)

/-- A word of a text begins at the place of each of its last words, counted from the end. -/
def MarksWords (text : List Char) (words : List (List Char)) : Prop :=
  ∀ behind, behind <:+ words → behind ≠ [] →
    wordBeginsAt text (text.length - behind.flatten.length) = true

/-- A word begins with a text exactly if that is in front of it or the casing says so. -/
theorem wordBeginsAt_append_iff {front rest : List Char} :
    wordBeginsAt (front ++ rest) front.length = true ↔
      front = [] ∨ beginsWord (Casing.undecided.through front) rest = true := by
  simp [wordBeginsAt]

/-- The last words of a text begin where it says that words do. -/
theorem marksWords_of_suffix {text : List Char} (htext : ∀ c ∈ text, c.isAlphanum = true)
    {words : List (List Char)} (h : words <:+ wordsOf text) : MarksWords text words := by
  have hseven : ∀ c ∈ text, c.toNat < 0x80 :=
    fun c hc => (isAlphanumeric_of_isAlphanum (htext c hc)).1
  intro behind hbehind hne
  obtain ⟨front, hfront⟩ := hbehind.trans h
  rw [wordsOf, spelledWords_of_isAlphanum htext] at hfront
  obtain ⟨before, after, hsplit, -, rfl⟩ := List.map_eq_append_iff.mp hfront.symm
  have hflat : text = before.flatten ++ after.flatten := by
    rw [← List.flatten_append, ← hsplit, flatten_splitRun]
  have hmem : ∀ word ∈ after, word ∈ spelledWords text := fun word hword => by
    rw [spelledWords_of_isAlphanum htext, hsplit]
    exact List.mem_append_right _ hword
  -- Making words small keeps their lengths, so the place can be counted from the end.
  have hplace : text.length - (after.map lowerWord).flatten.length = before.flatten.length := by
    rw [length_flatten_map_lowerWord fun word hword =>
        sevenBit_of_mem_spelledWords hseven word (hmem word hword),
      hflat, List.length_append, Nat.add_sub_cancel]
  rw [hplace, hflat, wordBeginsAt_append_iff, or_iff_not_imp_left]
  intro hbefore
  refine beginsWord_of_splitRun hbefore ?_ (hflat ▸ hseven) (hflat ▸ hsplit) rfl
  obtain ⟨word, rest, rfl⟩ := List.exists_cons_of_ne_nil (List.map_eq_nil_iff.not.mp hne)
  rw [List.flatten_cons]
  exact List.append_ne_nil_of_left_ne_nil
    (word_of_mem_spelledWords (hmem word List.mem_cons_self)).1 _

/-- A run of which only the first character may be a capital is one word. -/
theorem splitRun_of_tail {run : List Char} (hne : run ≠ [])
    (hrun : ∀ c ∈ run.tail, isUpper c = false) : splitRun .undecided run = [run] := by
  match run with
  | [] => exact absurd rfl hne
  | [c] => rfl
  | c :: next :: rest =>
    have hnext : isUpper next = false := hrun next List.mem_cons_self
    rw [splitRun, if_neg (by simp [hnext]), if_neg (by simp),
      splitRun_of_forall (List.cons_ne_nil _ _) hrun]
    rfl

/-- A small word, raised or not, is a text of one word, and as long as the word. -/
theorem wordsOf_spelled {spelled word : List Char} (hword : IsSmallWord word)
    (hspelled : spelled = word ∨ spelled = raised word)
    (htext : ∀ c ∈ spelled, c.isAlphanum = true) :
    wordsOf spelled = [word] ∧ spelled.length = word.length := by
  obtain ⟨c, rest, rfl⟩ := List.exists_cons_of_ne_nil hword.1
  obtain ⟨hc, hrest⟩ := List.forall_mem_cons.mp hword.2
  -- Raised or not, only the first letter can differ, and made small it is the same.
  obtain ⟨d, rfl, hd⟩ : ∃ d, spelled = d :: rest ∧ d.toLower = c := by
    rcases hspelled with rfl | rfl
    · exact ⟨c, rfl, (plain_of_isSmall hc).2.2⟩
    · exact ⟨c.toUpper, rfl, toLower_toUpper_of_isSmall hc⟩
  have hlower : lowerWord (d :: rest) = c :: rest := by
    have hsmall := lowerWord_of_isSmallWord hword
    rw [lowerWord_of_sevenBit fun c hc => toNat_lt_of_isSmall (hword.2 c hc), List.map_cons]
      at hsmall
    rw [lowerWord_of_sevenBit fun c hc => (isAlphanumeric_of_isAlphanum (htext c hc)).1,
      List.map_cons, hd, (List.cons_eq_cons.mp hsmall).2]
  refine ⟨?_, rfl⟩
  rw [wordsOf, spelledWords_of_isAlphanum htext,
    splitRun_of_tail (List.cons_ne_nil _ _) fun c hc => (plain_of_isSmall (hrest c hc)).2.1,
    List.map_singleton, hlower]

/-- Where a word begins in letters and digits, the words in front and those behind are the words of
the text. -/
theorem wordsOf_append {front rest : List Char} (htext : ∀ c ∈ front ++ rest, c.isAlphanum = true)
    (h : wordBeginsAt (front ++ rest) front.length = true) :
    wordsOf (front ++ rest) = wordsOf front ++ wordsOf rest := by
  obtain ⟨hfront, hrest⟩ := List.forall_mem_append.mp htext
  by_cases hnil : front = []
  · rw [hnil]
    rfl
  · have hbegins := (wordBeginsAt_append_iff.mp h).resolve_left hnil
    rw [wordsOf, wordsOf, wordsOf, spelledWords_of_isAlphanum htext,
      spelledWords_of_isAlphanum hfront, spelledWords_of_isAlphanum hrest,
      splitRun_append hnil (fun c hc => (isAlphanumeric_of_isAlphanum (htext c hc)).1) hbegins,
      List.map_append]

/-- Whether a word begins with a text does not depend on a word that begins behind the text. -/
theorem beginsWord_of_append {casing casing' : Casing} {front rest : List Char} (hne : front ≠ [])
    (hseven : ∀ c ∈ rest, c.toNat < 0x80) (hrest : beginsWord casing' rest = true)
    (h : beginsWord casing (front ++ rest) = true) : beginsWord casing front = true := by
  -- With two letters in front the test has seen enough; with one it looked at the next word.
  match front with
  | [] => exact absurd rfl hne
  | c :: next :: more => exact h
  | [c] =>
    cases rest with
    | nil => cases hrest
    | cons d others =>
      have hupper := (beginsWord_cons_iff.mp hrest).1
      have hlower := isLower_of_isUpper (List.forall_mem_cons.mp hseven).1 hupper
      obtain ⟨hc, hcasing⟩ := beginsWord_cons_iff.mp h
      refine beginsWord_cons_iff.mpr ⟨hc, Or.inl (hcasing.resolve_right fun hcapital => ?_)⟩
      have hfirst : isLower d = true := hcapital.2
      rw [hlower] at hfirst
      cases hfirst

/-- Whether a word begins at a place does not depend on a word that begins further behind. -/
theorem wordBeginsAt_of_append {front rest : List Char} {place : Nat}
    (hplace : place < front.length) (hseven : ∀ c ∈ rest, c.toNat < 0x80)
    (hrest : wordBeginsAt (front ++ rest) front.length = true)
    (h : wordBeginsAt (front ++ rest) place = true) : wordBeginsAt front place = true := by
  have hbegins := (wordBeginsAt_append_iff.mp hrest).resolve_left
    (List.length_pos_iff.mp (Nat.zero_lt_of_lt hplace))
  have hle := Nat.le_of_lt hplace
  rw [wordBeginsAt, Bool.or_eq_true, decide_eq_true_eq, List.take_append_of_le_length hle,
    List.drop_append_of_le_length hle] at h
  rw [wordBeginsAt, Bool.or_eq_true, decide_eq_true_eq]
  refine h.imp_right (beginsWord_of_append (fun hnil => ?_) hseven hbegins)
  exact absurd hplace (Nat.not_lt.mpr (List.drop_eq_nil_iff.mp hnil))

/-- A text that ends with small words has them for its last words if words begin at their places. -/
theorem suffix_of_marksWords {text : List Char} {words : List (List Char)}
    (hspells : Spells text words) (htext : ∀ c ∈ text, c.isAlphanum = true)
    (hsmall : ∀ word ∈ words, IsSmallWord word) (h : MarksWords text words) :
    words <:+ wordsOf text := by
  induction hspells with
  | nil text => exact List.nil_suffix
  | @concat text spelled word words _ hspelled ih =>
    obtain ⟨hwords, hword⟩ := List.forall_mem_append.mp hsmall
    obtain ⟨hfront, hrest⟩ := List.forall_mem_append.mp htext
    obtain ⟨hone, hlength⟩ := wordsOf_spelled (hword word List.mem_cons_self) hspelled hrest
    have hplace : ∀ behind : List (List Char),
        (text ++ spelled).length - (behind ++ [word]).flatten.length =
          text.length - behind.flatten.length := fun behind => by
      rw [List.flatten_append, List.flatten_singleton, List.length_append, List.length_append,
        hlength, Nat.add_sub_add_right]
    have hlast : wordBeginsAt (text ++ spelled) text.length = true := by
      have hbegins := h [word] (List.suffix_append _ _) (List.cons_ne_nil _ _)
      rwa [← List.nil_append [word], hplace] at hbegins
    rw [wordsOf_append htext hlast, hone]
    refine List.suffix_append_self_iff.mpr (ih hfront hwords fun behind hbehind hne => ?_)
    have hbegins := h (behind ++ [word]) (List.suffix_append_self_iff.mpr hbehind)
      (List.append_ne_nil_of_left_ne_nil hne _)
    rw [hplace] at hbegins
    -- The words in front keep their places, since the last word begins behind them.
    by_cases hnil : text = []
    · simp [hnil, wordBeginsAt]
    · obtain ⟨first, others, rfl⟩ := List.exists_cons_of_ne_nil hne
      have hfirst := (hwords first (hbehind.subset List.mem_cons_self)).1
      refine wordBeginsAt_of_append ?_
        (fun c hc => (isAlphanumeric_of_isAlphanum (hrest c hc)).1) hlast hbegins
      have hpositive := List.length_pos_iff.mpr hnil
      have hshort := List.length_pos_iff.mpr hfirst
      rw [List.flatten_cons, List.length_append]
      omega

/-- Small words that a text of letters and digits ends with are its last words exactly if a word
begins at the place of each. -/
theorem suffix_wordsOf_iff {text : List Char} {words : List (List Char)}
    (hspells : Spells text words) (htext : ∀ c ∈ text, c.isAlphanum = true)
    (hsmall : ∀ word ∈ words, IsSmallWord word) :
    words <:+ wordsOf text ↔ MarksWords text words :=
  ⟨marksWords_of_suffix htext, suffix_of_marksWords hspells htext hsmall⟩

end DomainTables.Text
