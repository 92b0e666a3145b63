import Mathlib.Data.List.TakeWhile
import DomainTables.Json.Token
import DomainTables.Json.Writer

/-!
# The tokens of written values

The first step of reading a JSON text takes the second half of writing one back: the characters of a
value are gathered into the tokens of the value (`Scanner.yields_write`). What is written comes in
pieces, each of which yields its tokens and leaves the machine between tokens (`Scanner.Yields`), so
the tokens of a value are put together from those of its pieces (`Scanner.Yields.append`).

Three kinds of pieces have to be looked at. A punctuation mark is a token by itself. A text in
quotation marks is read one character at a time, and each escape gives the character back that it
was written for (`Scanner.run_escapedChar`). A word is not complete until a character comes that
ends it, and none of its own characters does (`endsWord_of_mem_spelling`); after a value there is
such a character, or the text is at its end.
-/

namespace DomainTables.Json

/-! ## Values and their tokens -/

/-- What holds of a value whenever it holds of its parts holds of all values. -/
@[elab_as_elim]
theorem induction {p : Json → Prop} (null : p .null) (bool : ∀ b, p (.bool b))
    (number : ∀ numeral, p (.number numeral)) (string : ∀ text, p (.string text))
    (array : ∀ items, (∀ item ∈ items, p item) → p (.array items))
    (object : ∀ fields, (∀ field ∈ fields, p field.2) → p (.object fields))
    (unreadable : p .unreadable) (value : Json) : p value :=
  match value with
  | .null => null
  | .bool b => bool b
  | .number numeral => number numeral
  | .string text => string text
  | .array items => array items fun item _ =>
    induction null bool number string array object unreadable item
  | .object fields => object fields fun field _ =>
    induction null bool number string array object unreadable field.2
  | .unreadable => unreadable
-- Parts are members of lists, which the size of the value has to be compared with by hand.
termination_by sizeOf value
decreasing_by
  · have hlt := List.sizeOf_lt_of_mem ‹item ∈ items›
    simp only [Json.array.sizeOf_spec]
    omega
  · have hlt := List.sizeOf_lt_of_mem ‹field ∈ fields›
    obtain ⟨key, content⟩ := field
    simp only [Json.object.sizeOf_spec, Prod.mk.sizeOf_spec] at hlt ⊢
    omega

mutual

/-- The tokens of a value. -/
def tokens : Json → List Token
  | .null => [.null]
  | .bool b => [.bool b]
  | .number numeral => [.number numeral]
  | .string text => [.string (some text)]
  | .array [] => [.openArray, .closeArray]
  | .array (item :: items) => .openArray :: tokens item ++ itemTokens items ++ [.closeArray]
  | .object [] => [.openObject, .closeObject]
  | .object ((key, value) :: fields) =>
    .openObject :: .string (some key) :: .colon :: tokens value ++ fieldTokens fields ++
      [.closeObject]
  | .unreadable => [.string none]

/-- The tokens of the further items of an array. -/
def itemTokens : List Json → List Token
  | [] => []
  | item :: items => .comma :: tokens item ++ itemTokens items

/-- The tokens of the further fields of an object. -/
def fieldTokens : List (String × Json) → List Token
  | [] => []
  | (key, value) :: fields =>
    .comma :: .string (some key) :: .colon :: tokens value ++ fieldTokens fields

end

/-! ## Characters in quotation marks -/

/-- A number of a character is no half of one. -/
theorem isHalf_toNat (c : Char) : (isHighHalf c.toNat || isLowHalf c.toNat) = false := by
  have hvalid : c.toNat < 0xD800 ∨ 0xDFFF < c.toNat ∧ c.toNat < 0x110000 := c.valid
  simp only [isHighHalf, isLowHalf, Bool.or_eq_false_iff, Bool.and_eq_false_iff,
    decide_eq_false_iff_not]
  omega

/-- A number that is no half of a character is put together by itself. -/
theorem characters?_cons {point : Nat} (h : (isHighHalf point || isLowHalf point) = false)
    (rest : List Nat) :
    characters? (point :: rest) = (characters? rest).map (Char.ofNat point :: ·) := by
  cases rest with
  | nil => simp [characters?, h]
  | cons next rest =>
    obtain ⟨hhigh, hlow⟩ := Bool.or_eq_false_iff.mp h
    simp [characters?, hhigh, hlow]

/-- The numbers of characters are put together into the characters. -/
theorem characters?_map_toNat (cs : List Char) : characters? (cs.map Char.toNat) = some cs := by
  induction cs with
  | nil => rfl
  | cons c cs ih =>
    rw [List.map_cons, characters?_cons (isHalf_toNat c), ih, Option.map_some, Char.ofNat_toNat]

/-- A hexadecimal digit has the value that it is written for. -/
theorem hexValue?_hexDigit : ∀ digit < 16, hexValue? (hexDigit digit) = some digit := by
  decide

/-- A character is written with a letter that means it, with its number, or as it is. -/
theorem escapedChar_cases (c : Char) :
    (∃ letter, letter ≠ 'u' ∧ escaped? letter = some c ∧ escapedChar c = ['\\', letter]) ∨
    (c < ' ' ∧ escapedChar c =
      ['\\', 'u', '0', '0', hexDigit (c.toNat / 16), hexDigit (c.toNat % 16)]) ∨
    (c ≠ '"' ∧ c ≠ '\\' ∧ ¬ c < ' ' ∧ escapedChar c = [c]) := by
  unfold escapedChar
  -- One case for each rule of writing, in the order of the rules.
  split_ifs with hquote hbackslash hbackspace hfeed hline hreturn htab hcontrol
  · exact Or.inl ⟨'"', by decide, congrArg some hquote.symm, rfl⟩
  · exact Or.inl ⟨'\\', by decide, congrArg some hbackslash.symm, rfl⟩
  · exact Or.inl ⟨'b', by decide, congrArg some hbackspace.symm, rfl⟩
  · exact Or.inl ⟨'f', by decide, congrArg some hfeed.symm, rfl⟩
  · exact Or.inl ⟨'n', by decide, congrArg some hline.symm, rfl⟩
  · exact Or.inl ⟨'r', by decide, congrArg some hreturn.symm, rfl⟩
  · exact Or.inl ⟨'t', by decide, congrArg some htab.symm, rfl⟩
  · exact Or.inr (Or.inl ⟨hcontrol, rfl⟩)
  · exact Or.inr (Or.inr ⟨hquote, hbackslash, hcontrol, rfl⟩)

namespace Scanner

/-- A step of the machine is the first step of a run. -/
theorem run_cons {scanner next : Scanner} {c : Char} {tokens : List Token}
    (h : scanner.step c = some (next, tokens)) (rest : List Char) :
    scanner.run (c :: rest) = (next.run rest).map (tokens ++ ·) := by
  rw [run, h]
  dsimp only [bind, Option.bind_some]
  cases next.run rest <;> rfl

/-- A step that completes no token leads on. -/
theorem run_cons_nil {scanner next : Scanner} {c : Char} (h : scanner.step c = some (next, []))
    (rest : List Char) : scanner.run (c :: rest) = next.run rest := by
  rw [run_cons h]
  simp

/-- A digit of the number of an escape is taken in. -/
theorem step_code {digit : Nat} (h : digit < 16) (seen : List Nat) (point missing : Nat) :
    (code seen point (missing + 1)).step (hexDigit digit) =
      some (code seen (16 * point + digit) missing, []) := by
  rw [step, hexValue?_hexDigit digit h]
  rfl

/-- The last digit of the number of an escape completes the number. -/
theorem step_code_zero {digit : Nat} (h : digit < 16) (seen : List Nat) (point : Nat) :
    (code seen point 0).step (hexDigit digit) =
      some (text ((16 * point + digit) :: seen), []) := by
  rw [step, hexValue?_hexDigit digit h]
  rfl

/-- The characters that stand for one character in quotation marks are read as its number. -/
theorem run_escapedChar (seen : List Nat) (c : Char) (rest : List Char) :
    (text seen).run (escapedChar c ++ rest) = (text (c.toNat :: seen)).run rest := by
  rcases escapedChar_cases c with
    ⟨letter, hu, hmeant, h⟩ | ⟨hcontrol, h⟩ | ⟨hquote, hbackslash, hcontrol, h⟩
  · -- A letter after the backslash means the character.
    have hstep : (escape seen).step letter = some (text (c.toNat :: seen), []) := by
      rw [step, if_neg hu, hmeant]
      rfl
    rw [h, List.cons_append, List.cons_append, run_cons_nil rfl, run_cons_nil hstep]
    rfl
  · -- Four digits are read one by one. The first two are zero, since control characters are small.
    have hlt : c.toNat < 32 := hcontrol
    have hhigh : c.toNat / 16 < 16 := by omega
    have hlow : c.toNat % 16 < 16 := Nat.mod_lt _ (by decide)
    have hpoint : 16 * (16 * (16 * (16 * 0 + 0) + 0) + c.toNat / 16) + c.toNat % 16 = c.toNat := by
      omega
    have hzero : hexDigit 0 = '0' := rfl
    simp only [h, List.cons_append, List.nil_append]
    rw [run_cons_nil rfl, run_cons_nil rfl, ← hzero, run_cons_nil (step_code (by decide) _ _ _),
      run_cons_nil (step_code (by decide) _ _ _), run_cons_nil (step_code hhigh _ _ _),
      run_cons_nil (step_code_zero hlow _ _), hpoint]
  · -- All other characters stand for themselves.
    have hstep : (text seen).step c = some (text (c.toNat :: seen), []) := by
      rw [step, if_neg hquote, if_neg hbackslash, if_neg hcontrol]
    rw [h, List.cons_append, run_cons_nil hstep]
    rfl

/-- A text in quotation marks is read character by character, up to the closing mark. -/
theorem run_text (cs : List Char) (seen : List Nat) (rest : List Char) :
    (text seen).run (cs.flatMap escapedChar ++ '"' :: rest) =
      (between.run rest).map
        (.string ((characters? (seen.reverse ++ cs.map Char.toNat)).map String.ofList) :: ·) := by
  induction cs generalizing seen with
  | nil =>
    have hstep : (text seen).step '"' =
        some (between, [.string ((characters? seen.reverse).map String.ofList)]) := rfl
    rw [List.flatMap_nil, List.nil_append, run_cons hstep, List.map_nil, List.append_nil]
    rfl
  | cons c cs ih =>
    rw [List.flatMap_cons, List.append_assoc, run_escapedChar, ih, List.reverse_cons,
      List.append_assoc, List.map_cons, List.singleton_append]

/-! ## Words -/

/-- The characters that end words. -/
theorem mem_of_endsWord {c : Char} (h : endsWord c = true) :
    c ∈ [' ', '\t', '\n', '\r', '"', '[', ']', '\x7b', '\x7d', ',', ':'] := by
  simp only [endsWord, isBlank, Bool.or_eq_true, beq_iff_eq] at h
  rcases h with ((((rfl | rfl) | rfl) | rfl) | rfl) | h
  · decide
  · decide
  · decide
  · decide
  · decide
  · unfold punctuation? at h
    split at h <;> first | decide | cases h

/-- A digit ends no word. -/
theorem endsWord_of_isDigit {c : Char} (h : c.isDigit = true) : endsWord c = false := by
  by_contra hends
  have hnone : [' ', '\t', '\n', '\r', '"', '[', ']', '\x7b', '\x7d', ',', ':'].any Char.isDigit
      = false := by decide
  exact List.any_eq_false.mp hnone c (mem_of_endsWord (Bool.not_eq_false _ ▸ hends)) h

-- Said of the list as a whole: the statement about its members would have them sought among all
-- characters.
/-- Whether characters end no word can be told by going through them. -/
theorem endsWord_of_any {cs : List Char} (h : cs.any endsWord = false) :
    ∀ c ∈ cs, endsWord c = false :=
  fun c hc => Bool.eq_false_iff.mpr (List.any_eq_false.mp h c hc)

/-- A word is followed by a character that ends it, or by nothing. -/
def IsEnded (rest : List Char) : Prop :=
  ∀ c ∈ rest.head?, endsWord c = true

/-- A word that has begun goes on as long as no character ends it. -/
theorem run_word {cs : List Char} (h : ∀ c ∈ cs, endsWord c = false) (seen rest : List Char) :
    (word seen).run (cs ++ rest) = (word (cs.reverse ++ seen)).run rest := by
  induction cs generalizing seen with
  | nil => rfl
  | cons c cs ih =>
    obtain ⟨hc, hcs⟩ := List.forall_mem_cons.mp h
    have hstep : (word seen).step c = some (word (c :: seen), []) := by
      rw [step, if_neg (Bool.eq_false_iff.mp hc)]
    rw [List.cons_append, run_cons_nil hstep, ih hcs, List.reverse_cons, List.append_assoc,
      List.singleton_append]

/-- A word that begins is kept. -/
theorem step_between_word {c : Char} (h : endsWord c = false) :
    between.step c = some (word [c], []) := by
  simp only [endsWord, Bool.or_eq_false_iff, beq_eq_false_iff_ne] at h
  obtain ⟨⟨hblank, hquote⟩, hmark⟩ := h
  rw [Option.isSome_eq_false_iff, Option.isNone_iff_eq_none] at hmark
  simp only [step, restart, hblank, hquote, hmark, Bool.false_eq_true, if_false]

/-- A word that is a token yields it where it is ended. -/
theorem run_ended {seen : List Char} {token : Token} (htoken : wordToken? seen.reverse = some token)
    {rest : List Char} (hrest : IsEnded rest) :
    (word seen).run rest = (between.run rest).map (token :: ·) := by
  cases rest with
  | nil =>
    show (wordToken? seen.reverse).map ([·]) = some [token]
    rw [htoken]
    rfl
  | cons c rest =>
    have hc : endsWord c = true := hrest c rfl
    have hstep : (word seen).step c = some ((restart c).1, token :: (restart c).2) := by
      rw [step, if_pos hc, htoken]
      rfl
    -- The character that ends the word is taken again, as if the machine stood between tokens.
    have hbetween : between.step c = some ((restart c).1, (restart c).2) := rfl
    rw [run_cons hstep, run_cons hbetween, Option.map_map]
    rfl

end Scanner

/-! ## Numerals -/

/-- The characters in front of the rest of a text, none of which ends a word. -/
def IsInWord (text rest : List Char) : Prop :=
  ∃ taken, text = taken ++ rest ∧ ∀ c ∈ taken, Scanner.endsWord c = false

namespace IsInWord

/-- Nothing is taken. -/
theorem refl (text : List Char) : IsInWord text text :=
  ⟨[], rfl, List.forall_mem_nil _⟩

/-- What is taken one after another is taken together. -/
theorem trans {text middle rest : List Char} (h : IsInWord text middle)
    (h' : IsInWord middle rest) :
    IsInWord text rest := by
  obtain ⟨taken, rfl, hends⟩ := h
  obtain ⟨taken', rfl, hends'⟩ := h'
  exact ⟨taken ++ taken', (List.append_assoc _ _ _).symm,
    List.forall_mem_append.mpr ⟨hends, hends'⟩⟩

/-- One character is taken. -/
theorem cons {c : Char} (hc : Scanner.endsWord c = false) (rest : List Char) :
    IsInWord (c :: rest) rest :=
  ⟨[c], rfl, List.forall_mem_singleton.mpr hc⟩

end IsInWord

/-- Digits end no word. -/
theorem isInWord_skipDigits (text : List Char) : IsInWord text (skipDigits text) := by
  refine ⟨text.takeWhile Char.isDigit, (List.takeWhile_append_dropWhile).symm, fun c hc => ?_⟩
  exact Scanner.endsWord_of_isDigit (List.mem_takeWhile_imp hc)

/-- A sequence of digits ends no word. -/
theorem isInWord_of_afterDigits? {text rest : List Char} (h : afterDigits? text = some rest) :
    IsInWord text rest := by
  unfold afterDigits? at h
  split at h
  · cases h
  · split at h
    · next hdigit =>
      cases h
      exact (IsInWord.cons (Scanner.endsWord_of_isDigit hdigit) _).trans (isInWord_skipDigits _)
    · cases h

/-- A sign ends no word. -/
theorem isInWord_afterSign {signs : List Char} (hsigns : signs.any Scanner.endsWord = false)
    (text : List Char) : IsInWord text (afterSign signs text) := by
  unfold afterSign
  split
  · exact .refl _
  · split
    · next c rest hsign =>
      exact .cons (Scanner.endsWord_of_any hsigns c (List.contains_iff_mem.mp hsign)) rest
    · exact .refl _

/-- A whole number ends no word. -/
theorem isInWord_of_afterWhole? {text rest : List Char} (h : afterWhole? text = some rest) :
    IsInWord text rest := by
  unfold afterWhole? at h
  split at h
  · cases h
    exact .cons (by decide) _
  · exact isInWord_of_afterDigits? h

/-- A fraction ends no word. -/
theorem isInWord_of_afterFraction? {text rest : List Char} (h : afterFraction? text = some rest) :
    IsInWord text rest := by
  unfold afterFraction? at h
  split at h
  · exact (IsInWord.cons (by decide) _).trans (isInWord_of_afterDigits? h)
  · cases h
    exact .refl _

/-- An exponent ends no word. -/
theorem isInWord_of_afterExponent? {text rest : List Char} (h : afterExponent? text = some rest) :
    IsInWord text rest := by
  unfold afterExponent? at h
  split at h
  · cases h
    exact .refl _
  · next c text =>
    split at h
    · next hletter =>
      -- The letter, the sign and the digits are passed one after another.
      have hc : Scanner.endsWord c = false := by rcases hletter with rfl | rfl <;> decide
      exact ((IsInWord.cons hc _).trans (isInWord_afterSign (by decide) _)).trans
        (isInWord_of_afterDigits? h)
    · cases h
      exact .refl _

/-- No character of a numeral ends a word. -/
theorem endsWord_of_mem_spelling (numeral : Numeral) :
    ∀ c ∈ numeral.spelling, Scanner.endsWord c = false := by
  have hvalid := numeral.valid
  unfold isNumeral at hvalid
  simp only [beq_iff_eq, Option.bind_eq_some_iff] at hvalid
  obtain ⟨fraction, ⟨exponent, hwhole, hfraction⟩, hexponent⟩ := hvalid
  -- Sign, whole number, fraction and exponent take up the whole spelling.
  have hall : IsInWord numeral.spelling [] :=
    ((isInWord_afterSign (by decide) _).trans (isInWord_of_afterWhole? hwhole)).trans
      ((isInWord_of_afterFraction? hfraction).trans (isInWord_of_afterExponent? hexponent))
  obtain ⟨taken, htaken, hends⟩ := hall
  rw [htaken, List.append_nil]
  exact hends

/-- The word for the absence of a value. -/
theorem wordToken?_null : wordToken? (write .null) = some .null := by
  rw [wordToken?, if_pos (by decide)]

/-- The words for the truth values. -/
theorem wordToken?_bool (b : Bool) : wordToken? (write (.bool b)) = some (.bool b) := by
  cases b with
  | false => rw [wordToken?, if_neg (by decide), if_neg (by decide), if_pos (by decide)]
  | true => rw [wordToken?, if_neg (by decide), if_pos (by decide)]

/-- A numeral is the word that it is spelled as. -/
theorem wordToken?_spelling (numeral : Numeral) :
    wordToken? numeral.spelling = some (.number numeral) := by
  obtain ⟨spelling, valid⟩ := numeral
  have hne : ∀ word, isNumeral word = false → spelling ≠ word := by
    rintro word hword rfl
    rw [valid] at hword
    cases hword
  rw [wordToken?, if_neg (hne _ (by decide)), if_neg (hne _ (by decide)),
    if_neg (hne _ (by decide)), dif_pos valid]

/-! ## Written values -/

namespace Scanner

/-- What is written in front of a rest yields tokens, and then those of the rest. -/
def Yields (written : List Char) (tokens : List Token) (rest : List Char) : Prop :=
  between.run (written ++ rest) = (between.run rest).map (tokens ++ ·)

/-- Pieces one after another yield their tokens one after another. -/
theorem Yields.append {written written' : List Char} {tokens tokens' : List Token}
    {rest : List Char} (h : Yields written tokens (written' ++ rest))
    (h' : Yields written' tokens' rest) :
    Yields (written ++ written') (tokens ++ tokens') rest := by
  unfold Yields at h h' ⊢
  rw [List.append_assoc, h, h', Option.map_map]
  simp only [Function.comp_def, List.append_assoc]

/-- A punctuation mark yields its token. -/
theorem yields_mark {c : Char} {token : Token} (h : between.step c = some (between, [token]))
    (rest : List Char) : Yields [c] [token] rest :=
  run_cons h rest

/-- A text in quotation marks yields the text. -/
theorem yields_writeString (text : String) (rest : List Char) :
    Yields (writeString text) [.string (some text)] rest := by
  have hcharacters : (characters? (text.toList.map Char.toNat)).map String.ofList = some text := by
    rw [characters?_map_toNat, Option.map_some, String.ofList_toList]
  have hstep : between.step '"' = some (Scanner.text [], []) := rfl
  unfold Yields writeString
  rw [List.append_assoc, List.cons_append, run_cons_nil hstep, List.singleton_append, run_text,
    List.reverse_nil, List.nil_append, hcharacters]
  rfl

/-- Half a character in quotation marks yields a text that is missing. -/
theorem yields_halfCharacter (rest : List Char) :
    Yields ['"', '\\', 'u', 'd', '8', '0', '0', '"'] [.string none] rest := by
  have hclose : (text [0xD800]).step '"' = some (between, [.string none]) := rfl
  unfold Yields
  simp only [List.cons_append, List.nil_append]
  rw [run_cons_nil rfl, run_cons_nil rfl, run_cons_nil rfl, run_cons_nil rfl, run_cons_nil rfl,
    run_cons_nil rfl, run_cons_nil rfl]
  exact run_cons hclose rest

/-- A word yields its token in front of what ends it. -/
theorem yields_word {word : List Char} (hends : ∀ c ∈ word, endsWord c = false) {token : Token}
    (htoken : wordToken? word = some token) {rest : List Char} (hrest : IsEnded rest) :
    Yields word [token] rest := by
  cases word with
  | nil => cases htoken
  | cons c cs =>
    obtain ⟨hc, hcs⟩ := List.forall_mem_cons.mp hends
    -- The machine gathers the word in reverse.
    have hseen : wordToken? (cs.reverse ++ [c]).reverse = some token := by
      rw [List.reverse_append, List.reverse_reverse]
      exact htoken
    unfold Yields
    rw [List.cons_append, run_cons_nil (step_between_word hc), run_word hcs,
      run_ended hseen hrest]
    rfl

/-- A text that goes on with a mark is ended. -/
theorem isEnded_cons {c : Char} (h : endsWord c = true) (rest : List Char) :
    IsEnded (c :: rest) := by
  rintro _ ⟨⟩
  exact h

/-- The further items of an array and its end yield their tokens if each item does. -/
theorem yields_writeItems {items : List Json}
    (h : ∀ item ∈ items, ∀ rest, IsEnded rest → Yields item.write item.tokens rest)
    (rest : List Char) :
    IsEnded (writeItems items ++ [']'] ++ rest) ∧
      Yields (writeItems items ++ [']']) (itemTokens items ++ [.closeArray]) rest := by
  induction items with
  | nil => exact ⟨isEnded_cons (by decide) rest, yields_mark rfl rest⟩
  -- Whatever follows an item ends it: the comma of the next one, or the closing bracket.
  | cons item items ih =>
    obtain ⟨hitem, hitems⟩ := List.forall_mem_cons.mp h
    obtain ⟨hended, hyields⟩ := ih hitems
    have hcomma : Yields [','] [.comma]
        (item.write ++ (writeItems items ++ [']']) ++ rest) := yields_mark rfl _
    have hall := hcomma.append ((hitem _ hended).append hyields)
    rw [writeItems, itemTokens]
    refine ⟨isEnded_cons (by decide) _, ?_⟩
    simpa using hall

/-- A field yields its name, a colon, and the tokens of its value if the value does. -/
theorem yields_field {key : String} {value : Json} {rest : List Char}
    (h : Yields value.write value.tokens rest) :
    Yields (writeString key ++ ':' :: value.write)
      (.string (some key) :: .colon :: value.tokens) rest := by
  have hcolon : Yields [':'] [.colon] (value.write ++ rest) := yields_mark rfl _
  exact (yields_writeString key _).append (hcolon.append h)

/-- The further fields of an object and its end yield their tokens if each value does. -/
theorem yields_writeFields {fields : List (String × Json)}
    (h : ∀ field ∈ fields, ∀ rest, IsEnded rest → Yields field.2.write field.2.tokens rest)
    (rest : List Char) :
    IsEnded (writeFields fields ++ ['\x7d'] ++ rest) ∧
      Yields (writeFields fields ++ ['\x7d']) (fieldTokens fields ++ [.closeObject]) rest := by
  induction fields with
  | nil => exact ⟨isEnded_cons (by decide) rest, yields_mark rfl rest⟩
  -- As for items, with the name and the colon in front of each value.
  | cons field fields ih =>
    obtain ⟨key, value⟩ := field
    obtain ⟨hvalue, hfields⟩ := List.forall_mem_cons.mp h
    obtain ⟨hended, hyields⟩ := ih hfields
    have hcomma : Yields [','] [.comma]
        (writeString key ++ ':' :: value.write ++ (writeFields fields ++ ['\x7d']) ++ rest) :=
      yields_mark rfl _
    have hall := hcomma.append ((yields_field (hvalue _ hended)).append hyields)
    rw [writeFields, fieldTokens]
    refine ⟨isEnded_cons (by decide) _, ?_⟩
    simpa using hall

/-- A value that is followed by nothing, or by what ends a word, yields its tokens. -/
theorem yields_write (value : Json) {rest : List Char} (hrest : IsEnded rest) :
    Yields value.write value.tokens rest := by
  induction value using Json.induction generalizing rest with
  -- The induction follows the parts of the value. A word has to be ended by what follows it, which
  -- differs from part to part, so `rest` is general.
  | null =>
    have hends : (write .null).any endsWord = false := by decide
    exact yields_word (endsWord_of_any hends) wordToken?_null hrest
  | bool b =>
    have hends : (write (.bool b)).any endsWord = false := by cases b <;> decide
    exact yields_word (endsWord_of_any hends) (wordToken?_bool b) hrest
  | number numeral =>
    exact yields_word (endsWord_of_mem_spelling numeral) (wordToken?_spelling numeral) hrest
  | string text => exact yields_writeString text rest
  -- An empty array is closed at once; else no comma stands in front of the first item.
  | array items ih =>
    cases items with
    | nil =>
      have hopen : Yields ['['] [.openArray] ([']'] ++ rest) := yields_mark rfl _
      have hclose : Yields [']'] [.closeArray] rest := yields_mark rfl rest
      show Yields (['['] ++ [']']) ([.openArray] ++ [.closeArray]) rest
      exact hopen.append hclose
    | cons item items =>
      obtain ⟨hitem, hitems⟩ := List.forall_mem_cons.mp ih
      obtain ⟨hended, hyields⟩ := yields_writeItems (fun next hnext _ => hitems next hnext) rest
      have hopen : Yields ['['] [.openArray]
          (item.write ++ (writeItems items ++ [']']) ++ rest) := yields_mark rfl _
      have hall := hopen.append ((hitem hended).append hyields)
      show Yields ('[' :: item.write ++ writeItems items ++ [']'])
        (.openArray :: item.tokens ++ itemTokens items ++ [.closeArray]) rest
      simpa using hall
  | object fields ih =>
    cases fields with
    | nil =>
      have hopen : Yields ['\x7b'] [.openObject] (['\x7d'] ++ rest) := yields_mark rfl _
      have hclose : Yields ['\x7d'] [.closeObject] rest := yields_mark rfl rest
      show Yields (['\x7b'] ++ ['\x7d']) ([.openObject] ++ [.closeObject]) rest
      exact hopen.append hclose
    | cons field fields =>
      obtain ⟨key, value⟩ := field
      obtain ⟨hvalue, hfields⟩ := List.forall_mem_cons.mp ih
      obtain ⟨hended, hyields⟩ := yields_writeFields (fun next hnext _ => hfields next hnext) rest
      have hopen : Yields ['\x7b'] [.openObject]
          (writeString key ++ ':' :: value.write ++ (writeFields fields ++ ['\x7d']) ++ rest) :=
        yields_mark rfl _
      have hall := hopen.append ((yields_field (hvalue hended)).append hyields)
      show Yields
        ('\x7b' :: writeString key ++ ':' :: value.write ++ writeFields fields ++ ['\x7d'])
        (.openObject :: .string (some key) :: .colon :: value.tokens ++ fieldTokens fields ++
          [.closeObject]) rest
      simpa using hall
  -- What cannot be taken in is written as half a character.
  | unreadable =>
    show Yields ['"', '\\', 'u', 'd', '8', '0', '0', '"'] [.string none] rest
    exact yields_halfCharacter rest

end Scanner

/-- The tokens of the text of a value are those of the value. -/
theorem tokens?_write (value : Json) : tokens? value.write = some value.tokens := by
  have hended : Scanner.IsEnded [] := fun _ h => nomatch h
  have hyields := Scanner.yields_write value hended
  unfold Scanner.Yields at hyields
  rw [List.append_nil] at hyields
  rw [tokens?, hyields, Scanner.run, Scanner.finish, Option.map_some, List.append_nil]

end DomainTables.Json
