import Mathlib.Data.List.Forall2
import Mathlib.Data.List.Infix
import DomainTables.Text.Lines

/-!
# Clauses of an expression

Whether an expression keeps the order of arrays shows in its text, wherever one of two keywords
stands: `ORDER BY` with the column to sort by, and `WITH ORDINALITY` with the alias and the columns
that the join binds. `clausesOf` finds every such place, by trying all tails of the text.

Expressions are built from literals and names. A literal is silent if none of its tails can begin a
keyword (`clausesOf_of_isClosed`), and a name is if what follows it does not go on with the second
word of one (`clausesOf_of_isSolid`). Moving lines to the right changes no clause either, since
keywords stand in one line, and what separates operands may be blanks of any number
(`clausesOf_indentChars`). So the clauses of an expression are those of its parts, in order
(`Yields.append`, `Yields.intercalate`).
-/

namespace DomainTables.Sql

/-! ## Clauses -/

/-- The keywords that keep arrays in order. -/
inductive Keyword where
  /-- Sorts what is aggregated. -/
  | orderBy
  /-- Numbers the elements of an array. -/
  | withOrdinality
deriving DecidableEq, Repr

namespace Keyword

/-- The first word of a keyword. -/
def first : Keyword → List Char
  | orderBy => "ORDER".toList
  | withOrdinality => "WITH".toList

/-- The second word of a keyword. -/
def second : Keyword → List Char
  | orderBy => "BY".toList
  | withOrdinality => "ORDINALITY".toList

/-- The two words of a keyword with a blank between them. -/
def chars (keyword : Keyword) : List Char :=
  keyword.first ++ ' ' :: keyword.second

/-- How many operands belong to a keyword: the column to sort by, or `AS`, an alias and the names of
two columns. -/
def arity : Keyword → Nat
  | orderBy => 1
  | withOrdinality => 4

/-- Both keywords. -/
def all : List Keyword :=
  [orderBy, withOrdinality]

/-- There is no other keyword. -/
theorem mem_all (keyword : Keyword) : keyword ∈ all := by
  cases keyword <;> decide

end Keyword

/-- A keyword with its operands. -/
structure Clause where
  /-- The keyword. -/
  keyword : Keyword
  /-- What stands behind it. -/
  operands : List String
deriving DecidableEq, Repr

/-- Tells whether a character separates operands. -/
def isSeparator (c : Char) : Bool :=
  [' ', '\n', '(', ')', ',', '\''].contains c

/-- What separators leave of a text, piece by piece. -/
def piecesOf (text : List Char) : List (List Char) :=
  (text.splitOnP isSeparator).filter fun piece => !piece.isEmpty

/-- The clause of a keyword if the text begins with that. -/
def Keyword.clause? (keyword : Keyword) (text : List Char) : Option Clause :=
  (keyword.chars.isPrefixOf? text).map fun rest =>
    ⟨keyword, ((piecesOf rest).take keyword.arity).map String.ofList⟩

/-- The clause with which a text begins, if it begins with one. -/
def clauseAt? (text : List Char) : Option Clause :=
  Keyword.all.findSome? fun keyword => keyword.clause? text

/-- The clauses of a text, wherever they begin. -/
def clausesOf : List Char → List Clause
  | [] => []
  | c :: rest => (clauseAt? (c :: rest)).toList ++ clausesOf rest

/-- A text begins with no clause exactly if it begins with no keyword. -/
theorem clauseAt?_eq_none_iff {text : List Char} :
    clauseAt? text = none ↔ ∀ keyword : Keyword, ¬ keyword.chars <+: text := by
  -- A keyword found yields a clause whatever stands behind it, so only the keyword matters.
  rw [clauseAt?, List.findSome?_eq_none_iff]
  constructor
  · rintro h keyword ⟨rest, hrest⟩
    have hfound := List.isPrefixOf?_eq_some_iff_append_eq.mpr hrest
    have hnone := h keyword keyword.mem_all
    rw [Keyword.clause?, hfound] at hnone
    cases hnone
  · intro h keyword _
    rw [Keyword.clause?, Option.map_eq_none_iff, Option.eq_none_iff_forall_ne_some]
    exact fun rest hrest =>
      h keyword ⟨rest, List.isPrefixOf?_eq_some_iff_append_eq.mp hrest⟩

/-- A keyword begins a clause with the pieces behind it. -/
theorem clauseAt?_chars_append (keyword : Keyword) (rest : List Char) :
    clauseAt? (keyword.chars ++ rest) =
      some ⟨keyword, ((piecesOf rest).take keyword.arity).map String.ofList⟩ := by
  cases keyword <;> rfl

/-- How often a keyword stands in a text. -/
def occurrences (keyword : Keyword) (text : List Char) : Nat :=
  text.tails.countP keyword.chars.isPrefixOf

/-- A text begins with a clause of a keyword exactly if it begins with the keyword. -/
theorem countP_clauseAt? (keyword : Keyword) (text : List Char) :
    (clauseAt? text).toList.countP (·.keyword == keyword) =
      if keyword.chars.isPrefixOf text then 1 else 0 := by
  by_cases h : ∃ found : Keyword, found.chars <+: text
  · obtain ⟨found, rest, rfl⟩ := h
    rw [clauseAt?_chars_append, Option.toList_some, List.countP_singleton]
    -- The keywords begin with different letters.
    cases found <;> cases keyword <;> rfl
  · have hnone := not_exists.mp h
    have hprefix : keyword.chars.isPrefixOf text = false := by
      rw [Bool.eq_false_iff, ne_eq, List.isPrefixOf_iff_prefix]
      exact hnone keyword
    rw [clauseAt?_eq_none_iff.mpr hnone, hprefix]
    rfl

/-- There are as many clauses of a keyword as places where it stands. -/
theorem countP_clausesOf (keyword : Keyword) (text : List Char) :
    (clausesOf text).countP (·.keyword == keyword) = occurrences keyword text := by
  induction text with
  | nil => cases keyword <;> rfl
  | cons c rest ih =>
    rw [clausesOf, List.countP_append, countP_clauseAt?, ih, occurrences, occurrences,
      List.tails_cons, List.countP_cons, Nat.add_comm]

/-- A text that begins no clause has those of what follows it. -/
theorem clausesOf_append {text rest : List Char}
    (h : ∀ tail, tail <:+ text → tail ≠ [] → clauseAt? (tail ++ rest) = none) :
    clausesOf (text ++ rest) = clausesOf rest := by
  induction text with
  | nil => rfl
  | cons c more ih =>
    have hhead := h (c :: more) (List.suffix_refl _) (List.cons_ne_nil _ _)
    rw [List.cons_append] at hhead ⊢
    rw [clausesOf, hhead, Option.toList_none, List.nil_append]
    exact ih fun tail htail hne => h tail (htail.trans (List.suffix_cons c more)) hne

/-! ## Literals -/

/-- Tells whether no keyword begins in a text, whatever follows it. -/
def isClosed (text : List Char) : Bool :=
  text.tails.all fun tail => tail.isEmpty || Keyword.all.all fun keyword =>
    !keyword.chars.isPrefixOf tail && !tail.isPrefixOf keyword.chars

/-- A text in which no keyword begins has no clauses. -/
theorem clausesOf_of_isClosed {text : List Char} (h : isClosed text = true) (rest : List Char) :
    clausesOf (text ++ rest) = clausesOf rest := by
  refine clausesOf_append fun tail htail hne => clauseAt?_eq_none_iff.mpr fun keyword hprefix => ?_
  have htails := List.all_eq_true.mp h tail ((List.mem_tails _ _).mpr htail)
  rw [List.isEmpty_eq_false_iff.mpr hne, Bool.false_or] at htails
  have hnot := List.all_eq_true.mp htails keyword keyword.mem_all
  simp only [Bool.and_eq_true, Bool.not_eq_true', ← Bool.not_eq_true,
    List.isPrefixOf_iff_prefix] at hnot
  -- Keyword and tail begin alike, so the shorter is the beginning of the longer.
  rcases List.prefix_or_prefix_of_prefix hprefix (List.prefix_append tail rest) with h | h
  · exact hnot.1 h
  · exact hnot.2 h

/-- A keyword begins a clause with the pieces behind it, and no other clause begins in it. -/
theorem clausesOf_chars_append (keyword : Keyword) (rest : List Char) :
    clausesOf (keyword.chars ++ rest) =
      ⟨keyword, ((piecesOf rest).take keyword.arity).map String.ofList⟩ :: clausesOf rest := by
  have hat := clauseAt?_chars_append keyword rest
  have htail : isClosed keyword.chars.tail = true := by
    cases keyword <;> decide
  obtain ⟨c, tail, hchars⟩ : ∃ c tail, keyword.chars = c :: tail := by
    cases keyword <;> exact ⟨_, _, rfl⟩
  rw [hchars, List.tail_cons] at htail
  rw [hchars, List.cons_append] at hat ⊢
  rw [clausesOf, hat, Option.toList_some, List.singleton_append, clausesOf_of_isClosed htail]

/-! ## Names -/

/-- The text has no separators. -/
def IsSolid (text : List Char) : Prop :=
  ∀ c ∈ text, isSeparator c = false

instance (text : List Char) : Decidable (IsSolid text) :=
  decidable_of_iff (text.all (fun c => !isSeparator c) = true) (by simp [IsSolid])

/-- The text can follow a name: it begins with a separator, but does not go on with the second word
of a keyword. -/
structure IsApart (text : List Char) : Prop where
  /-- It begins with a separator, if it is not empty. -/
  head : ∀ c ∈ text.head?, isSeparator c = true
  /-- It does not begin with the second word of a keyword. -/
  second : ∀ keyword : Keyword, ¬ ' ' :: keyword.second <+: text

/-- Up to the first separator there is the name. -/
theorem takeWhile_append_of_isSolid {text rest : List Char} (htext : IsSolid text)
    (hrest : ∀ c ∈ rest.head?, isSeparator c = true) :
    (text ++ rest).takeWhile (fun c => !isSeparator c) = text := by
  rw [List.takeWhile_append_of_pos fun c hc => by rw [htext c hc]; rfl]
  cases rest with
  | nil => rw [List.takeWhile_nil, List.append_nil]
  | cons c more =>
    have hc : isSeparator c = true := hrest c rfl
    rw [List.takeWhile_cons_of_neg (by rw [hc]; decide), List.append_nil]

/-- The first word of a keyword has no separators. -/
theorem Keyword.isSolid_first (keyword : Keyword) : IsSolid keyword.first := by
  cases keyword <;> decide

/-- A name has no clauses. -/
theorem clausesOf_of_isSolid {text rest : List Char} (htext : IsSolid text)
    (hrest : IsApart rest) : clausesOf (text ++ rest) = clausesOf rest := by
  refine clausesOf_append fun tail htail _ => clauseAt?_eq_none_iff.mpr fun keyword => ?_
  rintro ⟨more, hmore⟩
  rw [Keyword.chars, List.append_assoc, List.cons_append] at hmore
  -- The keyword could only begin with the end of the name as its first word.
  have htailSolid : IsSolid tail := fun c hc => htext c (htail.subset hc)
  have hfirst : (keyword.first ++ ' ' :: (keyword.second ++ more)).takeWhile
      (fun c => !isSeparator c) = keyword.first :=
    takeWhile_append_of_isSolid keyword.isSolid_first fun c hc => by cases hc; decide
  rw [hmore, takeWhile_append_of_isSolid htailSolid hrest.head] at hfirst
  rw [hfirst] at hmore
  exact hrest.second keyword ⟨more, List.append_cancel_left hmore⟩

/-! ## Operands -/

/-- A separator ends a piece. -/
theorem piecesOf_append_cons {separator : Char} (h : isSeparator separator = true)
    (text rest : List Char) :
    piecesOf (text ++ separator :: rest) = piecesOf text ++ piecesOf rest := by
  rw [piecesOf, List.splitOnP_append_cons text rest h, List.filter_append]
  rfl

/-- A separator in front belongs to no piece. -/
theorem piecesOf_cons {separator : Char} (h : isSeparator separator = true) (rest : List Char) :
    piecesOf (separator :: rest) = piecesOf rest :=
  piecesOf_append_cons h [] rest

/-- Separators in front belong to no piece. -/
theorem piecesOf_append_of_all {separators : List Char}
    (h : separators.all isSeparator = true) (rest : List Char) :
    piecesOf (separators ++ rest) = piecesOf rest := by
  induction separators with
  | nil => rfl
  | cons c more ih =>
    rw [List.all_cons, Bool.and_eq_true] at h
    rw [List.cons_append, piecesOf_cons h.1, ih h.2]

/-- A name that is not empty is one piece. -/
theorem piecesOf_of_isSolid {text : List Char} (htext : IsSolid text) (hne : text ≠ []) :
    piecesOf text = [text] := by
  rw [piecesOf, List.splitOnP_eq_singleton htext]
  simp [hne]

/-- A name is the first piece of a text that begins with it. -/
theorem piecesOf_append_of_isSolid {text rest : List Char} (htext : IsSolid text) (hne : text ≠ [])
    (hrest : ∀ c ∈ rest.head?, isSeparator c = true) :
    piecesOf (text ++ rest) = text :: piecesOf rest := by
  cases rest with
  | nil => rw [List.append_nil, piecesOf_of_isSolid htext hne]; rfl
  | cons c more =>
    have hc : isSeparator c = true := hrest c rfl
    rw [piecesOf_append_cons hc, piecesOf_of_isSolid htext hne, piecesOf_cons hc,
      List.singleton_append]

/-! ## Indentation -/

section

variable {pad : List Char} (hpad : ∀ c ∈ pad, c = ' ')

include hpad

/-- A fresh line has blanks in front, and is indented like any other behind them. -/
theorem exists_blanks_indentChars (fresh : Bool) (text : List Char) :
    ∃ blanks, (∀ c ∈ blanks, c = ' ') ∧
      Text.indentChars pad fresh text = blanks ++ Text.indentChars pad false text := by
  cases text with
  | nil => exact ⟨[], List.forall_mem_nil _, rfl⟩
  | cons c rest =>
    refine ⟨if fresh && c != '\n' then pad else [], ?_, ?_⟩
    · split
      · exact hpad
      · exact List.forall_mem_nil _
    · rw [Text.indentChars, Text.indentChars]
      rfl

/-- Indented text falls into the same pieces, and begins with the same one. -/
theorem splitOnP_indentChars (text rest : List Char) :
    ∃ first others others',
      (Text.indentChars pad false text ++ rest).splitOnP isSeparator = first :: others ∧
      (text ++ rest).splitOnP isSeparator = first :: others' ∧
      others.filter (fun piece => !piece.isEmpty) =
        others'.filter (fun piece => !piece.isEmpty) := by
  induction text with
  | nil =>
    obtain ⟨first, others, h⟩ :=
      List.exists_cons_of_ne_nil (List.splitOnP_ne_nil isSeparator rest)
    exact ⟨first, others, others, h, h, rfl⟩
  | cons c more ih =>
    obtain ⟨first, others, others', hindented, hplain, hsame⟩ := ih
    have hcons : Text.indentChars pad false (c :: more) =
        c :: Text.indentChars pad (c == '\n') more := rfl
    rw [hcons, List.cons_append, List.cons_append, List.splitOnP_cons_eq_if_modifyHead,
      List.splitOnP_cons_eq_if_modifyHead]
    split
    · -- Behind a separator there may be blanks, which belong to no piece.
      refine ⟨[], _, _, rfl, rfl, ?_⟩
      obtain ⟨blanks, hblanks, hfresh⟩ := exists_blanks_indentChars hpad (c == '\n') more
      have hseparators : blanks.all isSeparator = true := by
        rw [List.all_eq_true]
        intro c hc
        rw [hblanks c hc]
        decide
      have hskip := piecesOf_append_of_all hseparators (Text.indentChars pad false more ++ rest)
      rw [hfresh, List.append_assoc]
      rw [piecesOf, piecesOf] at hskip
      rw [hskip, hindented, hplain, List.filter_cons, List.filter_cons, hsame]
    · -- Inside a piece no line is broken, so nothing is put in front of what comes next.
      next hc =>
      have hline : (c == '\n') = false := by
        rw [beq_eq_false_iff_ne]
        rintro rfl
        exact hc (by decide)
      rw [hline, hindented, hplain]
      exact ⟨c :: first, others, others', rfl, rfl, hsame⟩

/-- Indented text has the same pieces. -/
theorem piecesOf_indentChars (text rest : List Char) :
    piecesOf (Text.indentChars pad false text ++ rest) = piecesOf (text ++ rest) := by
  obtain ⟨first, others, others', hindented, hplain, hsame⟩ := splitOnP_indentChars hpad text rest
  rw [piecesOf, piecesOf, hindented, hplain, List.filter_cons, List.filter_cons, hsame]

/-- What stands in one line begins an indented text if it begins the text, with the same pieces
behind it. -/
theorem map_isPrefixOf?_indentChars {line : List Char} (hline : '\n' ∉ line)
    (text rest : List Char) :
    (line.isPrefixOf? (Text.indentChars pad false text ++ rest)).map piecesOf =
      (line.isPrefixOf? (text ++ rest)).map piecesOf := by
  induction line generalizing text with
  | nil =>
    rw [List.isPrefixOf?, List.isPrefixOf?, Option.map_some, Option.map_some,
      piecesOf_indentChars hpad]
  | cons k ks ih =>
    obtain ⟨hk, hks⟩ := not_or.mp (List.mem_cons.not.mp hline)
    -- As long as the line goes on, the text has no line break either, and stays as it is.
    cases text with
    | nil => rfl
    | cons c more =>
      have hcons : Text.indentChars pad false (c :: more) =
          c :: Text.indentChars pad (c == '\n') more := rfl
      rw [hcons, List.cons_append, List.cons_append, List.isPrefixOf?, List.isPrefixOf?]
      split
      · next hkc =>
        have hc : (c == '\n') = false := by
          rw [← eq_of_beq hkc, beq_eq_false_iff_ne]
          exact Ne.symm hk
        rw [hc]
        exact ih hks more
      · rfl

/-- Indented text begins with the same clause. -/
theorem clauseAt?_indentChars (text rest : List Char) :
    clauseAt? (Text.indentChars pad false text ++ rest) = clauseAt? (text ++ rest) := by
  have hclause : ∀ keyword : Keyword,
      keyword.clause? (Text.indentChars pad false text ++ rest) =
        keyword.clause? (text ++ rest) := by
    intro keyword
    have hline : '\n' ∉ keyword.chars := by
      cases keyword <;> decide
    -- A clause is read from the pieces behind its keyword, and only the pieces are kept.
    have hmap : ∀ found : Option (List Char),
        found.map (fun rest => (⟨keyword, ((piecesOf rest).take keyword.arity).map
          String.ofList⟩ : Clause)) =
        (found.map piecesOf).map fun pieces => ⟨keyword, (pieces.take keyword.arity).map
          String.ofList⟩ := by
      intro found
      rw [Option.map_map]
      rfl
    rw [Keyword.clause?, Keyword.clause?, hmap, hmap, map_isPrefixOf?_indentChars hpad hline]
  rw [clauseAt?, clauseAt?]
  simp only [hclause]

/-- Indenting changes no clauses. -/
theorem clausesOf_indentChars (fresh : Bool) (text rest : List Char) :
    clausesOf (Text.indentChars pad fresh text ++ rest) = clausesOf (text ++ rest) := by
  induction text generalizing fresh with
  | nil => rfl
  | cons c more ih =>
    obtain ⟨blanks, hblanks, hfresh⟩ := exists_blanks_indentChars hpad fresh (c :: more)
    -- Keywords begin with letters, so none begins within the blanks.
    have hskip : ∀ rest, clausesOf (blanks ++ rest) = clausesOf rest := by
      intro rest
      refine clausesOf_append fun tail htail hne => clauseAt?_eq_none_iff.mpr fun keyword h => ?_
      obtain ⟨c, more, rfl⟩ := List.exists_cons_of_ne_nil hne
      obtain rfl : c = ' ' := hblanks c (htail.subset List.mem_cons_self)
      cases keyword <;> simp [Keyword.chars, Keyword.first] at h
    rw [hfresh, List.append_assoc, hskip]
    have hat := clauseAt?_indentChars hpad (c :: more) rest
    have hcons : Text.indentChars pad false (c :: more) =
        c :: Text.indentChars pad (c == '\n') more := rfl
    rw [hcons, List.cons_append, List.cons_append] at hat ⊢
    rw [clausesOf, clausesOf, hat, ih]

end

/-! ## Clauses of parts -/

/-- The text has the given clauses, whatever may follow it. -/
def Yields (text : String) (found : List Clause) : Prop :=
  ∀ rest, IsApart rest → clausesOf (text.toList ++ rest) = found ++ clausesOf rest

/-- Tells whether a text that follows a name ends the name, whatever follows itself. -/
def isOpening (text : List Char) : Bool :=
  text.head?.any isSeparator && Keyword.all.all fun keyword =>
    !(' ' :: keyword.second).isPrefixOf text && !text.isPrefixOf (' ' :: keyword.second)

/-- A text that ends names can follow one. -/
theorem isApart_of_isOpening {text : List Char} (h : isOpening text = true) (rest : List Char) :
    IsApart (text ++ rest) := by
  rw [isOpening, Bool.and_eq_true] at h
  obtain ⟨hhead, hsecond⟩ := h
  obtain ⟨c, hc, hseparator⟩ := Option.any_eq_true _ _ |>.mp hhead
  refine ⟨fun d hd => ?_, fun keyword hprefix => ?_⟩
  · rw [List.head?_append, hc, Option.some_or, Option.mem_some] at hd
    exact hd ▸ hseparator
  · have hnot := List.all_eq_true.mp hsecond keyword keyword.mem_all
    simp only [Bool.and_eq_true, Bool.not_eq_true', ← Bool.not_eq_true,
      List.isPrefixOf_iff_prefix] at hnot
    -- A keyword may be longer than the text; both ways round the test has refused it.
    rcases List.prefix_or_prefix_of_prefix hprefix (List.prefix_append text rest) with h | h
    · exact hnot.1 h
    · exact hnot.2 h

/-- A literal between names: no keyword begins in it, and it ends the name in front of it. -/
structure IsInert (literal : String) : Prop where
  /-- No keyword begins in it. -/
  closed : isClosed literal.toList = true
  /-- It ends names. -/
  opening : isOpening literal.toList = true

instance (literal : String) : Decidable (IsInert literal) :=
  decidable_of_iff (isClosed literal.toList = true ∧ isOpening literal.toList = true)
    ⟨fun h => ⟨h.1, h.2⟩, fun h => ⟨h.closed, h.opening⟩⟩

/-- Nothing can follow a name. -/
theorem isApart_nil : IsApart [] :=
  ⟨fun c hc => (by cases hc), fun _ h => List.cons_ne_nil _ _ (List.prefix_nil.mp h)⟩

/-- The clauses of a whole text. -/
theorem Yields.clausesOf_eq {text : String} {found : List Clause} (h : Yields text found) :
    clausesOf text.toList = found := by
  have hnil := h [] isApart_nil
  rwa [List.append_nil, clausesOf, List.append_nil] at hnil

/-- A name has no clauses. -/
theorem Yields.ofSolid {text : String} (h : IsSolid text.toList) : Yields text [] :=
  fun _ hrest => clausesOf_of_isSolid h hrest

/-- A literal in which no keyword begins has no clauses. -/
theorem Yields.ofLiteral {literal : String} (h : isClosed literal.toList = true) :
    Yields literal [] :=
  fun rest _ => clausesOf_of_isClosed h rest

/-- A literal in front adds no clauses. -/
theorem Yields.literal_append {literal text : String} {found : List Clause}
    (h : Yields text found) (hliteral : isClosed literal.toList = true) :
    Yields (literal ++ text) found := by
  intro rest hrest
  rw [String.toList_append, List.append_assoc, clausesOf_of_isClosed hliteral]
  exact h rest hrest

/-- A literal behind adds no clauses. -/
theorem Yields.append_literal {text literal : String} {found : List Clause}
    (h : Yields text found) (hliteral : IsInert literal) : Yields (text ++ literal) found := by
  intro rest _
  rw [String.toList_append, List.append_assoc, h _ (isApart_of_isOpening hliteral.opening rest),
    clausesOf_of_isClosed hliteral.closed]

/-- Texts of which the second can follow a name have the clauses of the one and of the other. -/
theorem Yields.append_of_isApart {text other : String} {found further : List Clause}
    (h : Yields text found) (hother : Yields other further)
    (hapart : ∀ rest, IsApart (other.toList ++ rest)) :
    Yields (text ++ other) (found ++ further) := by
  intro rest hrest
  rw [String.toList_append, List.append_assoc, h _ (hapart rest), hother rest hrest,
    List.append_assoc]

/-- Texts with a literal between them have the clauses of the one and of the other. -/
theorem Yields.append {text literal other : String} {found further : List Clause}
    (h : Yields text found) (hliteral : IsInert literal) (hother : Yields other further) :
    Yields (text ++ (literal ++ other)) (found ++ further) := by
  refine h.append_of_isApart (hother.literal_append hliteral.closed) fun rest => ?_
  rw [String.toList_append, List.append_assoc]
  exact isApart_of_isOpening hliteral.opening _

/-- Texts that a literal separates have the clauses of each, in order. -/
theorem Yields.intercalate {literal : String} (hliteral : IsInert literal) {texts : List String}
    {found : List (List Clause)} (h : List.Forall₂ Yields texts found) :
    Yields (literal.intercalate texts) found.flatten := by
  induction h with
  | nil => exact fun rest _ => rfl
  | @cons text clauses texts found hfirst hothers ih =>
    -- The literal stands only between two texts, so the last one is taken by itself.
    cases hothers with
    | nil =>
      rw [String.intercalate_singleton, List.flatten_singleton]
      exact hfirst
    | cons hsecond hmore =>
      rw [String.intercalate_cons_of_ne_nil (List.cons_ne_nil _ _), List.flatten_cons,
        String.append_assoc]
      exact hfirst.append hliteral ih

/-- Lines have the clauses of each, in order. -/
theorem Yields.ofLines {lines : List String} {found : List (List Clause)}
    (h : List.Forall₂ Yields lines found) : Yields (Text.ofLines lines) found.flatten :=
  Yields.intercalate (by decide) h

/-- A fragment that is moved to the right has the same clauses. -/
theorem Yields.indent {text : String} {found : List Clause} (h : Yields text found)
    (spaces : Nat) : Yields (Text.indent text spaces) found := by
  intro rest hrest
  rw [Text.indent, String.toList_ofList,
    clausesOf_indentChars (fun c hc => List.eq_of_mem_replicate hc)]
  exact h rest hrest

end DomainTables.Sql
