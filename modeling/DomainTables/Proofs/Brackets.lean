import Mathlib.Algebra.Group.Nat.Even
import Mathlib.Data.List.Count
import DomainTables.Text.Lines

/-!
# Nested brackets

The brackets of a text are nested if each is closed in its turn, by one of its own kind, and none is
open at the end. A machine that keeps the open brackets, the innermost first, tells (`openAfter?`).
Its run over a part of a text leads from the brackets that are open in front of the part to those
that are open behind it (`Spans`). Parts that follow one another lead from the first to the last
(`Spans.append`), and a part does the same inside further brackets (`Spans.frame`). So what a
template is filled with may have any brackets if these are nested in themselves
(`IsBracketed.between`), and only the literals of the template have to fit together.
-/

namespace DomainTables.Text

/-! ## Brackets -/

/-- The kinds of brackets. -/
inductive Bracket where
  /-- A parenthesis. -/
  | round
  /-- A square bracket. -/
  | square
  /-- A brace. -/
  | curly
deriving DecidableEq, Repr

/-- The kind of bracket that a character opens. -/
def Bracket.ofOpening? : Char → Option Bracket
  | '(' => some .round
  | '[' => some .square
  | '\x7b' => some .curly
  | _ => none

/-- The kind of bracket that a character closes. -/
def Bracket.ofClosing? : Char → Option Bracket
  | ')' => some .round
  | ']' => some .square
  | '\x7d' => some .curly
  | _ => none

/-- The brackets that are open behind a character, the innermost first, given those that are open in
front of it. A bracket that is not the innermost one cannot be closed. -/
def openAfter? (opened : List Bracket) (c : Char) : Option (List Bracket) :=
  match Bracket.ofOpening? c, Bracket.ofClosing? c, opened with
  | some kind, _, _ => some (kind :: opened)
  | none, none, _ => some opened
  | none, some _, [] => none
  | none, some kind, innermost :: others => if innermost = kind then some others else none

/-- A part of a text leads from the open brackets in front of it to those behind it, and its quotes
come in pairs. -/
structure Spans (before : List Bracket) (part : String) (after : List Bracket) : Prop where
  /-- Each bracket is closed in its turn. -/
  brackets : part.toList.foldlM openAfter? before = some after
  /-- The quotes are even in number. -/
  quotes : Even (part.toList.count '\'')

instance (before : List Bracket) (part : String) (after : List Bracket) :
    Decidable (Spans before part after) :=
  decidable_of_iff (part.toList.foldlM openAfter? before = some after ∧
      Even (part.toList.count '\''))
    ⟨fun h => ⟨h.1, h.2⟩, fun h => ⟨h.brackets, h.quotes⟩⟩

/-- A text is well bracketed: its brackets are nested, and its quotes come in pairs. -/
def IsBracketed (text : String) : Prop :=
  Spans [] text []

instance (text : String) : Decidable (IsBracketed text) :=
  inferInstanceAs (Decidable (Spans [] text []))

/-! ## Texts without brackets -/

/-- The brackets and the quote. -/
def delimiters : List Char :=
  ['(', ')', '[', ']', '\x7b', '\x7d', '\'']

/-- A text without brackets and quotes. -/
def IsUndelimited (text : String) : Prop :=
  ∀ c ∈ text.toList, c ∉ delimiters

instance (text : String) : Decidable (IsUndelimited text) :=
  List.decidableBAll (fun c => c ∉ delimiters) text.toList

/-- Texts without brackets and quotes have none together. -/
theorem IsUndelimited.append {text other : String} (h : IsUndelimited text)
    (hother : IsUndelimited other) : IsUndelimited (text ++ other) := by
  rw [IsUndelimited, String.toList_append]
  exact List.forall_mem_append.mpr ⟨h, hother⟩

/-- A character that is no bracket opens and closes nothing. -/
theorem openAfter?_of_notMem {c : Char} (h : c ∉ delimiters) (opened : List Bracket) :
    openAfter? opened c = some opened := by
  have hopening : Bracket.ofOpening? c = none := by
    unfold Bracket.ofOpening?
    split <;> first | rfl | exact absurd (by decide) h
  have hclosing : Bracket.ofClosing? c = none := by
    unfold Bracket.ofClosing?
    split <;> first | rfl | exact absurd (by decide) h
  unfold openAfter?
  rw [hopening, hclosing]

/-- Characters that are no brackets leave open what is open. -/
theorem foldlM_openAfter?_of_notMem {text : List Char} (h : ∀ c ∈ text, c ∉ delimiters)
    (opened : List Bracket) : text.foldlM openAfter? opened = some opened := by
  induction text with
  | nil => rfl
  | cons c rest ih =>
    obtain ⟨hc, hrest⟩ := List.forall_mem_cons.mp h
    rw [List.foldlM_cons, openAfter?_of_notMem hc]
    exact ih hrest

/-- A text without brackets and quotes is well bracketed. -/
theorem IsUndelimited.isBracketed {text : String} (h : IsUndelimited text) :
    IsBracketed text := by
  refine ⟨foldlM_openAfter?_of_notMem h [], ?_⟩
  rw [List.count_eq_zero.mpr fun hmem => h _ hmem (by decide)]
  exact Even.zero

/-- A text without brackets and quotes can be quoted. -/
theorem IsUndelimited.quoted {text : String} (h : IsUndelimited text) :
    IsBracketed ("'" ++ text ++ "'") := by
  constructor
  · rw [String.toList_append, String.toList_append, List.foldlM_append, List.foldlM_append,
      show "'".toList.foldlM openAfter? [] = some [] from rfl, Option.bind_eq_bind,
      Option.bind_some, foldlM_openAfter?_of_notMem h]
    rfl
  · rw [String.toList_append, String.toList_append, List.count_append, List.count_append,
      List.count_eq_zero.mpr fun hmem => h _ hmem (by decide)]
    decide

/-! ## Parts -/

section

variable {before between after : List Bracket} {part other : String}

/-- One part behind another leads from where the first begins to where the second ends. -/
theorem Spans.append (h : Spans before part between) (hother : Spans between other after) :
    Spans before (part ++ other) after := by
  constructor
  · rw [String.toList_append, List.foldlM_append, h.brackets]
    exact hother.brackets
  · rw [String.toList_append, List.count_append]
    exact h.quotes.add hother.quotes

/-- A character does the same inside other brackets. -/
theorem openAfter?_append {opened found : List Bracket} {c : Char}
    (h : openAfter? opened c = some found) (outer : List Bracket) :
    openAfter? (opened ++ outer) c = some (found ++ outer) := by
  unfold openAfter? at h ⊢
  cases hopening : Bracket.ofOpening? c with
  | some kind =>
    rw [hopening] at h
    cases h
    rfl
  | none =>
    rw [hopening] at h
    cases hclosing : Bracket.ofClosing? c with
    | none =>
      rw [hclosing] at h
      cases h
      rfl
    | some kind =>
      rw [hclosing] at h
      -- Nothing open would let the bracket close one of the outer; that is ruled out by `h`.
      cases opened with
      | nil => cases h
      | cons innermost others =>
        simp only [List.cons_append, Option.ite_none_right_eq_some, Option.some.injEq] at h ⊢
        exact ⟨h.1, congrArg (· ++ outer) h.2⟩

/-- Characters do the same inside other brackets. -/
theorem foldlM_openAfter?_append {text : List Char}
    (h : text.foldlM openAfter? before = some after) (outer : List Bracket) :
    text.foldlM openAfter? (before ++ outer) = some (after ++ outer) := by
  induction text generalizing before with
  | nil =>
    cases h
    rfl
  | cons c rest ih =>
    rw [List.foldlM_cons] at h ⊢
    obtain ⟨found, hfound, hrest⟩ := Option.bind_eq_some_iff.mp h
    rw [openAfter?_append hfound outer]
    exact ih hrest

/-- A part does the same inside other brackets. -/
theorem Spans.frame (h : Spans before part after) (outer : List Bracket) :
    Spans (before ++ outer) part (after ++ outer) :=
  ⟨foldlM_openAfter?_append h.brackets outer, h.quotes⟩

end

/-- A well bracketed text leaves any open brackets as they are. -/
theorem IsBracketed.spans {text : String} (h : IsBracketed text) (opened : List Bracket) :
    Spans opened text opened :=
  Spans.frame h opened

/-- Well bracketed texts are so together. -/
theorem IsBracketed.append {text other : String} (h : IsBracketed text)
    (hother : IsBracketed other) : IsBracketed (text ++ other) :=
  Spans.append h hother

/-- A text between the two ends of a template is well bracketed if the ends are. -/
theorem IsBracketed.between {text front back : String} {opened : List Bracket}
    (h : IsBracketed text) (hfront : Spans [] front opened) (hback : Spans opened back []) :
    IsBracketed (front ++ text ++ back) :=
  (hfront.append (h.spans opened)).append hback

/-! ## Lines -/

/-- Parts lead one after another from open brackets to open brackets. -/
inductive SpansAll : List Bracket → List String → List Bracket → Prop where
  /-- Without parts nothing changes. -/
  | nil {opened : List Bracket} : SpansAll opened [] opened
  /-- Each part begins where the one in front of it ends. -/
  | cons {before between after : List Bracket} {part : String} {rest : List String} :
      Spans before part between → SpansAll between rest after →
      SpansAll before (part :: rest) after

/-- Parts with a well bracketed text between them lead from where the first begins to where the last
ends. -/
theorem SpansAll.intercalate {separator : String} (hseparator : IsBracketed separator)
    {before after : List Bracket} {parts : List String} (h : SpansAll before parts after) :
    Spans before (separator.intercalate parts) after := by
  induction h with
  | nil => exact (show IsBracketed "" by decide).spans _
  | @cons before between after part rest hpart hrest ih =>
    -- The separator stands only between two parts, so the last one is taken by itself.
    cases hrest with
    | nil =>
      rw [String.intercalate_singleton]
      exact hpart
    | cons hnext hmore =>
      rw [String.intercalate_cons_of_ne_nil (List.cons_ne_nil _ _)]
      exact (hpart.append (hseparator.spans between)).append ih

/-- Lines lead from where the first begins to where the last ends. -/
theorem SpansAll.ofLines {before after : List Bracket} {lines : List String}
    (h : SpansAll before lines after) : Spans before (ofLines lines) after :=
  h.intercalate (by decide)

/-- Well bracketed parts leave open what is open. -/
theorem SpansAll.of_forall {parts : List String} (h : ∀ part ∈ parts, IsBracketed part)
    (opened : List Bracket) : SpansAll opened parts opened := by
  induction parts with
  | nil => exact .nil
  | cons part rest ih =>
    obtain ⟨hpart, hrest⟩ := List.forall_mem_cons.mp h
    exact .cons (hpart.spans opened) (ih hrest)

/-! ## Indentation -/

section

variable {pad : List Char} (hpad : ∀ c ∈ pad, c = ' ')

include hpad

/-- Blanks in front of lines open and close nothing. -/
theorem foldlM_openAfter?_indentChars (fresh : Bool) (text : List Char) (opened : List Bracket) :
    (indentChars pad fresh text).foldlM openAfter? opened = text.foldlM openAfter? opened := by
  induction text generalizing fresh opened with
  | nil => rfl
  | cons c rest ih =>
    -- Either nothing is put in front of the character, or blanks only.
    have hblanks : ∀ b ∈ (if fresh && c != '\n' then pad else []), b ∉ delimiters := by
      split
      · intro b hb
        rw [hpad b hb]
        decide
      · exact List.forall_mem_nil _
    rw [indentChars, List.foldlM_append, foldlM_openAfter?_of_notMem hblanks, Option.bind_eq_bind,
      Option.bind_some, List.foldlM_cons, List.foldlM_cons]
    exact bind_congr fun found => ih (c == '\n') found

/-- Blanks in front of lines are no quotes. -/
theorem count_quote_indentChars (fresh : Bool) (text : List Char) :
    (indentChars pad fresh text).count '\'' = text.count '\'' := by
  induction text generalizing fresh with
  | nil => rfl
  | cons c rest ih =>
    have hblanks : (if fresh && c != '\n' then pad else []).count '\'' = 0 := by
      rw [List.count_eq_zero]
      split
      · intro hmem
        exact absurd (hpad _ hmem) (by decide)
      · exact List.not_mem_nil
    rw [indentChars, List.count_append, hblanks, Nat.zero_add, List.count_cons, List.count_cons,
      ih]

end

/-- A fragment that is moved to the right leads where it did. -/
theorem Spans.indent {before after : List Bracket} {part : String} (h : Spans before part after)
    (spaces : Nat) : Spans before (Text.indent part spaces) after := by
  have hpad : ∀ c ∈ List.replicate spaces ' ', c = ' ' := fun c hc => List.eq_of_mem_replicate hc
  constructor
  · rw [Text.indent, String.toList_ofList, foldlM_openAfter?_indentChars hpad]
    exact h.brackets
  · rw [Text.indent, String.toList_ofList, count_quote_indentChars hpad]
    exact h.quotes

end DomainTables.Text
