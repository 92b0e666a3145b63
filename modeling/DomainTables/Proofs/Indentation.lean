import DomainTables.Proofs.Steps
import DomainTables.Text.Lines

/-!
# Indentation, line by line

A text is its lines, with a line feed between them (`linesOf`). Moving a fragment to the right
leaves its first line as it is, and puts blanks in front of each further line that is not empty
(`linesOf_indent`). The lines are read off while going through the characters: a character belongs
to the first line of what is left, and a line feed begins a further one (`splitOn_indentChars`).

All else follows for lines: moving twice is moving by the sum (`indent_indent`), and nothing is
lost, since the blanks can be taken away again (`outdent?_indent`). Fragments are moved one by one
where the one in front does not end a line (`indent_append_of_getLast?`), so text in front of a
fragment, on its first line, does not take part (`indent_append`).
-/

namespace DomainTables.Text

/-! ## Lines -/

/-- The lines of a text. Even an empty text has one, which is empty. -/
def linesOf (text : String) : List (List Char) :=
  text.toList.splitOn '\n'

/-- A text is given by its lines. -/
theorem linesOf_inj {text other : String} : linesOf text = linesOf other ↔ text = other := by
  have hjoined : ∀ text : String, ['\n'].intercalate (linesOf text) = text.toList :=
    fun text => List.intercalate_splitOn '\n'
  constructor
  · intro h
    rw [← String.toList_inj, ← hjoined text, h, hjoined]
  · rintro rfl
    rfl

/-- A line feed begins a further line. -/
theorem splitOn_newline_cons (rest : List Char) :
    ('\n' :: rest).splitOn '\n' = [] :: rest.splitOn '\n' := by
  rw [List.splitOn_eq_splitOnP, List.splitOnP_cons_eq_if_modifyHead, if_pos (by decide),
    ← List.splitOn_eq_splitOnP]

/-- A character that is no line feed belongs to the first line. -/
theorem splitOn_cons_of_ne {c : Char} (hc : c ≠ '\n') (rest : List Char) :
    (c :: rest).splitOn '\n' = (rest.splitOn '\n').modifyHead (c :: ·) := by
  rw [List.splitOn_eq_splitOnP, List.splitOnP_cons_eq_if_modifyHead,
    if_neg (by rwa [beq_iff_eq]), ← List.splitOn_eq_splitOnP]

/-- Text without a line feed belongs to the first line. -/
theorem splitOn_append_of_notMem {front : List Char} (hfront : '\n' ∉ front) (rest : List Char) :
    (front ++ rest).splitOn '\n' = (rest.splitOn '\n').modifyHead (front ++ ·) := by
  induction front with
  | nil => rw [List.nil_append]; cases rest.splitOn '\n' <;> rfl
  | cons c more ih =>
    obtain ⟨hc, hmore⟩ := not_or.mp (List.mem_cons.not.mp hfront)
    rw [List.cons_append, splitOn_cons_of_ne (Ne.symm hc), ih hmore, List.modifyHead_modifyHead]
    rfl

/-! ## Moved lines -/

/-- A line with something in front of it. Empty lines stay empty. -/
def padded (pad line : List Char) : List Char :=
  if line = [] then [] else pad ++ line

/-- Only empty lines are empty with something in front. -/
theorem padded_eq_nil_iff {pad line : List Char} : padded pad line = [] ↔ line = [] := by
  unfold padded
  split <;> simp_all

/-- What is put in front last stands in front. -/
theorem padded_padded (pad other line : List Char) :
    padded other (padded pad line) = padded (other ++ pad) line := by
  by_cases h : line = []
  · simp [padded, h]
  · rw [padded, if_neg (padded_eq_nil_iff.not.mpr h), padded, if_neg h, padded, if_neg h,
      List.append_assoc]

/-- Changes the lines behind the first. -/
def mapFurther (f : List Char → List Char) : List (List Char) → List (List Char)
  | [] => []
  | first :: others => first :: others.map f

/-- All lines of an indented text are padded, the first one only if it is fresh. -/
theorem splitOn_indentChars {pad : List Char} (hpad : '\n' ∉ pad) (fresh : Bool)
    (text : List Char) :
    (indentChars pad fresh text).splitOn '\n' =
      if fresh then (text.splitOn '\n').map (padded pad)
      else mapFurther (padded pad) (text.splitOn '\n') := by
  -- Every line behind a line feed is fresh, so both cases are needed at once.
  induction text generalizing fresh with
  | nil => cases fresh <;> rfl
  | cons c rest ih =>
    by_cases hc : c = '\n'
    · subst hc
      have hindent : indentChars pad fresh ('\n' :: rest) = '\n' :: indentChars pad true rest := by
        simp [indentChars]
      rw [hindent, splitOn_newline_cons, splitOn_newline_cons, ih true, if_pos rfl]
      cases fresh <;> rfl
    · have hindent : indentChars pad fresh (c :: rest) =
          (if fresh then pad else []) ++ c :: indentChars pad false rest := by
        simp [indentChars, hc, beq_eq_false_iff_ne.mpr hc]
      have hfront : '\n' ∉ if fresh then pad else [] := by
        cases fresh
        · exact List.not_mem_nil
        · exact hpad
      obtain ⟨first, others, hlines⟩ :=
        List.exists_cons_of_ne_nil (List.splitOn_ne_nil '\n' rest)
      rw [hindent, splitOn_append_of_notMem hfront, splitOn_cons_of_ne hc, splitOn_cons_of_ne hc,
        ih false, hlines]
      cases fresh <;> rfl

/-- Moving a fragment puts blanks in front of its further lines. -/
theorem linesOf_indent (fragment : String) (spaces : Nat) :
    linesOf (indent fragment spaces) =
      mapFurther (padded (List.replicate spaces ' ')) (linesOf fragment) := by
  have hblanks : '\n' ∉ List.replicate spaces ' ' :=
    fun h => absurd (List.eq_of_mem_replicate h) (by decide)
  rw [linesOf, indent, String.toList_ofList, splitOn_indentChars hblanks]
  rfl

/-! ## Moving again, and back -/

/-- Moving twice is moving by the sum. -/
theorem indent_indent (fragment : String) (first second : Nat) :
    indent (indent fragment first) second = indent fragment (first + second) := by
  rw [← linesOf_inj, linesOf_indent, linesOf_indent, linesOf_indent, Nat.add_comm,
    List.replicate_add]
  cases linesOf fragment with
  | nil => rfl
  | cons line others =>
    simp only [mapFurther, List.map_map, Function.comp_def, padded_padded]

/-- A line without the given text in front, which it has to begin with. Empty lines stay empty. -/
def unpadded? (pad line : List Char) : Option (List Char) :=
  if line = [] then some [] else pad.isPrefixOf? line

/-- What was put in front of a line can be taken away. -/
theorem unpadded?_padded (pad line : List Char) : unpadded? pad (padded pad line) = some line := by
  unfold unpadded?
  split
  · next h => rw [padded_eq_nil_iff.mp h]
  · next h =>
    rw [List.isPrefixOf?_eq_some_iff_append_eq, padded, if_neg (padded_eq_nil_iff.not.mp h)]

/-- A fragment whose lines but the first are moved to the left, empty lines excepted. There is none
if one of these lines begins with fewer blanks. -/
def outdent? (fragment : String) (spaces : Nat) : Option String :=
  match linesOf fragment with
  | [] => none
  | first :: others => do
    let others ← others.mapM (unpadded? (List.replicate spaces ' '))
    return String.ofList (['\n'].intercalate (first :: others))

/-- A fragment that was moved to the right can be moved back. -/
theorem outdent?_indent (fragment : String) (spaces : Nat) :
    outdent? (indent fragment spaces) spaces = some fragment := by
  obtain ⟨first, others, hlines⟩ :=
    List.exists_cons_of_ne_nil (List.splitOn_ne_nil '\n' fragment.toList)
  have hothers : (others.map (padded (List.replicate spaces ' '))).mapM
      (unpadded? (List.replicate spaces ' ')) = some others :=
    mapM_some_iff.mpr (List.forall₂_map_left_iff.mpr
      (List.forall₂_same.mpr fun line _ => unpadded?_padded _ line))
  rw [outdent?, linesOf_indent, linesOf, hlines]
  simp only [mapFurther, hothers, Option.pure_def, Option.bind_eq_bind, Option.bind_some]
  rw [← hlines, List.intercalate_splitOn, String.ofList_toList]

/-! ## Fragments behind others -/

/-- What stands behind a text is indented as its last character leaves off. -/
theorem indentChars_append (pad : List Char) (fresh : Bool) (text rest : List Char) :
    indentChars pad fresh (text ++ rest) = indentChars pad fresh text ++
      indentChars pad ((text.getLast?.map (· == '\n')).getD fresh) rest := by
  induction text generalizing fresh with
  | nil => rfl
  | cons c more ih =>
    -- Whether a line begins is told by the last character, or before any by `fresh`.
    have hlast : (more.getLast?.map (· == '\n')).getD (c == '\n') =
        ((c :: more).getLast?.map (· == '\n')).getD fresh := by
      cases more with
      | nil => rfl
      | cons d others =>
        rw [List.getLast?_cons_cons, List.getLast?_eq_some_getLast (List.cons_ne_nil d others)]
        rfl
    rw [List.cons_append, indentChars, indentChars, ih, hlast, List.append_assoc, List.cons_append]

/-- A fragment that does not begin a line is moved by itself. -/
theorem indent_append_of_getLast? {text : String} (h : text.toList.getLast? ≠ some '\n')
    (fragment : String) (spaces : Nat) :
    indent (text ++ fragment) spaces = indent text spaces ++ indent fragment spaces := by
  have hfresh : (text.toList.getLast?.map (· == '\n')).getD false = false := by
    cases hlast : text.toList.getLast? with
    | none => rfl
    | some c =>
      rw [hlast] at h
      exact beq_eq_false_iff_ne.mpr fun hc => h (congrArg some hc)
  rw [indent, String.toList_append, indentChars_append, hfresh, String.ofList_append]
  rfl

/-- A text without a line feed stays as it is. -/
theorem indent_of_notMem {text : String} (h : '\n' ∉ text.toList) (spaces : Nat) :
    indent text spaces = text := by
  rw [← linesOf_inj, linesOf_indent, linesOf, List.splitOn_eq_singleton h]
  rfl

/-- Text without a line feed in front of a fragment does not take part. -/
theorem indent_append {text : String} (h : '\n' ∉ text.toList) (fragment : String)
    (spaces : Nat) : indent (text ++ fragment) spaces = text ++ indent fragment spaces := by
  rw [indent_append_of_getLast? fun hlast => h (List.mem_of_getLast? hlast), indent_of_notMem h]

/-! ## All together -/

/-- The second text has the lines of the first one, moved to the right. -/
structure IsMoved (text moved : String) : Prop where
  /-- There are as many lines. -/
  length : (linesOf moved).length = (linesOf text).length
  /-- The first line is the same. -/
  head : (linesOf moved).head? = (linesOf text).head?
  /-- The same lines are empty. -/
  empty : ∀ i : Nat, (linesOf moved)[i]? = some [] ↔ (linesOf text)[i]? = some []

/-- A fragment that is moved to the right has its lines moved. -/
theorem isMoved_indent (fragment : String) (spaces : Nat) :
    IsMoved fragment (indent fragment spaces) := by
  obtain ⟨first, others, hlines⟩ :=
    List.exists_cons_of_ne_nil (List.splitOn_ne_nil '\n' fragment.toList)
  -- Lines are only put further to the right, so their number and the empty ones stay.
  have hmoved : linesOf (indent fragment spaces) =
      first :: others.map (padded (List.replicate spaces ' ')) := by
    rw [linesOf_indent, linesOf, hlines]
    rfl
  constructor
  · rw [hmoved, linesOf, hlines, List.length_cons, List.length_cons, List.length_map]
  · rw [hmoved, linesOf, hlines]
    rfl
  · intro i
    rw [hmoved, linesOf, hlines]
    cases i with
    | zero => rfl
    | succ i =>
      simp only [List.getElem?_cons_succ, List.getElem?_map, Option.map_eq_some_iff,
        padded_eq_nil_iff, exists_eq_right]

/-- Indentation adds up, and none of it changes nothing. A moved fragment has the same first line
and as many lines as before, of which the same are empty, it can be moved back, so that only the
fragment itself is moved to where it is, and what stands in front of it on its first line does not
take part. -/
theorem indentation_adds_up (fragment : String) :
    (∀ first second, indent (indent fragment first) second = indent fragment (first + second)) ∧
    indent fragment 0 = fragment ∧
    ∀ spaces,
      IsMoved fragment (indent fragment spaces) ∧
      outdent? (indent fragment spaces) spaces = some fragment ∧
      (∀ other, indent other spaces = indent fragment spaces → other = fragment) ∧
      ∀ text : String, '\n' ∉ text.toList →
        indent (text ++ fragment) spaces = text ++ indent fragment spaces := by
  refine ⟨indent_indent fragment, indent_zero fragment, fun spaces =>
    ⟨isMoved_indent fragment spaces, outdent?_indent fragment spaces, fun other h => ?_,
      fun text htext => indent_append htext fragment spaces⟩⟩
  have hback : some other = some fragment := by
    rw [← outdent?_indent other spaces, h, outdent?_indent]
  exact Option.some.inj hback

/-- A subquery with an empty line in it, placed behind the opening of another one, is moved as it is
without the opening. -/
theorem indentation_adds_up_subquery :
    '\n' ∉ "  SELECT ".toList ∧
      indent ("  SELECT " ++ "(\n  SELECT 1\n\n)") 2 = "  SELECT (\n    SELECT 1\n\n  )" := by
  have hopening : '\n' ∉ "  SELECT ".toList := by decide
  obtain ⟨-, -, hmoved⟩ := indentation_adds_up "(\n  SELECT 1\n\n)"
  obtain ⟨-, -, -, happend⟩ := hmoved 2
  exact ⟨hopening, (happend "  SELECT " hopening).trans (by decide)⟩

end DomainTables.Text
