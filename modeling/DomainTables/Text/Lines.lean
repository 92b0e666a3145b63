/-!
# Fragments of several lines

Generated expressions are built from fragments that may run over several lines (`ofLines`). A
fragment placed inside another starts in the middle of a line, so only its further lines are
indented, and of those only the ones that are not empty (`indent`).
-/

namespace DomainTables.Text

/-- Lines as one text, with a line feed between them. -/
def ofLines (lines : List String) : String :=
  "\n".intercalate lines

/-- Writes `pad` in front of every line of a text that is not empty. The first line counts only if
`fresh` is set. -/
def indentChars (pad : List Char) (fresh : Bool) : List Char → List Char
  | [] => []
  | c :: rest =>
    (if fresh && c != '\n' then pad else []) ++ c :: indentChars pad (c == '\n') rest

/-- A fragment whose lines but the first are moved to the right, empty lines excepted. -/
def indent (fragment : String) (spaces : Nat) : String :=
  String.ofList (indentChars (List.replicate spaces ' ') false fragment.toList)

/-- Without anything to write in front of lines, a text stays as it is. -/
theorem indentChars_nil (fresh : Bool) (text : List Char) : indentChars [] fresh text = text := by
  induction text generalizing fresh with
  | nil => rfl
  | cons c rest ih => simp [indentChars, ih]

/-- Moving lines by nothing leaves the fragment as it is. -/
theorem indent_zero (fragment : String) : indent fragment 0 = fragment := by
  simp [indent, indentChars_nil]

end DomainTables.Text
