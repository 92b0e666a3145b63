/-!
# Dependencies between domain objects

Which domain objects refer to which others is kept as a table from names to sets of names. Both the
table and the sets are lists in ascending order without repetition, so that equal dependencies are
equal lists, whatever order they were found in. Names are ordered by code points.
-/

namespace DomainTables

/-- Puts a name into an ascending list of names, unless it is there already. -/
def insertName (name : String) : List String → List String
  | [] => [name]
  | other :: rest =>
    if name < other then name :: other :: rest
    else if name = other then other :: rest
    else other :: insertName name rest

/-- Inserting a name adds that name, and no other. -/
theorem mem_insertName {name other : String} {names : List String} :
    other ∈ insertName name names ↔ other = name ∨ other ∈ names := by
  induction names with
  | nil => simp [insertName]
  | cons first rest ih =>
    rw [insertName]
    split
    · simp
    · split
      · next equal => simp [equal]
      · simp only [List.mem_cons, ih]
        exact or_left_comm

/-- The names of a list, each once, in ascending order. -/
def sortedNames (names : List String) : List String :=
  names.foldr insertName []

/-- Sorting a list of names keeps its members. -/
theorem mem_sortedNames {name : String} {names : List String} :
    name ∈ sortedNames names ↔ name ∈ names := by
  induction names with
  | nil => simp [sortedNames]
  | cons first rest ih =>
    rw [sortedNames, List.foldr_cons, mem_insertName, List.mem_cons]
    exact or_congr_right ih

/-- Each name with the names it depends on, in ascending order throughout. -/
abbrev Dependencies := List (String × List String)

namespace Dependencies

/-- Puts an entry into a table, in the place of an earlier one for the same name. -/
def insert (entry : String × List String) : Dependencies → Dependencies
  | [] => [entry]
  | other :: rest =>
    if entry.1 < other.1 then entry :: other :: rest
    else if entry.1 = other.1 then entry :: rest
    else other :: Dependencies.insert entry rest

/-- The table of a list of entries, of which later ones win. -/
def ofEntries (entries : List (String × List String)) : Dependencies :=
  entries.foldl (fun table entry => table.insert (entry.1, sortedNames entry.2)) []

/-- The names of the table, in ascending order. -/
def names (table : Dependencies) : List String :=
  table.map (·.1)

/-- The table as messages show it. -/
def display (table : Dependencies) : String :=
  ", ".intercalate (table.map fun entry => entry.1 ++ ": [" ++ ", ".intercalate entry.2 ++ "]")

end Dependencies

end DomainTables
