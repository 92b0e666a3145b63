import DomainTables.Proofs.Indentation
import DomainTables.Proofs.Nesting
import DomainTables.Proofs.TableNames

/-!
# Names in client code

Client code that stores nested objects on the spot binds names of its own: that of the value inside
an optional value, that of the rows it collects, and that of each element of a list. Some of them
are made of the names of properties and objects, while the database and the collected rows always go
by the same names.

To tell what a name stands for, the code is put together as a tree (`Client.argumentCode`), whose
text is the text that is generated (`Client.argument_eq_render`). A name stands for the innermost
binding around it that has the name, and for something outside of the code if there is none
(`Client.denotes`). The tree is followed with the bindings around each of its parts to see whether
the database is always something outside, and the rows are always those that are collected there
(`Client.Code.KeepsNames`). This is so unless the value inside an optional value, or an element,
goes by the name of the database, or an element by that of the rows
(`Client.keepsNames_iff_not_captures`).
-/

namespace DomainTables.Client

/-! ## Code -/

/-- A piece of client code. -/
inductive Code where
  /-- A name. -/
  | named (name : String)
  /-- A field of a value. -/
  | field (value : Code) (name : String)
  /-- A reference to a value. -/
  | borrowed (value : Code)
  /-- No value, where there may be one. -/
  | nothing
  /-- A value, where there may be none. -/
  | just (value : Code)
  /-- The number of the row in which `function` stores a value, in the database named `handle`. -/
  | store (function handle : String) (value : Code)
  /-- What an optional value yields: `whenPresent`, in which the value inside it is named `present`,
  or `whenMissing`. The flag tells which of the two is written first. -/
  | choose (value : Code) (present : String) (whenPresent whenMissing : Code) (missingFirst : Bool)
  /-- What each element of a list yields, collected under the name `results`, with room for as many
  as there are in `sized`. -/
  | collect (results element : String) (sized list each : Code)
deriving DecidableEq, Repr

namespace Code

/-- The text of a piece of code. -/
def render : Code → String
  | .named name => name
  | .field value name => value.render ++ "." ++ name
  | .borrowed value => "&" ++ value.render
  | .nothing => "None"
  | .just value => "Some(" ++ value.render ++ ")"
  | .store function handle value =>
    function ++ "(" ++ handle ++ ", " ++ value.render ++ ").await?"
  | .choose value present whenPresent whenMissing missingFirst =>
    let presentArm := "    Some(" ++ present ++ ") => " ++ Text.indent whenPresent.render 4 ++ ","
    let missingArm := "    None => " ++ Text.indent whenMissing.render 4 ++ ","
    Text.ofLines (["match " ++ value.render ++ " \x7b"] ++
      (if missingFirst then [missingArm, presentArm] else [presentArm, missingArm]) ++ ["\x7d"])
  | .collect results element sized list each =>
    Text.ofLines [
      "\x7b",
      "    let mut " ++ results ++ " = Vec::with_capacity(" ++ sized.render ++ ".len());",
      "    for " ++ element ++ " in " ++ list.render ++ " \x7b",
      "        " ++ results ++ ".push(" ++ Text.indent each.render 8 ++ ");",
      "    \x7d",
      "    " ++ results,
      "\x7d"]

/-- A reference to a value, which may be one already. -/
def borrow (value : Code) (isBorrowed : Bool) : Code :=
  if isBorrowed then value else .borrowed value

/-- The number of the row of a nested object, which is stored if it has none. -/
def row (value : Code) (isBorrowed : Bool) (upsert : String) : Code :=
  .choose (.field value "id") "id" (.named "id") (.store upsert "db" (value.borrow isBorrowed))
    false

/-- The numbers of the rows of a list of nested objects. -/
def rows (value : Code) (isBorrowed : Bool) (element upsert : String) : Code :=
  .collect "ids" element value (value.borrow isBorrowed) ((named element).row true upsert)

/-- The number of the row of a nested object, or the numbers for a list of them. -/
def rowsOf (target : Relationship) (isArray : Bool) (value : Code) (isBorrowed : Bool) : Code :=
  if isArray then value.rows isBorrowed (Text.snakeCase target.domainObject)
    ("upsert_" ++ target.table)
  else value.row isBorrowed ("upsert_" ++ target.table)

end Code

/-- The value of a property of the object `owner`. -/
def Context.code (context : Context) (owner field : String) : Code :=
  match context with
  | .upsert => .field (.named (Text.snakeCase owner)) field
  | .find => .named field

/-- The code that binds a column of the object `owner`, where the column nests `target`. -/
def argumentCode (target : Relationship) (owner : String) (mapping : ColumnMapping)
    (context : Context) : Code :=
  let field := Text.snakeCase mapping.domainName
  let value := context.code owner field
  let rows := Code.rowsOf target mapping.column.isArray
  if mapping.column.isNullable then
    .choose (.borrowed value) field (.just (rows (.named field) true)) .nothing true
  else rows value false

/-! ## The text of the code -/

namespace Code

/-- A reference is written as one. -/
theorem render_borrow (value : Code) (isBorrowed : Bool) :
    (value.borrow isBorrowed).render = Client.borrow value.render isBorrowed := by
  cases isBorrowed <;> rfl

/-- The number of a row is written as it is generated. -/
theorem render_row {value : Code} {upsert : String} (hvalue : '\n' ∉ value.render.toList)
    (hupsert : '\n' ∉ upsert.toList) (isBorrowed : Bool) :
    (value.row isBorrowed upsert).render = storedId value.render isBorrowed upsert := by
  have hstore : '\n' ∉ (upsert ++ "(" ++ "db" ++ ", " ++ Client.borrow value.render isBorrowed ++
      ").await?").toList := by
    cases isBorrowed <;> simp [Client.borrow, hvalue, hupsert]
  have hid : Text.indent "id" 4 = "id" := by decide
  rw [← String.toList_inj]
  simp only [row, render, render_borrow, hid, Text.indent_of_notMem hstore, storedId]
  simp [Text.ofLines, String.toList_append]

/-- The numbers of rows are written as they are generated. -/
theorem render_rows {element upsert : String} (helement : '\n' ∉ element.toList)
    (hupsert : '\n' ∉ upsert.toList) (value : Code) (isBorrowed : Bool) :
    (value.rows isBorrowed element upsert).render =
      storedIds value.render isBorrowed element upsert := by
  have heach : ((named element).row true upsert).render = storedId element true upsert :=
    @render_row (named element) upsert helement hupsert true
  rw [← String.toList_inj]
  simp only [rows, render, render_borrow, heach, storedIds]
  simp [Text.ofLines, String.toList_append]

/-- One number or several are written as they are generated. -/
theorem render_rowsOf {target : Relationship} (htarget : '\n' ∉ target.table.toList)
    {value : Code} (hvalue : '\n' ∉ value.render.toList) (isArray isBorrowed : Bool) :
    (rowsOf target isArray value isBorrowed).render =
      storedRows target isArray value.render isBorrowed := by
  have htable : '\n' ∉ ("upsert_" ++ target.table).toList := by simp [htarget]
  have helement : '\n' ∉ (Text.snakeCase target.domainObject).toList :=
    Text.mark_notMem_snakeCase (by decide) (by decide) target.domainObject
  cases isArray with
  | true => exact render_rows helement htable value isBorrowed
  | false => exact render_row hvalue htable isBorrowed

end Code

/-- One number or several end with a bracket. -/
theorem getLast?_storedRows (target : Relationship) (isArray : Bool) (value : String)
    (isBorrowed : Bool) :
    (storedRows target isArray value isBorrowed).toList.getLast? = some '\x7d' := by
  have hclosed : ∃ front, storedRows target isArray value isBorrowed = front ++ "\x7d" := by
    cases isArray <;> exact ⟨_, rfl⟩
  obtain ⟨front, hfront⟩ := hclosed
  rw [hfront, String.toList_append]
  exact List.getLast?_concat

/-- What an optional value yields is written as it is generated. -/
theorem render_choose {someCase : Code} (h : someCase.render.toList.getLast? ≠ some '\n')
    (value : Code) (field : String) :
    (Code.choose (.borrowed value) field (.just someCase) .nothing true).render =
      whereSome value.render field someCase.render := by
  -- The brackets around the result stand on its first and its last line.
  have hjust : Text.indent ("Some(" ++ someCase.render ++ ")") 4 =
      "Some(" ++ Text.indent someCase.render 4 ++ ")" := by
    rw [String.append_assoc, Text.indent_append (by decide), Text.indent_append_of_getLast? h,
      String.append_assoc]
    rfl
  have hnone : Text.indent "None" 4 = "None" := by decide
  rw [← String.toList_inj]
  simp only [Code.render, hjust, hnone, whereSome]
  simp [Text.ofLines, String.toList_append]

/-- The value of a property is written as it is generated. -/
theorem render_code (context : Context) (owner field : String) :
    (context.code owner field).render = context.value owner field := by
  cases context <;> rfl

/-- What client code binds for a column is the text of its code. -/
theorem argument_eq_render {relationships : Relationships} {mapping : ColumnMapping}
    {reference : ColumnReference} (hdirect : mapping.directReference? = some reference)
    {target : Relationship} (hget : relationships.get reference.target.name = .ok target)
    (htarget : '\n' ∉ target.table.toList) (owner : String) (context : Context) :
    argument relationships owner mapping context =
      .ok (argumentCode target owner mapping context).render := by
  have hsnake : ∀ name, '\n' ∉ (Text.snakeCase name).toList :=
    fun name => Text.mark_notMem_snakeCase (by decide) (by decide) name
  have hvalue : '\n' ∉ (context.code owner (Text.snakeCase mapping.domainName)).render.toList := by
    cases context <;> simp [Context.code, Code.render, hsnake]
  have hfield : '\n' ∉ (Code.named (Text.snakeCase mapping.domainName)).render.toList :=
    hsnake mapping.domainName
  -- What is put between brackets must not end with a line feed, or the last one would be indented.
  have hlast : (Code.rowsOf target mapping.column.isArray
      (.named (Text.snakeCase mapping.domainName)) true).render.toList.getLast? ≠ some '\n' := by
    rw [Code.render_rowsOf htarget hfield, getLast?_storedRows]
    decide
  unfold argument
  rw [hdirect]
  simp only [hget, argumentCode]
  cases mapping.column.isNullable with
  | true =>
    rw [if_pos rfl, render_choose hlast, Code.render_rowsOf htarget hfield, render_code]
    rfl
  | false =>
    rw [if_neg Bool.false_ne_true, Code.render_rowsOf htarget hvalue, render_code]
    rfl

/-! ## What names stand for -/

/-- A name that code binds. -/
inductive Binding where
  /-- The value inside an optional value. -/
  | present (name : String)
  /-- The rows that are collected. -/
  | results (name : String)
  /-- The element of a list. -/
  | element (name : String)
deriving DecidableEq, Repr

/-- The name itself. -/
def Binding.name : Binding → String
  | .present name => name
  | .results name => name
  | .element name => name

/-- The binding that a name stands for among those around it, the innermost first. A name without
one stands for something outside of the code. -/
def denotes (scope : List Binding) (name : String) : Option Binding :=
  scope.find? fun binding => binding.name == name

/-- A name stands for the innermost binding if that has the name, and else for what it stands for
further out. -/
theorem denotes_cons (binding : Binding) (scope : List Binding) (name : String) :
    denotes (binding :: scope) name =
      if binding.name = name then some binding else denotes scope name := by
  rw [denotes, List.find?_cons]
  split
  · next h => rw [if_pos (eq_of_beq h)]
  · next h =>
    rw [if_neg (ne_of_beq_false h)]
    rfl

namespace Code

/-- The names that a piece of code binds. -/
def bindings : Code → List Binding
  | .named _ => []
  | .field value _ => value.bindings
  | .borrowed value => value.bindings
  | .nothing => []
  | .just value => value.bindings
  | .store _ _ value => value.bindings
  | .choose value present whenPresent whenMissing _ =>
    value.bindings ++ .present present :: (whenPresent.bindings ++ whenMissing.bindings)
  | .collect results element sized list each =>
    sized.bindings ++ .results results :: (list.bindings ++ .element element :: each.bindings)

/-- Inside the given bindings, wherever something is stored the name of the database stands for
something outside of the code, and wherever a row is added to collected ones their name stands for
these. -/
def KeepsNames (scope : List Binding) : Code → Prop
  | .named _ => True
  | .field value _ => value.KeepsNames scope
  | .borrowed value => value.KeepsNames scope
  | .nothing => True
  | .just value => value.KeepsNames scope
  | .store _ handle value => denotes scope handle = none ∧ value.KeepsNames scope
  -- The value inside is there for the one result only, and the value itself is outside of it.
  | .choose value present whenPresent whenMissing _ =>
    value.KeepsNames scope ∧ whenPresent.KeepsNames (.present present :: scope) ∧
      whenMissing.KeepsNames scope
  -- The rows are there from the loop on, and each element for what is added for it.
  | .collect results element sized list each =>
    sized.KeepsNames scope ∧ list.KeepsNames (.results results :: scope) ∧
      denotes (.element element :: .results results :: scope) results = some (.results results) ∧
      each.KeepsNames (.element element :: .results results :: scope)

/-- Whether names are kept apart can be decided. -/
def decidableKeepsNames : (code : Code) → (scope : List Binding) →
    Decidable (code.KeepsNames scope)
  | .named _, _ => .isTrue trivial
  | .field value _, scope => decidableKeepsNames value scope
  | .borrowed value, scope => decidableKeepsNames value scope
  | .nothing, _ => .isTrue trivial
  | .just value, scope => decidableKeepsNames value scope
  | .store _ _ value, scope =>
    have := decidableKeepsNames value scope
    inferInstanceAs (Decidable (_ ∧ _))
  | .choose value present whenPresent whenMissing _, scope =>
    have := decidableKeepsNames value scope
    have := decidableKeepsNames whenPresent (.present present :: scope)
    have := decidableKeepsNames whenMissing scope
    inferInstanceAs (Decidable (_ ∧ _ ∧ _))
  | .collect results element sized list each, scope =>
    have := decidableKeepsNames sized scope
    have := decidableKeepsNames list (.results results :: scope)
    have := decidableKeepsNames each (.element element :: .results results :: scope)
    inferInstanceAs (Decidable (_ ∧ _ ∧ _ ∧ _))

instance (code : Code) (scope : List Binding) : Decidable (code.KeepsNames scope) :=
  decidableKeepsNames code scope

section

variable (scope : List Binding) {value : Code} (hvalue : ∀ scope, value.KeepsNames scope)
  (isBorrowed : Bool) (element upsert : String)

include hvalue

/-- A reference to a value keeps names apart if the value does. -/
theorem keepsNames_borrow : (value.borrow isBorrowed).KeepsNames scope := by
  cases isBorrowed <;> exact hvalue scope

/-- The number of a row is found apart from other names where the database is outside. -/
theorem keepsNames_row_iff :
    (value.row isBorrowed upsert).KeepsNames scope ↔ denotes scope "db" = none := by
  simp only [row, KeepsNames, hvalue scope, keepsNames_borrow scope hvalue, true_and, and_true]

/-- The numbers of rows are collected apart from other names where the database is outside, if an
element has another name than the database and the rows. -/
theorem keepsNames_rows_iff :
    (value.rows isBorrowed element upsert).KeepsNames scope ↔
      denotes scope "db" = none ∧ element ≠ "db" ∧ element ≠ "ids" := by
  have heach := @keepsNames_row_iff (.element element :: .results "ids" :: scope) (named element)
    (fun _ => trivial) true upsert
  simp only [rows, KeepsNames, hvalue scope, keepsNames_borrow _ hvalue, true_and, heach,
    denotes_cons, Binding.name]
  -- The element is the innermost binding, so it hides the rows or the database under their name.
  by_cases hids : element = "ids"
  · simp [hids]
  · by_cases hdb : element = "db"
    · simp [hdb]
    · simp [hids, hdb]

/-- The number of a row, or the numbers for a list, are found apart from other names where the
database is outside, if the elements of a list have another name than the database and the rows. -/
theorem keepsNames_rowsOf_iff (target : Relationship) (isArray : Bool) :
    (rowsOf target isArray value isBorrowed).KeepsNames scope ↔
      denotes scope "db" = none ∧ (isArray = true →
        Text.snakeCase target.domainObject ≠ "db" ∧
          Text.snakeCase target.domainObject ≠ "ids") := by
  cases isArray with
  | true => simpa [rowsOf] using keepsNames_rows_iff scope hvalue isBorrowed _ _
  | false => simpa [rowsOf] using keepsNames_row_iff scope hvalue isBorrowed _

omit hvalue in
/-- A reference to a value binds what the value binds. -/
theorem bindings_borrow : (value.borrow isBorrowed).bindings = value.bindings := by
  cases isBorrowed <;> rfl

omit hvalue in
/-- The number of a row, or the numbers for a list, bind the same names whatever the value is. -/
theorem bindings_rowsOf (target : Relationship) (isArray : Bool) (hvalue : value.bindings = []) :
    (rowsOf target isArray value isBorrowed).bindings =
      (if isArray then [.results "ids", .element (Text.snakeCase target.domainObject)] else []) ++
        [.present "id"] := by
  cases isArray <;> simp [rowsOf, row, rows, bindings, bindings_borrow, hvalue]

end

/-- None of the names that the code binds is that of the database, and no element has the name of
the rows. -/
structure BindsApart (code : Code) : Prop where
  /-- The database has a name of its own. -/
  database : ∀ binding ∈ code.bindings, binding.name ≠ "db"
  /-- The rows are not named like an element. -/
  results : ∀ name, .element name ∈ code.bindings → name ≠ "ids"

end Code

/-! ## Names that are captured -/

/-- The code for a column that nests `target` binds a name that it uses otherwise. -/
inductive Captures (mapping : ColumnMapping) (target : Relationship) : Prop where
  /-- The value of a nullable property goes by the name of the database. -/
  | present : mapping.column.isNullable = true → Text.words mapping.domainName = ["db"] →
      Captures mapping target
  /-- The elements of a list go by the name of the database. -/
  | element : mapping.column.isArray = true → Text.words target.domainObject = ["db"] →
      Captures mapping target
  /-- The elements of a list go by the name of the rows that are collected for them. -/
  | results : mapping.column.isArray = true → Text.words target.domainObject = ["ids"] →
      Captures mapping target

/-- What a name has to be spelled from to be that of the database, and that of the rows. -/
theorem snakeCase_eq_fixed_iff (name : String) :
    (Text.snakeCase name = "db" ↔ Text.words name = ["db"]) ∧
      (Text.snakeCase name = "ids" ↔ Text.words name = ["ids"]) := by
  have hdatabase : Text.snakeCase "db" = "db" ∧ Text.words "db" = ["db"] := by decide
  have hrows : Text.snakeCase "ids" = "ids" ∧ Text.words "ids" = ["ids"] := by decide
  constructor
  · rw [← hdatabase.2, ← Text.snakeCase_eq_iff, hdatabase.1]
  · rw [← hrows.2, ← Text.snakeCase_eq_iff, hrows.1]

section

variable (mapping : ColumnMapping) (target : Relationship) (owner : String) (context : Context)

/-- Nothing is captured if the names that are bound are not those that are used otherwise. -/
theorem not_captures_iff : ¬ Captures mapping target ↔
    (mapping.column.isNullable = true → Text.snakeCase mapping.domainName ≠ "db") ∧
      (mapping.column.isArray = true →
        Text.snakeCase target.domainObject ≠ "db" ∧
          Text.snakeCase target.domainObject ≠ "ids") := by
  simp only [Ne, (snakeCase_eq_fixed_iff _).1, (snakeCase_eq_fixed_iff _).2]
  constructor
  · exact fun h => ⟨fun hnullable hwords => h (.present hnullable hwords),
      fun harray => ⟨fun hwords => h (.element harray hwords),
        fun hwords => h (.results harray hwords)⟩⟩
  · rintro ⟨hpresent, helement⟩ (⟨hnullable, hwords⟩ | ⟨harray, hwords⟩ | ⟨harray, hwords⟩)
    · exact hpresent hnullable hwords
    · exact (helement harray).1 hwords
    · exact (helement harray).2 hwords

/-- The code keeps names apart if nothing is captured. -/
theorem keepsNames_argumentCode_iff :
    (argumentCode target owner mapping context).KeepsNames [] ↔ ¬ Captures mapping target := by
  have hvalue : ∀ scope,
      (context.code owner (Text.snakeCase mapping.domainName)).KeepsNames scope :=
    fun scope => by cases context <;> trivial
  have hfield : ∀ scope, (Code.named (Text.snakeCase mapping.domainName)).KeepsNames scope :=
    fun scope => trivial
  rw [not_captures_iff, argumentCode]
  cases mapping.column.isNullable with
  | true =>
    rw [if_pos rfl]
    simp only [Code.KeepsNames, hvalue [], Code.keepsNames_rowsOf_iff _ hfield, denotes_cons,
      Binding.name]
    -- Only the value inside a nullable property is bound around the code, to its own name.
    by_cases hname : Text.snakeCase mapping.domainName = "db" <;> simp [hname, denotes]
  | false =>
    rw [if_neg Bool.false_ne_true, Code.keepsNames_rowsOf_iff _ hvalue]
    simp [denotes]

/-- The names that the code binds are the value inside a nullable property, the rows and the
elements of a list, and the number of a row. -/
theorem bindings_argumentCode :
    (argumentCode target owner mapping context).bindings =
      (if mapping.column.isNullable then [.present (Text.snakeCase mapping.domainName)] else []) ++
      (if mapping.column.isArray then
        [.results "ids", .element (Text.snakeCase target.domainObject)] else []) ++
      [.present "id"] := by
  have hvalue : (context.code owner (Text.snakeCase mapping.domainName)).bindings = [] := by
    cases context <;> rfl
  unfold argumentCode
  cases mapping.column.isNullable with
  | true =>
    have hrows := Code.bindings_rowsOf true target mapping.column.isArray
      (show (Code.named (Text.snakeCase mapping.domainName)).bindings = [] from rfl)
    simp [Code.bindings, hvalue, hrows]
  | false =>
    simp [Code.bindings_rowsOf false target mapping.column.isArray hvalue]

/-- The code binds names apart if nothing is captured. -/
theorem bindsApart_argumentCode_iff :
    (argumentCode target owner mapping context).BindsApart ↔ ¬ Captures mapping target := by
  -- Each kind of binding is there under a condition of its own, so they can be told apart.
  have hmem : ∀ binding, binding ∈ (argumentCode target owner mapping context).bindings ↔
      mapping.column.isNullable = true ∧ binding = .present (Text.snakeCase mapping.domainName) ∨
      mapping.column.isArray = true ∧
        (binding = .results "ids" ∨ binding = .element (Text.snakeCase target.domainObject)) ∨
      binding = .present "id" := by
    intro binding
    rw [bindings_argumentCode]
    cases mapping.column.isNullable <;> cases mapping.column.isArray <;> simp [or_assoc]
  rw [not_captures_iff]
  constructor
  · rintro ⟨hdatabase, hresults⟩
    refine ⟨fun hnullable => hdatabase (.present _) ?_, fun harray =>
      ⟨hdatabase (.element _) ?_, hresults _ ?_⟩⟩
    · exact (hmem _).mpr (Or.inl ⟨hnullable, rfl⟩)
    · exact (hmem _).mpr (Or.inr (Or.inl ⟨harray, Or.inr rfl⟩))
    · exact (hmem _).mpr (Or.inr (Or.inl ⟨harray, Or.inr rfl⟩))
  · rintro ⟨hpresent, helement⟩
    constructor
    · intro binding hbinding
      rcases (hmem binding).mp hbinding with ⟨hnullable, rfl⟩ | ⟨harray, rfl | rfl⟩ | rfl
      · exact hpresent hnullable
      · exact show "ids" ≠ "db" by decide
      · exact (helement harray).1
      · exact show "id" ≠ "db" by decide
    · intro name hbinding
      rcases (hmem _).mp hbinding with ⟨-, h⟩ | ⟨harray, h | h⟩ | h
      · cases h
      · cases h
      · cases h
        exact (helement harray).2
      · cases h

end

/-- The code that a compilation generates for a column that nests an object is written as its text.
It binds other names than those of the database and, for elements, of the rows exactly if nothing is
captured, and exactly then the database and the rows are meant wherever their names stand. -/
theorem keepsNames_iff_not_captures {limits : Limits} {objects : List DomainObject}
    {compilation : Compilation} (h : compile limits objects = .ok compilation)
    {relationship : Relationship} (hr : relationship ∈ compilation.relationships.toList)
    {mapping : ColumnMapping} (hmapping : mapping ∈ relationship.mappings)
    {reference : ColumnReference} (hdirect : mapping.directReference? = some reference) :
    ∃ target, compilation.relationships.get reference.target.name = .ok target ∧
      ∀ owner context,
        argument compilation.relationships owner mapping context =
          .ok (argumentCode target owner mapping context).render ∧
        ((argumentCode target owner mapping context).BindsApart ↔ ¬ Captures mapping target) ∧
        ((argumentCode target owner mapping context).KeepsNames [] ↔
          ¬ Captures mapping target) := by
  obtain ⟨known, -, hderive, hcompiled⟩ := compile_ok_iff.mp h
  obtain ⟨hreference, -⟩ := ColumnMapping.directReference?_eq_some_iff.mp hdirect
  obtain ⟨target, hget⟩ := Sql.exists_get_of_isClosed
    (Relationships.provisioningOrder_ok_iff.mp hcompiled).1 hr hmapping hreference
  obtain ⟨object, -, hfrom⟩ := exists_left_of_forall₂ (deriveAll_ok_iff.mp hderive)
    (Relationships.get_ok_iff.mp hget).1
  -- The name of a table stands within one line, so moving the lines around it does not change it.
  have htable : '\n' ∉ target.table.toList := by
    rw [table_of_derive hfrom]
    exact Text.mark_notMem_snakeCase (by decide) (by decide) target.domainObject
  exact ⟨target, hget, fun owner context => ⟨argument_eq_render hdirect hget htable owner context,
    bindsApart_argumentCode_iff mapping target owner context,
    keepsNames_argumentCode_iff mapping target owner context⟩⟩

/-- A server that may have a database, under the given name. -/
def hosting (name : String) : List DomainObject := [
  (DomainObject.bare "Db" .literal).addProperty (.ofType "host" .string),
  (DomainObject.bare "Server" .literal).addProperty
    (Property.ofType name (.reference ⟨"Db", .literal⟩)).asNullable]

/-- A database of a server under a name of its own is bound apart from the one that stores it. -/
theorem keepsNames_hosting_mainDb :
    ∃ compilation, compile {} (hosting "mainDb") = .ok compilation ∧
      ∃ relationship ∈ compilation.relationships.toList, ∃ mapping ∈ relationship.mappings,
        mapping.column.isNullable = true ∧
        ∃ target, argument compilation.relationships "Server" mapping .upsert =
            .ok (argumentCode target "Server" mapping .upsert).render ∧
          (argumentCode target "Server" mapping .upsert).KeepsNames [] := by
  obtain ⟨compilation, h, relationship, hr, mapping, hmapping, hdirect, hname, hnullable, harray⟩ :=
    exists_ok_of_any (show (compile {} (hosting "mainDb")).toOption.any (fun compilation => decide
      (∃ relationship ∈ compilation.relationships.toList, ∃ mapping ∈ relationship.mappings,
        mapping.directReference? = some ⟨.directByNesting, ⟨"Db", .literal⟩⟩ ∧
        Text.words mapping.domainName = ["main", "db"] ∧ mapping.column.isNullable = true ∧
        mapping.column.isArray = false)) = true by decide +kernel)
  obtain ⟨target, -, hcode⟩ := keepsNames_iff_not_captures h hr hmapping hdirect
  obtain ⟨htext, -, hkeeps⟩ := hcode "Server" .upsert
  refine ⟨compilation, h, relationship, hr, mapping, hmapping, hnullable, target, htext,
    hkeeps.mpr ?_⟩
  rintro (⟨-, hwords⟩ | ⟨hlist, -⟩ | ⟨hlist, -⟩)
  · exact absurd (hname.symm.trans hwords) (by decide)
  · exact Bool.false_ne_true (harray.symm.trans hlist)
  · exact Bool.false_ne_true (harray.symm.trans hlist)

/-- A database of a server that is called just that is stored in itself. -/
theorem not_keepsNames_hosting_db :
    ∃ compilation, compile {} (hosting "db") = .ok compilation ∧
      ∃ relationship ∈ compilation.relationships.toList, ∃ mapping ∈ relationship.mappings,
        ∃ target ∈ compilation.relationships.toList,
          mapping.directReference? = some ⟨.directByNesting, ⟨target.domainObject, .literal⟩⟩ ∧
          argument compilation.relationships "Server" mapping .upsert = .ok (Text.ofLines [
            "match &server.db \x7b",
            "    None => None,",
            "    Some(db) => Some(match db.id \x7b",
            "        Some(id) => id,",
            "        None => upsert_db(db, db).await?,",
            "    \x7d),",
            "\x7d"]) ∧
          argument compilation.relationships "Server" mapping .upsert =
            .ok (argumentCode target "Server" mapping .upsert).render ∧
          Binding.present "db" ∈ (argumentCode target "Server" mapping .upsert).bindings ∧
          ¬ (argumentCode target "Server" mapping .upsert).KeepsNames [] :=
  exists_ok_of_any (by decide +kernel)

end DomainTables.Client
