import DomainTables.Relationship
import DomainTables.Text.Case
import DomainTables.Text.Lines

/-!
# Arguments in client code

Client code binds a parameter for each column. Most values are bound as they are. A nested object is
bound by the number of its row, which the object carries if it has been stored, and which is that of
a row stored on the spot if not (`storedId`). Nested lists and nullable values are taken apart
around that.
-/

namespace DomainTables.Client

/-- The function that client code calls. -/
inductive Context where
  /-- A function that writes an object. Values are fields of the object. -/
  | upsert
  /-- A function that finds objects. Values are arguments of the function. -/
  | find
deriving DecidableEq, Repr

/-- The value of a property of the object `owner`. -/
def Context.value (context : Context) (owner field : String) : String :=
  match context with
  | .upsert => Text.snakeCase owner ++ "." ++ field
  | .find => field

/-- A reference to a value, which may be one already. -/
def borrow (value : String) (borrowed : Bool) : String :=
  if borrowed then value else "&" ++ value

/-- The number of the row of a nested object, which the function `upsert` stores if it is not stored
yet. -/
def storedId (value : String) (borrowed : Bool) (upsert : String) : String :=
  Text.ofLines [
    "match " ++ value ++ ".id \x7b",
    "    Some(id) => id,",
    "    None => " ++ upsert ++ "(db, " ++ borrow value borrowed ++ ").await?,",
    "\x7d"]

/-- The numbers of the rows of a list of nested objects, in order. -/
def storedIds (value : String) (borrowed : Bool) (element upsert : String) : String :=
  Text.ofLines [
    "\x7b",
    "    let mut ids = Vec::with_capacity(" ++ value ++ ".len());",
    "    for " ++ element ++ " in " ++ borrow value borrowed ++ " \x7b",
    "        ids.push(" ++ Text.indent (storedId element true upsert) 8 ++ ");",
    "    \x7d",
    "    ids",
    "\x7d"]

/-- What `some` yields for the value inside an optional value, bound to the name `field`. -/
def whereSome (value field someCase : String) : String :=
  Text.ofLines [
    "match &" ++ value ++ " \x7b",
    "    None => None,",
    "    Some(" ++ field ++ ") => Some(" ++ Text.indent someCase 4 ++ "),",
    "\x7d"]

/-- The number of the row of a nested object, or the numbers for a list of them. -/
def storedRows (target : Relationship) (isArray : Bool) (value : String) (borrowed : Bool) :
    String :=
  let upsert := "upsert_" ++ target.table
  if isArray then storedIds value borrowed (Text.snakeCase target.domainObject) upsert
  else storedId value borrowed upsert

/-- The expression that client code binds for a column of the object `owner`. -/
def argument (relationships : Relationships) (owner : String) (mapping : ColumnMapping)
    (context : Context) : Except Cause String :=
  let field := Text.snakeCase mapping.domainName
  let value := context.value owner field
  match mapping.directReference? with
  | none => .ok value
  | some reference => do
    let target ← relationships.get reference.target.name
    let rows := storedRows target mapping.column.isArray
    if mapping.column.isNullable then return whereSome value field (rows field true)
    else return rows value false

end DomainTables.Client
