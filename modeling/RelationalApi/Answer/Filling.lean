import RelationalApi.Interface.Generation
import RelationalApi.Scalar.Encoding
import RelationalApi.Selection.Plan
import RelationalApi.Storage.Row

/-!
# Filling layouts with rows

The rows that an executor returns are laid out as the selection asks.  The form of a relation is
decided by its cardinality and not by what was returned: `one` is an object or null, `many` is a
list.  A key that occurs again takes the later value and keeps its place.
-/

namespace RelationalApi

/-- The row of a relation to one row. -/
def Nested.first? {α : Type} : Nested α → Option α
  | single row => row
  | list rows => rows.head?

/-- The rows of a relation to many rows. -/
def Nested.toList {α : Type} : Nested α → List α
  | single row => row.toList
  | list rows => rows

/-- The value of a column of a returned row. -/
def fillColumn (interface : Interface) (table column : String) (row : Row) :
    Except ExecutionError Json :=
  match (interface.table? table).bind (·.column? column) with
  | none => .error (.columnNotMapped table column)
  | some codec =>
    match row.field? column with
    | none => .error (.columnNotReturned table column)
    | some value => codec.encode value

mutual

/-- The object for a returned row. -/
def fillObject (interface : Interface) : ObjectOutput → Row → Except ExecutionError Json
  | ⟨typeName, table, entries⟩, row => do
    let filled ← fillEntries interface typeName (table.getD "") entries row []
    return .object filled

/-- Adds the entries for a returned row to those that are filled already. -/
def fillEntries (interface : Interface) (typeName table : String) :
    List (OutputEntry ObjectOutput) → Row → JsonEntries → Except ExecutionError JsonEntries
  | [], _, filled => .ok filled
  | entry :: entries, row, filled => do
    let value ← fillEntry interface typeName table entry row
    fillEntries interface typeName table entries row (filled.set entry.key value)

/-- The value of an entry for a returned row. -/
def fillEntry (interface : Interface) (typeName table : String) :
    OutputEntry ObjectOutput → Row → Except ExecutionError Json
  | .typename _, _ => .ok (.string typeName)
  | .column _ column, row => fillColumn interface table column row
  | .relation _ relation .one object, row =>
    match (row.relation? relation).bind Nested.first? with
    | some first => fillObject interface object first
    | none => .ok .null
  | .relation _ relation .many object, row => do
    let rows := ((row.relation? relation).map Nested.toList).getD []
    let items ← rows.mapM fun item => fillObject interface object item
    return .array items

end

/-- A list of objects for returned rows. -/
def fillRows (interface : Interface) (output : ObjectOutput) (rows : List Row) :
    Except ExecutionError Json := do
  let items ← rows.mapM (fillObject interface output)
  return .array items

/-- The object for the first returned row, or null. -/
def fillFirst (interface : Interface) (output : ObjectOutput) (rows : List Row) :
    Except ExecutionError Json :=
  match rows with
  | row :: _ => fillObject interface output row
  | [] => .ok .null

/-- The value of an entry when an operation succeeded. -/
def successValue (typeName : String) : OutputEntry ObjectOutput → Json
  | .typename _ => .string typeName
  | _ => .bool true

/-- The object that says that an operation succeeded. -/
def fillSuccess (output : ObjectOutput) : Json :=
  let add (filled : JsonEntries) (entry : OutputEntry ObjectOutput) : JsonEntries :=
    filled.set entry.key (successValue output.typeName entry)
  .object (output.entries.foldl add [])

end RelationalApi
