import RelationalApi.Error.Engine
import RelationalApi.Scalar.Decoding
import RelationalApi.Storage.Store

/-!
# Fixtures

A fixture is a document that gives rows to tables, each row as an object of column values in the
form that clients use.  Tables are filled one after another in the order of the document; those
filled before a failure stay filled.
-/

namespace RelationalApi
namespace Fixture

/-- The values that the entries of a row give to columns. -/
def readFields (columns : List ColumnCodec) (path : String) :
    JsonEntries → Except ArgumentError (List FieldValue)
  | [] => .ok []
  | (name, document) :: entries =>
    match columns.find? fun column => column.column == name with
    | none => .error (.unknownField path name)
    | some column => do
      let value ← column.decode document (joinPath path name)
      let fields ← readFields columns path entries
      return ⟨name, value⟩ :: fields

/-- The rows of a table from a position on. -/
def readRows (columns : List ColumnCodec) (path : String) (index : Nat) :
    List Json → Except ArgumentError (List (List FieldValue))
  | [] => .ok []
  | .object entries :: documents => do
    let row ← readFields columns (itemPath path index) entries
    let rows ← readRows columns path (index + 1) documents
    return row :: rows
  | document :: _ => .error (.invalidValue (itemPath path index) "row object" document)

/-- The rows that a fixture gives to a table. -/
def rowsOf (columns : List ColumnCodec) (table : String) (document : Json) :
    Except ArgumentError (List (List FieldValue)) :=
  let path := joinPath "fixture" table
  match document with
  | .array documents => readRows columns path 0 documents
  | _ => .error (.invalidValue path "list of rows" document)

end Fixture

namespace Store

/-- Inserts rows, any conflict of which is an error. -/
def insertRows (schema : Schema) (now : Timestamp) (table : String)
    (rows : List (List FieldValue)) (store : Store) :
    Except ExecutionError (MutationResult × Store) :=
  store.insert schema now { table := table, rows := rows, onConflict := .error }

/-- Fills one table and counts its new rows. -/
def loadTable (schema : Schema) (now : Timestamp) (name : String) (document : Json)
    (store : Store) : Except EngineError (Nat × Store) := do
  let table ← (schema.table name).mapError EngineError.schema
  let columns ← (ColumnCodec.ofTable table).mapError EngineError.schema
  let rows ← (Fixture.rowsOf columns name document).mapError EngineError.argument
  let (result, filled) ←
    (store.insertRows schema now name rows).mapError EngineError.execution
  return (result.affected, filled)

/-- Fills tables in order, counting new rows on from `loaded`. -/
def loadTables (schema : Schema) (now : Timestamp) (loaded : Nat) :
    JsonEntries → Store → Except EngineError Nat × Store
  | [], store => (.ok loaded, store)
  | (name, document) :: entries, store =>
    match store.loadTable schema now name document with
    | .ok (count, filled) => loadTables schema now (loaded + count) entries filled
    | .error error => (.error error, store)

/-- Fills tables from a fixture and counts the new rows. -/
def load (schema : Schema) (now : Timestamp) (fixture : Json) (store : Store) :
    Except EngineError Nat × Store :=
  match fixture with
  | .object entries => store.loadTables schema now 0 entries
  | _ => (.error (.argument (.invalidValue "fixture" "object of tables" fixture)), store)

end Store
end RelationalApi
