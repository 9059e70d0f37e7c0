import RelationalApi.Error.Argument
import RelationalApi.Scalar.Codec
import RelationalApi.Storage.Query

/-!
# Order arguments

An `orderBy` argument gives directions to columns.  The keys of the order come in the order in
which the columns are declared, whatever the order of the entries.
-/

namespace RelationalApi

/-- The name of the enum of directions. -/
def orderDirectionType : String := "OrderDirection"

/-- The direction that an entry gives to a column, if it gives one. -/
def directionAt (entries : JsonEntries) (path column : String) :
    Except ArgumentError (Option Direction) :=
  match entries.lookup column with
  | none => .ok none
  | some .null => .ok none
  | some (.string "asc") => .ok (some .ascending)
  | some (.string "desc") => .ok (some .descending)
  | some document => .error (.invalidValue (joinPath path column) orderDirectionType document)

/-- The keys for the columns that entries give directions to. -/
def sortKeys (entries : JsonEntries) (path : String) :
    List ColumnCodec → Except ArgumentError (List SortKey)
  | [] => .ok []
  | column :: columns => do
    let direction ← directionAt entries path column.column
    let keys ← sortKeys entries path columns
    return (direction.map fun direction => ⟨column.column, direction⟩).toList ++ keys

/-- The keys of an `orderBy` argument. -/
def compileOrderBy (columns : List ColumnCodec) (path : String) :
    Json → Except ArgumentError (List SortKey)
  | .null => .ok []
  | .object entries =>
    match entries.find? fun entry => !columns.any fun column => column.column == entry.1 with
    | some entry => .error (.unknownField path entry.1)
    | none => sortKeys entries path columns
  | document => .error (.invalidValue path "order-by object" document)

end RelationalApi
