/-!
# Execution errors

What can go wrong when a request has been compiled: the storage refuses it, or what the storage
answers cannot be shown.
-/

namespace RelationalApi

/-- A request that fails while it is carried out. -/
inductive ExecutionError where
  | unknownTable (table : String)
  | unknownColumn (column table : String)
  | unknownRelation (table relation : String)
  | relationWithoutJoin (relation table : String)
  | duplicateKey (column table : String)
  | nullValue (column table : String)
  | defaultNotEvaluated (expression column : String)
  /-- A value of a kind that a column cannot show in the form that is given. -/
  | valueNotShown (column valueKind form : String)
  | columnNotMapped (table column : String)
  | columnNotReturned (table column : String)
  | rowsNotReturned (operation : String)
  /-- A failure in the words of a storage that is not part of this library. -/
  | reported (message : String)
  deriving DecidableEq, Repr

def ExecutionError.message : ExecutionError → String
  | unknownTable table => "table '" ++ table ++ "' not found"
  | unknownColumn column table =>
    "column '" ++ column ++ "' does not exist on table '" ++ table ++ "'"
  | unknownRelation table relation =>
    "table '" ++ table ++ "' has no relation '" ++ relation ++ "'"
  | relationWithoutJoin relation table =>
    "relation '" ++ relation ++ "' of table '" ++ table ++ "' declares no join columns"
  | duplicateKey column table =>
    "duplicate key value in column '" ++ column ++ "' of table '" ++ table ++ "'"
  | nullValue column table =>
    "null value in column '" ++ column ++ "' of table '" ++ table ++
      "' violates not-null constraint"
  | defaultNotEvaluated expression column =>
    "cannot evaluate default expression '" ++ expression ++ "' of column '" ++ column ++ "'"
  | valueNotShown column valueKind form =>
    "column '" ++ column ++ "': cannot represent " ++ valueKind ++ " value as " ++ form
  | columnNotMapped table column => "table '" ++ table ++ "' has no column '" ++ column ++ "'"
  | columnNotReturned table column =>
    "row of table '" ++ table ++ "' is missing column '" ++ column ++ "'"
  | rowsNotReturned operation => "executor returned no rows for '" ++ operation ++ "'"
  | reported message => message

end RelationalApi
