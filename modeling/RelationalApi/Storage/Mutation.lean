import RelationalApi.Storage.Filter

/-!
# Mutations

Statements that change the rows of one table.  A statement may ask for columns of the affected
rows; if it does not, only their number is told.
-/

namespace RelationalApi

/-- What happens to an inserted row that conflicts with a stored one. -/
inductive ConflictAction where
  | doNothing
  | error
  deriving Repr, DecidableEq, Inhabited

structure InsertStatement where
  table : String
  rows : List (List FieldValue)
  returning : Option (List String) := none
  onConflict : ConflictAction := .doNothing
  deriving Repr

structure UpdateStatement where
  table : String
  assignments : List FieldValue
  filter : Option Filter := none
  returning : Option (List String) := none
  deriving Repr

structure DeleteStatement where
  table : String
  filter : Option Filter := none
  returning : Option (List String) := none
  deriving Repr

/-- A statement that changes rows. -/
inductive Mutation where
  | insert (statement : InsertStatement)
  | update (statement : UpdateStatement)
  | delete (statement : DeleteStatement)
  deriving Repr

namespace Mutation

/-- The table whose rows are changed. -/
def table : Mutation → String
  | insert statement => statement.table
  | update statement => statement.table
  | delete statement => statement.table

/-- Whether columns of the affected rows are asked for. -/
def isReturning : Mutation → Bool
  | insert statement => statement.returning.isSome
  | update statement => statement.returning.isSome
  | delete statement => statement.returning.isSome

end Mutation
end RelationalApi
