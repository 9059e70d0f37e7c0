import RelationalApi.Storage.Value

/-!
# Answers of a storage

A returned row holds the fields that were asked for and the rows of each followed relation.
-/

namespace RelationalApi

/-- The rows that a relation leads to. -/
inductive Nested (α : Type) where
  | single (row : Option α)
  | list (rows : List α)
  deriving Repr

/-- A returned row. -/
structure Row where
  fields : List FieldValue
  relations : List (String × Nested Row) := []
  deriving Repr, Inhabited

namespace Nested

variable {α : Type}

def length : Nested α → Nat
  | single none => 0
  | single (some _) => 1
  | list rows => rows.length

def isEmpty (nested : Nested α) : Bool :=
  nested.length == 0

end Nested

namespace Row

/-- The value of the first field of a name. -/
def field? (row : Row) (name : String) : Option Value :=
  fieldValue? row.fields name

/-- The rows of the first relation of a name. -/
def relation? (row : Row) (name : String) : Option (Nested Row) :=
  row.relations.lookup name

end Row

/-- What a mutation did. -/
structure MutationResult where
  affected : Nat
  rows : Option (List Row) := none
  deriving Repr, Inhabited

end RelationalApi
