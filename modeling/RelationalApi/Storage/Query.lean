import RelationalApi.Storage.Filter

/-!
# Select queries

A query names the columns to return, which rows to return and in which order, and the relations to
follow from each returned row, each with a query of its own.
-/

namespace RelationalApi

inductive Direction where
  | ascending
  | descending
  deriving Repr, DecidableEq, Inhabited

def Direction.word : Direction → String
  | .ascending => "asc"
  | .descending => "desc"

/-- One key of an order. -/
structure SortKey where
  field : String
  direction : Direction
  deriving Repr, DecidableEq, Inhabited

/-- A query for rows of a table, with the queries for related rows. -/
structure SelectQuery where
  table : String
  columns : List String := []
  filter : Option Filter := none
  orderBy : List SortKey := []
  offset : Option Nat := none
  limit : Option Nat := none
  includes : List (String × SelectQuery) := []
  deriving Repr, Inhabited

namespace SelectQuery

/-- The query for the rows of an included relation. -/
def include? (query : SelectQuery) (relation : String) : Option SelectQuery :=
  query.includes.lookup relation

mutual

/-- The greatest number of relations followed one after another. -/
def depth : SelectQuery → Nat
  | ⟨_, _, _, _, _, _, includes⟩ => includesDepth includes

/-- The greatest number of relations followed, counting the included ones. -/
def includesDepth : List (String × SelectQuery) → Nat
  | [] => 0
  | (_, query) :: includes => max (depth query + 1) (includesDepth includes)

end

end SelectQuery
end RelationalApi
