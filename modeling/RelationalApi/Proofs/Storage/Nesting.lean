import RelationalApi.Proofs.Storage.Selects

/-!
# Related rows

The rows that a select returns for a relation are those that a select of their own finds: the same
query, with the further condition that the join column has the value of the row that the relation
starts from.  This holds for every relation that is followed, however deep.
-/

namespace RelationalApi

open Outcome

/-- The query for those of its rows that have a value in a column. -/
def SelectQuery.withKey (query : SelectQuery) (column : String) (key : Value) : SelectQuery :=
  { query with filter := Filter.all (.compare .equal column key :: query.filter.toList) }

namespace Store

variable {schema : Schema} {store : Store}

/-- The rows that a select of its own finds for a relation from a stored row; a row without a value
in the join column has none. -/
def selectJoined (schema : Schema) (store : Store) (query : SelectQuery)
    (fromColumn toColumn : String) (stored : StoredRow) : Except ExecutionError (List Row) :=
  match present? stored fromColumn with
  | some key => store.select schema (query.withKey toColumn key)
  | none => .ok []

mutual

/-- A returned row carries for every included relation what a select of its own finds, provided that
the query is one for the target of the relation, and so do the rows of the relation in turn. -/
def CarriesJoined (schema : Schema) (store : Store) :
    SelectQuery -> StoredRow -> Row -> Prop
  | ⟨table, columns, _, _, _, _, includes⟩, stored, row =>
      row.fields = project columns stored ∧
        CarriesAllJoined schema store table includes stored row.relations

/-- The rows of the included relations of a table, relation by relation. -/
def CarriesAllJoined (schema : Schema) (store : Store) (table : String) :
    List (String × SelectQuery) -> StoredRow -> List (String × Nested Row) -> Prop
  | [], _, carried => carried = []
  | (name, query) :: includes, stored, carried =>
      ∃ relation fromColumn toColumn rows others,
        schema.relation? table name = some relation ∧
        relation.joinColumns? = some (fromColumn, toColumn) ∧
        carried = (name, nest relation.cardinality rows) :: others ∧
        (query.table = relation.target ->
          store.selectJoined schema query fromColumn toColumn stored = .ok rows) ∧
        List.Forall₂ (CarriesJoined schema store query)
          (selected query (store.related relation fromColumn toColumn stored)) rows ∧
        CarriesAllJoined schema store table includes stored others

end

theorem equal_null_left (right : Value) : Value.null.equal right = false := by
  cases right <;> rfl

/-- The join of a relation is a comparison with the key. -/
theorem joined_eq_holds (other : StoredRow) (column : String) (key : Value) :
    (match fieldValue? other column with
      | some value => value.equal key
      | none => false) = Filter.holds other (.compare .equal column key) := by
  rw [Filter.holds, present?]
  cases fieldValue? other column with
  | none => rfl
  | some value =>
      cases value with
      | null => exact equal_null_left key
      | _ => rfl

/-- The rows that a relation leads to are those that have the key in the join column. -/
theorem related_of_present?
    {relation : Relation}
    {fromColumn toColumn : String}
    {stored : StoredRow}
    {key : Value}
    (present : present? stored fromColumn = some key) :
    store.related relation fromColumn toColumn stored =
      (store.rows relation.target).filter
        (Filter.holds · (.compare .equal toColumn key)) := by
  rw [related, present]
  exact List.filter_congr fun other _ => joined_eq_holds other toColumn key

/-- Selecting with a key among all rows is selecting among the rows that have the key. -/
theorem selected_withKey
    (query : SelectQuery)
    (column : String)
    (key : Value)
    (candidates : List StoredRow) :
    selected (query.withKey column key) candidates =
      selected query (candidates.filter (Filter.holds · (.compare .equal column key))) := by
  have conjunction : ∀ row, Filter.accepts (query.withKey column key).filter row =
      (Filter.accepts query.filter row && Filter.holds row (.compare .equal column key)) := by
    intro row
    rw [SelectQuery.withKey, Filter.accepts_all, List.all_cons, Filter.all_toList, Bool.and_comm]
  rw [selected, selected, List.filter_filter, List.filter_congr fun row _ => conjunction row]
  rfl

/-- What is selected for a relation to the table of the query is what a select of its own finds. -/
theorem selectJoined_of_selectFrom
    {relation : Relation}
    {fromColumn toColumn : String}
    {stored : StoredRow}
    {query : SelectQuery}
    {rows : List Row}
    (sameTable : query.table = relation.target)
    (found : selectFrom schema store query (store.related relation fromColumn toColumn stored)
      = .ok rows) :
    store.selectJoined schema query fromColumn toColumn stored = .ok rows := by
  rw [selectJoined]
  cases present : present? stored fromColumn with
  | none =>
      have noRows : selected query (store.related relation fromColumn toColumn stored) = [] := by
        rw [related, present, selected]
        cases query.limit <;> simp [sortRows, page]
      have returned := (selectFrom_eq_ok.1 found).2
      rw [noRows, List.forall₂_nil_left_iff] at returned
      rw [returned]
  | some key =>
      rw [related_of_present? present, ← sameTable] at found
      obtain ⟨known, returned⟩ := selectFrom_eq_ok.1 found
      refine selectFrom_eq_ok.2 ⟨known, ?_⟩
      rw [selected_withKey]
      exact returned

-- The recursion follows the query into the queries of its included relations, as selecting does.
mutual

theorem carriesJoined_of_returns :
    (query : SelectQuery) -> ∀ {stored row},
      Returns schema store query stored row -> CarriesJoined schema store query stored row
  | ⟨table, columns, filter, orderBy, offset, limit, includes⟩, stored, row, returned => by
      rw [CarriesJoined]
      exact ⟨returned.1, carriesAllJoined_of_follow includes returned.2⟩

theorem carriesAllJoined_of_follow {table : String} :
    (includes : List (String × SelectQuery)) -> ∀ {stored carried},
      followIncludes schema store table stored includes = .ok carried ->
        CarriesAllJoined schema store table includes stored carried
  | [], stored, carried, followed => by
      rw [followIncludes] at followed
      cases followed
      rw [CarriesAllJoined]
  | (name, query) :: includes, stored, carried, followed => by
      simp only [followIncludes, bind_eq_ok, pure_eq_ok, Prod.exists, join_eq_ok] at followed
      obtain ⟨relation, fromColumn, toColumn, ⟨isRelation, isJoined⟩, rows, found, others,
        followedOthers, same⟩ := followed
      rw [CarriesAllJoined]
      refine ⟨relation, fromColumn, toColumn, rows, others, isRelation, isJoined, same.symm, ?_, ?_,
        carriesAllJoined_of_follow includes followedOthers⟩
      · exact fun sameTable => selectJoined_of_selectFrom sameTable found
      · exact (selectFrom_eq_ok.1 found).2.imp fun _ _ => carriesJoined_of_returns query

end

/-- Authors and their books, with relations in a circle. -/
def library : Schema :=
  ((((Schema.empty.withTable
    { name := "authors", columns := [{ name := "id", kind := .integer 32 false }] }).withTable
    { name := "books"
      columns :=
        [ { name := "id", kind := .integer 32 false },
          { name := "author_id", kind := .integer 32 false, nullable := true } ] }).withRelation
    { name := "books", source := "authors", target := "books", cardinality := .many
      fromColumn := some "id", toColumn := some "author_id" }).withRelation
    { name := "author", source := "books", target := "authors", cardinality := .one
      fromColumn := some "author_id", toColumn := some "id" })

/-- Three books, one of them without an author. -/
def shelf : Store :=
  ⟨[("authors", [[⟨"id", .int 1⟩], [⟨"id", .int 2⟩]]),
    ("books",
      [ [⟨"id", .int 10⟩, ⟨"author_id", .uint 1⟩],
        [⟨"id", .int 11⟩, ⟨"author_id", .null⟩],
        [⟨"id", .int 12⟩, ⟨"author_id", .int 1⟩] ])]⟩

end Store
end RelationalApi
