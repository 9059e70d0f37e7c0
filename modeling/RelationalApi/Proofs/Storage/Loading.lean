import RelationalApi.Proofs.Storage.Selects

/-!
# Queries that load as much

A query that loads as much as another one selects the same rows, follows the same relations and
fails on no column that the other one does not fail on.  So where the first succeeds, the second
does, with rows of their own for the same stored rows.
-/

namespace RelationalApi

open Outcome

/-- A query selects the same rows as another one and follows its relations, with queries that load
as much in turn.  Where its columns are known, so are those of the other one. -/
inductive SelectQuery.Loads (schema : Schema) : SelectQuery -> SelectQuery -> Prop
  | query
      {whole part : SelectQuery}
      (table : part.table = whole.table)
      (known : ∀ table, schema.table? whole.table = some table ->
        Store.checkColumns table whole.columns = .ok () ->
          Store.checkColumns table part.columns = .ok ())
      (selects : ∀ candidates, Store.selected part candidates = Store.selected whole candidates)
      (includes : ∀ entry ∈ part.includes, ∃ loaded, whole.include? entry.1 = some loaded)
      (inner : ∀ entry ∈ part.includes, ∀ loaded, whole.include? entry.1 = some loaded ->
        Loads schema loaded entry.2) :
      Loads schema whole part

theorem SelectQuery.Loads.selected_eq
    {schema : Schema}
    {whole part : SelectQuery}
    (loads : whole.Loads schema part)
    (candidates : List StoredRow) :
    Store.selected part candidates = Store.selected whole candidates := by
  cases loads with
  | query _ _ selects _ _ => exact selects candidates

theorem SelectQuery.mem_of_include?
    {query included : SelectQuery}
    {name : String}
    (found : query.include? name = some included) :
    (name, included) ∈ query.includes := by
  obtain ⟨front, back, same, _⟩ := List.lookup_eq_some_iff.1 found
  rw [same]
  simp

namespace Store

variable {schema : Schema} {store : Store} {table : String} {stored : StoredRow}
variable {includes : List (String × SelectQuery)} {carried : List (String × Nested Row)}

/-- A relation of a row of a table is followed with a query. -/
def FollowedTo (schema : Schema) (store : Store) (table : String) (stored : StoredRow)
    (entry : String × SelectQuery) (result : String × Nested Row) : Prop :=
  ∃ relation fromColumn toColumn rows,
    join schema table entry.1 = .ok (relation, fromColumn, toColumn) ∧
      selectFrom schema store entry.2 (store.related relation fromColumn toColumn stored)
        = .ok rows ∧
      (entry.1, nest relation.cardinality rows) = result

theorem followIncludes_eq_ok :
    followIncludes schema store table stored includes = .ok carried ↔
      List.Forall₂ (FollowedTo schema store table stored) includes carried := by
  induction includes generalizing carried with
  | nil =>
      rw [followIncludes, List.forall₂_nil_left_iff, Except.ok.injEq, eq_comm]
  | cons entry includes inductionHypothesis =>
      simp only [followIncludes, bind_eq_ok, pure_eq_ok, Prod.exists, inductionHypothesis,
        List.forall₂_cons_left_iff]
      constructor
      · rintro ⟨relation, fromColumn, toColumn, joined, rows, found, others, followed, rfl⟩
        exact ⟨_, _, others, ⟨relation, fromColumn, toColumn, rows, joined, found, rfl⟩, followed,
          rfl⟩
      · rintro ⟨_, _, others, ⟨relation, fromColumn, toColumn, rows, joined, found, same⟩, followed,
          rfl⟩
        exact ⟨relation, fromColumn, toColumn, joined, rows, found, others, followed, by rw [same]⟩

/-- What was followed for the query of a relation is found under its name. -/
theorem exists_followed
    {name : String}
    {query : SelectQuery}
    (followed : followIncludes schema store table stored includes = .ok carried)
    (found : includes.lookup name = some query) :
    ∃ nested, carried.lookup name = some nested ∧
      FollowedTo schema store table stored (name, query) (name, nested) := by
  have pairs := followIncludes_eq_ok.1 followed
  clear followed
  induction pairs with
  | nil => cases found
  | @cons entry result includes carried first _ inductionHypothesis =>
      obtain ⟨entryName, entryQuery⟩ := entry
      have sameName : result.1 = entryName := by
        obtain ⟨_, _, _, _, _, _, rfl⟩ := first
        rfl
      obtain ⟨resultName, nested⟩ := result
      dsimp only at sameName
      subst sameName
      rw [List.lookup_cons] at found ⊢
      cases isName : name == resultName with
      | true =>
          rw [isName] at found
          cases found
          cases beq_iff_eq.1 isName
          exact ⟨nested, rfl, first⟩
      | false =>
          rw [isName] at found
          exact inductionHypothesis found

/-- A select that another query loads as much as succeeds where that query does. -/
theorem exists_selectFrom_of_loads
    {whole part : SelectQuery}
    {candidates : List StoredRow}
    {rows : List Row}
    (loads : whole.Loads schema part)
    (found : selectFrom schema store whole candidates = .ok rows) :
    ∃ partRows, selectFrom schema store part candidates = .ok partRows := by
  induction loads generalizing candidates rows with
  | @query whole part sameTable known selects includes inner inductionHypothesis =>
      obtain ⟨⟨table, isTable, columns⟩, returned⟩ := selectFrom_eq_ok.1 found
      have each : ∀ stored ∈ selected part candidates, ∃ row,
          Returns schema store part stored row := by
        intro stored member
        rw [selects] at member
        obtain ⟨row, _, _, followed⟩ := exists_result returned stored member
        have followsPart : ∀ entry ∈ part.includes, ∃ result,
            FollowedTo schema store part.table stored entry result := by
          intro entry isEntry
          obtain ⟨loaded, isLoaded⟩ := includes entry isEntry
          obtain ⟨_, _, relation, fromColumn, toColumn, _, joined, selectsInner, _⟩ :=
            exists_followed followed isLoaded
          obtain ⟨partRows, selectsPart⟩ :=
            inductionHypothesis entry isEntry loaded isLoaded selectsInner
          exact ⟨_, relation, fromColumn, toColumn, partRows, sameTable ▸ joined, selectsPart, rfl⟩
        obtain ⟨carried, followedPart⟩ := exists_results followsPart
        exact ⟨⟨project part.columns stored, carried⟩, rfl, followIncludes_eq_ok.2 followedPart⟩
      obtain ⟨partRows, returnedPart⟩ := exists_results each
      exact ⟨partRows, selectFrom_eq_ok.2
        ⟨⟨table, sameTable ▸ isTable, known table isTable columns⟩, returnedPart⟩⟩

/-- Both queries return one row each for every stored row that they select. -/
theorem returns_of_loads
    {whole part : SelectQuery}
    {candidates : List StoredRow}
    {rows partRows : List Row}
    (loads : whole.Loads schema part)
    (found : selectFrom schema store whole candidates = .ok rows)
    (partFound : selectFrom schema store part candidates = .ok partRows) :
    List.Forall₂ (fun row partRow => ∃ stored, Returns schema store whole stored row ∧
      Returns schema store part stored partRow) rows partRows := by
  have returned := (selectFrom_eq_ok.1 found).2
  have partReturned := (selectFrom_eq_ok.1 partFound).2
  rw [loads.selected_eq] at partReturned
  exact forall₂_trans (fun _ _ stored _ returns partReturns => ⟨stored, returns, partReturns⟩)
    returned.flip partReturned

theorem exists_select_of_loads
    {whole part : SelectQuery}
    {rows : List Row}
    (loads : whole.Loads schema part)
    (selects : store.select schema whole = .ok rows) :
    ∃ partRows, store.select schema part = .ok partRows ∧
      List.Forall₂ (fun row partRow => ∃ stored, Returns schema store whole stored row ∧
        Returns schema store part stored partRow) rows partRows := by
  have sameTable : part.table = whole.table := by
    obtain ⟨sameTable, _⟩ := loads
    exact sameTable
  obtain ⟨partRows, found⟩ := exists_selectFrom_of_loads loads selects
  rw [select, sameTable]
  exact ⟨partRows, found, returns_of_loads loads selects found⟩

end Store

/-!
## Queries within the schema

A query that asks for columns of its table and follows relations of it, with such queries in turn,
is never refused for a name.  It can only be refused for a relation that leaves its join columns
open.
-/

namespace SelectQuery

/-- A query asks for columns of its table and follows relations of the table, where it does the
same. -/
inductive Declared (schema : Schema) : SelectQuery -> Prop
  | query
      {query : SelectQuery}
      {table : Table}
      (isTable : schema.table? query.table = some table)
      (columns : ∀ column ∈ query.columns, column ∈ table.columnNames)
      (relations : ∀ entry ∈ query.includes, ∃ relation,
        schema.relation? query.table entry.1 = some relation ∧ relation.target = entry.2.table)
      (inner : ∀ entry ∈ query.includes, Declared schema entry.2) :
      Declared schema query

mutual

/-- Whether the relations that a query follows declare their join columns. -/
def joinsDeclared (schema : Schema) : SelectQuery -> Bool
  | ⟨table, _, _, _, _, _, includes⟩ => includesJoined schema table includes

/-- Whether relations of a table and those that their queries follow declare their join columns. -/
def includesJoined (schema : Schema) (table : String) : List (String × SelectQuery) -> Bool
  | [] => true
  | (name, query) :: includes =>
    ((schema.relation? table name).all fun relation => relation.joinColumns?.isSome) &&
      joinsDeclared schema query && includesJoined schema table includes

end

end SelectQuery

namespace Store

variable {schema : Schema} {store : Store} {query : SelectQuery}

end Store
end RelationalApi
