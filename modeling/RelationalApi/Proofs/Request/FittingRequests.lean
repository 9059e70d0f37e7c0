import RelationalApi.Proofs.Arguments.TestedFields
import RelationalApi.Proofs.Request.DepthLimit
import RelationalApi.Proofs.Request.Mutations
import RelationalApi.Proofs.Request.SafeSelects
import RelationalApi.Proofs.Request.WrittenFields
import RelationalApi.Proofs.Selection.TidyPlans

/-!
# Requests that fit the schema

Executors are promised well-formed requests.  A query loads at least one column for the rows of each
table that it visits; its columns, filters, orders and relations are declared and not repeated, and
it follows no more relations than the configuration allows.  A mutation writes something, and only
to declared columns that the storage does not compute.  Every request that is compiled keeps these
promises, whatever the operation, its arguments and its selection.
-/

namespace RelationalApi

open Outcome

/-- Columns of a table, at least one of them and each at most once. -/
structure Table.Projects (table : Table) (columns : List String) : Prop where
  nonempty : columns ≠ []
  distinct : columns.Nodup
  declared : ∀ column ∈ columns, column ∈ table.columnNames

/-- A filter, if there is one, tests columns of a table. -/
def Table.Filters (table : Table) (filter : Option Filter) : Prop :=
  ∀ condition, filter = some condition -> condition.Tests table.columnNames

/-- Columns of a table are returned, if any are. -/
def Table.Returns (table : Table) (returning : Option (List String)) : Prop :=
  ∀ columns, returning = some columns -> table.Projects columns

/-- A query for declared columns of a declared table, with filters and orders by such columns, and
with such queries for different relations of the table. -/
inductive SelectQuery.Fits (schema : Schema) : SelectQuery -> Prop
  | query
      {query : SelectQuery}
      {table : Table}
      (isTable : schema.table? query.table = some table)
      (columns : table.Projects query.columns)
      (filter : table.Filters query.filter)
      (order : table.ListsInOrder (query.orderBy.map (·.field)))
      (names : (query.includes.map (·.1)).Nodup)
      (relations : ∀ entry ∈ query.includes, ∃ relation,
        schema.relation? query.table entry.1 = some relation ∧ relation.target = entry.2.table)
      (inner : ∀ entry ∈ query.includes, Fits schema entry.2) :
      Fits schema query

/-- A statement that writes to columns of a declared table, and returns and tests such columns. -/
inductive Mutation.Fits (schema : Schema) : Mutation -> Prop
  | insert
      {statement : InsertStatement}
      {table : Table}
      (isTable : schema.table? statement.table = some table)
      (nonempty : statement.rows ≠ [])
      (rows : ∀ row ∈ statement.rows, table.Inserts row)
      (returning : table.Returns statement.returning) :
      Fits schema (.insert statement)
  | update
      {statement : UpdateStatement}
      {table : Table}
      (isTable : schema.table? statement.table = some table)
      (nonempty : statement.assignments ≠ [])
      (assignments : table.Writes statement.assignments)
      (filter : table.Filters statement.filter)
      (returning : table.Returns statement.returning) :
      Fits schema (.update statement)
  | delete
      {statement : DeleteStatement}
      {table : Table}
      (isTable : schema.table? statement.table = some table)
      (filter : table.Filters statement.filter)
      (returning : table.Returns statement.returning) :
      Fits schema (.delete statement)

/-- A request that executors can rely on under a configuration. -/
def Request.Fits (schema : Schema) (config : EngineConfig) : Request -> Prop
  | select query =>
      query.Fits schema ∧ ∀ limit, config.depthLimit = some limit -> query.depth ≤ limit
  | mutate mutation => mutation.Fits schema

namespace Interface

variable {interface : Interface} {schema : Schema} {config : EngineConfig} {table : Table}
variable {types : TableTypes} {arguments : SelectArguments} {path : String} {plan : SelectionPlan}
variable {query : SelectQuery} {selection : Selection} {operation : Operation}

section Compiled

variable (mapped : TableTypes.ofTable table = .ok types)
include mapped

theorem filters_of_compileWhere
    {document : Json}
    {filter : Option Filter}
    (compiled : compileWhere types.columns path document = .ok filter) :
    table.Filters filter := by
  rintro condition rfl
  have tested := compileWhere_tests document compiled
  rwa [ColumnCodec.map_column_ofTable (TableTypes.ofTable_eq_ok mapped).2.1] at tested

theorem listsInOrder_of_compileOrderBy
    {document : Json}
    {keys : List SortKey}
    (distinct : table.columnNames.Nodup)
    (compiled : compileOrderBy types.columns path document = .ok keys) :
    table.ListsInOrder (keys.map (·.field)) := by
  have inOrder := compileOrderBy_sublist compiled
  rw [ColumnCodec.map_column_ofTable (TableTypes.ofTable_eq_ok mapped).2.1] at inOrder
  exact ⟨inOrder, inOrder.nodup distinct⟩

end Compiled

/-- A plan that loads columns of a table, at least one and each once, projects the table. -/
theorem projects_of_declared
    {remaining : Option Nat}
    (isTable : schema.table? table.name = some table)
    (declared : plan.Declared schema table.name)
    (tidy : plan.Tidy remaining)
    (loads : plan.columns ≠ []) :
    table.Projects plan.columns := by
  refine ⟨loads, (SelectionPlan.tidy_iff.1 tidy).1, fun column member => ?_⟩
  obtain ⟨found, isFound, isColumn⟩ := (SelectionPlan.declared_iff.1 declared).1 column member
  rw [isTable] at isFound
  cases isFound
  exact isColumn

/-- The query for a plan fits the schema, if the plan stays within it and repeats nothing. -/
theorem fits_of_toQuery
    {remaining : Option Nat}
    (represents : interface.Represents schema config)
    (distinct : ∀ table ∈ schema.tables, table.columnNames.Nodup)
    (found : interface.table? types.name = some types)
    (declared : plan.Declared schema types.name)
    (tidy : plan.Tidy remaining)
    (loads : plan.columns ≠ [])
    (queried : plan.toQuery interface types arguments path = .ok query) :
    query.Fits schema := by
  induction tidy generalizing types arguments path query with
  | @plan remaining plan columns names followed inner inductionHypothesis =>
      obtain ⟨table, isTable, mapped⟩ := represents.table?_eq_some.1 found
      have isName := Schema.name_of_table? isTable
      have within := (declared_of_toQuery represents found declared queried).1
      have projects := projects_of_declared (isName.symm ▸ isTable) (isName.symm ▸ declared)
        (.plan columns names followed inner) loads
      obtain ⟨filter, orderBy, includes, filters, orders, pairs, rfl⟩ := toQuery_eq_ok.1 queried
      have sameNames : plan.relations.map (·.name) = includes.map (·.1) := by
        rw [← List.forall₂_eq_eq_eq, List.forall₂_map_left_iff, List.forall₂_map_right_iff]
        exact pairs.imp fun _ _ queriedBy => queriedBy.1.symm
      cases within with
      | query _ _ relations _ =>
          refine .query isTable projects (filters_of_compileWhere mapped filters)
            (listsInOrder_of_compileOrderBy mapped (distinct table (Schema.mem_of_table? isTable))
              orders) (sameNames ▸ names) relations fun entry member => ?_
          obtain ⟨relation, isRelation, _, innerTypes, _, atTable, _, queriedInner⟩ :=
            exists_item pairs entry member
          have foundInner := typesAt_eq_ok.1 atTable
          have isTarget := name_of_table? foundInner
          have declaredInner := ((SelectionPlan.declared_iff.1 declared).2 relation isRelation).2
          exact inductionHypothesis relation isRelation (isTarget.symm ▸ foundInner)
            (isTarget.symm ▸ declaredInner) (followed relation isRelation).2 queriedInner

/-- The columns that a mutation returns are columns of its table. -/
theorem returns_of_mutationPlan
    {returning : Option (List String)}
    {response : ResponsePlan}
    (represents : interface.Represents schema config)
    (isTable : schema.table? operation.table = some table)
    (planned : interface.mutationPlan operation selection = .ok (returning, response)) :
    table.Returns returning := by
  rintro columns rfl
  cases answers_of_mutationPlan planned with
  | @returning plan _ _ pruned _ =>
      obtain ⟨tidy, loads⟩ := tidy_of_pruneItem pruned
      have isName := Schema.name_of_table? isTable
      refine projects_of_declared (isName.symm ▸ isTable) ?_ tidy loads
      rw [isName]
      exact declared_of_pruneItem represents pruned

/-- The query of a select fits the schema, and stays within the depth limit. -/
theorem fits_of_compileSelect
    {request : Request}
    {response : ResponsePlan}
    (represents : interface.Represents schema config)
    (distinct : ∀ table ∈ schema.tables, table.columnNames.Nodup)
    (found : interface.table? operation.table = some types)
    (compiled : interface.compileSelect types operation arguments selection
      = .ok (request, response)) :
    request.Fits schema config := by
  have isName : types.name = operation.table := name_of_table? found
  rw [compileSelect, bind_eq_ok] at compiled
  obtain ⟨plan, pruned, queried⟩ := compiled
  obtain ⟨tidy, loads⟩ := tidy_of_prune pruned
  have declared : plan.Declared schema types.name :=
    isName.symm ▸ declared_of_prune represents pruned
  have fits : ∀ {given query}, plan.toQuery interface types given "" = .ok query ->
      Request.Fits schema config (.select query) := by
    intro given query asked
    refine ⟨fits_of_toQuery represents distinct (isName.symm ▸ found) declared tidy loads asked,
      fun limit isLimited => ?_⟩
    rw [depth_toQuery plan asked]
    rw [topShape, represents.config_eq, isLimited] at tidy
    exact tidy.depth_le
  split at queried
  all_goals
    obtain ⟨query, asked, same⟩ := bind_eq_ok.1 queried
    cases same
    exact fits asked

/-- The request of an operation whose arguments are sorted fits the schema. -/
theorem fits_of_compileArguments
    {arguments : OperationArguments}
    {request : Request}
    {response : ResponsePlan}
    (represents : interface.Represents schema config)
    (distinct : ∀ table ∈ schema.tables, table.columnNames.Nodup)
    (found : interface.table? operation.table = some types)
    (nameWrites : arguments.NameWrites)
    (compiled : interface.compileArguments types operation arguments selection
      = .ok (request, response)) :
    request.Fits schema config := by
  obtain ⟨table, isTable, mapped⟩ := represents.table?_eq_some.1 found
  have isName : types.name = operation.table := name_of_table? found
  have sameTable : types.table = table := (TableTypes.ofTable_eq_ok mapped).1
  have distinctColumns := distinct table (Schema.mem_of_table? isTable)
  have named : schema.table? types.name = some table := isName.symm ▸ isTable
  cases arguments with
  | select given =>
      rw [compileArguments] at compiled
      exact fits_of_compileSelect represents distinct found compiled
  | insert inputs =>
      simp only [compileArguments, bind_eq_ok, pure_eq_ok, Prod.exists, Prod.mk.injEq] at compiled
      obtain ⟨returning, _, planned, rows, read, rfl, rfl⟩ := compiled
      have pairs := readInsertRows_eq_ok read
      refine .insert named ?_ ?_ (returns_of_mutationPlan represents isTable planned)
      · rintro isEmpty
        dsimp only at isEmpty
        rw [isEmpty, List.forall₂_nil_right_iff] at pairs
        exact nameWrites pairs
      · intro row member
        obtain ⟨entries, _, path, readRow⟩ := exists_item pairs row member
        subst sameTable
        exact inserts_of_readInputRow mapped distinctColumns readRow
  | update entries document =>
      simp only [compileArguments, bind_eq_ok, pure_eq_ok, Prod.exists, Prod.mk.injEq] at compiled
      obtain ⟨returning, _, planned, assignments, read, filter, filters, rfl, rfl⟩ := compiled
      refine .update named (readInputRow_ne_nil read nameWrites) ?_
        (filters_of_compileWhere mapped filters)
        (returns_of_mutationPlan represents isTable planned)
      subst sameTable
      exact writes_of_readInputFields mapped distinctColumns (fun _ => rfl)
        (readInputRow_eq_ok.1 read).2
  | delete document =>
      simp only [compileArguments, bind_eq_ok, pure_eq_ok, Prod.exists, Prod.mk.injEq] at compiled
      obtain ⟨returning, _, planned, filter, filters, rfl, rfl⟩ := compiled
      exact .delete named (filters_of_compileWhere mapped filters)
        (returns_of_mutationPlan represents isTable planned)

/-- The request of an operation that compiles fits the schema. -/
theorem Represents.fits_of_compile
    (represents : interface.Represents schema config)
    (distinct : ∀ table ∈ schema.tables, table.columnNames.Nodup)
    {name : String}
    {arguments : JsonEntries}
    {compiled : CompiledOperation}
    (compiles : interface.compile name arguments selection = .ok compiled) :
    compiled.request.Fits schema config := by
  rw [compile] at compiles
  split at compiles
  · cases compiles
  · simp only [bind_eq_ok, pure_eq_ok, Prod.exists, typesAt_eq_ok] at compiles
    obtain ⟨sorted, read, types, found, request, response, compiledArguments, rfl⟩ := compiles
    exact fits_of_compileArguments represents distinct found
      (OperationArguments.read_nameWrites read) compiledArguments

/-- Every request that is compiled fits the schema: what it names is declared and not repeated, it
loads or writes something at every place, and it stays within the depth limit. -/
theorem compiled_requests_fit
    (schema : Schema)
    (config : EngineConfig)
    (interface : Interface)
    (generated : generate schema config = .ok interface)
    (distinct : ∀ table ∈ schema.tables, table.columnNames.Nodup)
    (name : String)
    (arguments : JsonEntries)
    (selection : Selection)
    (compiled : CompiledOperation)
    (compiles : interface.compile name arguments selection = .ok compiled) :
    compiled.request.Fits schema config :=
  (represents_of_generate generated).fits_of_compile distinct compiles

/-- Users by name, except those without one. -/
def namedUsers : JsonEntries :=
  [("where", .object [("name", .object [("isNotNull", .bool true)])]),
    ("orderBy", .object [("name", .string "asc"), ("id", .string "desc")])]

theorem compiled_requests_fit_blog :
    ∃ interface compiled, generate blog { depthLimit := some 2 } = .ok interface ∧
      interface.compile "users" namedUsers postsTwice = .ok compiled ∧
      compiled.request.Fits blog { depthLimit := some 2 } := by
  have compiles : ((generate blog { depthLimit := some 2 }).toOption.map fun interface =>
      (interface.compile "users" namedUsers postsTwice).toOption.isSome) = some true := by
    decide +kernel
  obtain ⟨interface, generated, isSome⟩ := Option.map_eq_some_iff.1 compiles
  obtain ⟨compiled, succeeded⟩ := Option.isSome_iff_exists.1 isSome
  rw [toOption_eq_some] at generated succeeded
  exact ⟨interface, compiled, generated, succeeded,
    compiled_requests_fit blog _ interface generated (by decide) "users" namedUsers postsTwice
      compiled succeeded⟩

end Interface
end RelationalApi
