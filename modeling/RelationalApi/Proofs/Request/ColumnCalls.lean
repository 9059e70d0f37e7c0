import RelationalApi.Proofs.Answer.Columns
import RelationalApi.Proofs.Request.ClientCalls
import RelationalApi.Proofs.Storage.Selects

/-!
# Operations on columns

What operations that select nothing but columns read from a store, leave in it and answer.  A select
and a mutation of one table read their conditions alike, and all answers show stored rows alike.
-/

namespace RelationalApi

open Outcome

/-- The condition among the arguments of an operation. -/
def whereOf (arguments : JsonEntries) : Json :=
  (given? arguments "where").getD .null

/-- The condition is the only argument. -/
def OnlyWhere (arguments : JsonEntries) : Prop :=
  ∀ argument ∈ arguments, argument.1 = "where"

theorem checkArguments_eq_ok
    {allowed : List String}
    {path : String}
    {arguments : JsonEntries} :
    checkArguments allowed path arguments = .ok () ↔
      ∀ argument ∈ arguments, argument.1 ∈ allowed := by
  rw [checkArguments]
  cases found : arguments.find? fun argument => !allowed.contains argument.1 with
  | none =>
      rw [List.find?_eq_none] at found
      refine iff_of_true rfl ?_
      intro argument member
      simpa using found argument member
  | some argument =>
      have notAllowed := List.find?_some found
      refine iff_of_false (by simp) ?_
      intro areAllowed
      have isAllowed := areAllowed argument (List.mem_of_find?_eq_some found)
      simp [isAllowed] at notAllowed

theorem given?_of_absent
    {arguments : JsonEntries}
    {name : String}
    (absent : ∀ argument ∈ arguments, argument.1 ≠ name) :
    given? arguments name = none := by
  have notFound : arguments.lookup name = none := by
    rw [← Option.not_isSome_iff_eq_none, JsonEntries.isSome_lookup_iff]
    intro member
    obtain ⟨argument, argumentMember, isNamed⟩ := List.mem_map.1 member
    exact absent argument argumentMember isNamed
  rw [given?, notFound]

theorem OnlyWhere.given?_eq_none
    {arguments : JsonEntries}
    {name : String}
    (onlyWhere : OnlyWhere arguments)
    (other : name ≠ "where") :
    given? arguments name = none :=
  given?_of_absent fun argument member isNamed =>
    other (isNamed.symm.trans (onlyWhere argument member))

/-- A select that is given only a condition has neither order nor page. -/
theorem OnlyWhere.read_selectMany
    {arguments : JsonEntries}
    (onlyWhere : OnlyWhere arguments)
    (table : String) :
    OperationArguments.read ⟨.selectMany, table⟩ arguments
      = .ok (.select { filter := whereOf arguments }) := by
  have checked : checkArguments OperationKind.selectMany.argumentNames
      (OperationKind.selectMany.operationName table) arguments = .ok () := by
    refine checkArguments_eq_ok.2 fun argument member => ?_
    rw [onlyWhere argument member]
    decide
  have noCount : ∀ name, name ≠ "where" -> ∀ path, readCount arguments path name = .ok none := by
    intro name other path
    rw [readCount, onlyWhere.given?_eq_none other]
  rw [OperationArguments.read, check_bind_eq_ok]
  refine ⟨checked, bind_eq_ok.2 ⟨_, ?_, rfl⟩⟩
  rw [SelectArguments.read, noCount "offset" (by decide), noCount "limit" (by decide),
    onlyWhere.given?_eq_none (by decide)]
  rfl

/-- The assignments of an update are the entries of its `set` object. -/
theorem given?_of_readAssignments
    {operation : String}
    {arguments entries : JsonEntries}
    {document : Json}
    (required : requireArgument operation arguments "set" = .ok document)
    (read : readAssignments operation document = .ok entries) :
    given? arguments "set" = some (.object entries) := by
  obtain ⟨found, readObject, kept⟩ := bind_eq_ok.1 read
  have same : found = entries := by
    split at kept
    · cases kept
    · exact Except.ok.inj kept
  subst same
  cases document with
  | object others =>
      cases readObject
      rw [requireArgument] at required
      split at required
      · rename_i isGiven
        cases required
        exact isGiven
      · cases required
  | _ => cases readObject

/-- Only fields of an input object are read from it. -/
theorem mem_keys_of_readInputFields
    {types : TableTypes}
    {fields : List InputField}
    {path : String}
    {entries : JsonEntries}
    {values : List FieldValue}
    (read : readInputFields types path entries fields = .ok values) :
    ∀ value ∈ values, value.field ∈ entries.keys := by
  induction fields generalizing values with
  | nil =>
      rw [readInputFields] at read
      cases read
      simp
  | cons field fields inductionHypothesis =>
      rw [readInputFields.eq_def] at read
      dsimp only at read
      split at read
      · split at read
        · cases read
        · exact inductionHypothesis read
      · cases read
      · rename_i document column given _
        simp only [bind_eq_ok, pure_eq_ok] at read
        obtain ⟨value, _, others, readOthers, rfl⟩ := read
        refine List.forall_mem_cons.2 ⟨?_, inductionHypothesis readOthers⟩
        rw [← JsonEntries.isSome_lookup_iff, given]
        rfl

theorem mem_keys_of_readInputRow
    {types : TableTypes}
    {fields : List InputField}
    {path : String}
    {entries : JsonEntries}
    {values : List FieldValue}
    (read : readInputRow types fields path entries = .ok values) :
    ∀ value ∈ values, value.field ∈ entries.keys := by
  rw [readInputRow] at read
  split at read
  · cases read
  · exact mem_keys_of_readInputFields read

namespace Interface

variable {interface : Interface} {schema storage : Schema} {config : EngineConfig}
variable {table : Table} {types : TableTypes} {selection : Selection} {arguments : JsonEntries}
variable {now : Timestamp} {store changed : Store} {answer : Json} {compiled : CompiledOperation}

/-- An answer shows rows by a selection of columns. -/
def ShowsRows (interface : Interface) (types : TableTypes) (selection : Selection)
    (rows : List StoredRow) (answer : Json) : Prop :=
  ∃ items, rows.mapM (interface.showRow types selection) = .ok items ∧ .array items = answer

theorem fillRows_ofColumns {typeName : String} {rows : List StoredRow} :
    fillRows interface (SelectionPlan.ofColumns typeName types selection).output
        (rows.map fun row => ⟨Store.project (loadedColumns types.identity selection) row, []⟩)
        = .ok answer ↔
      interface.ShowsRows types selection rows answer := by
  simp only [fillRows, bind_eq_ok, pure_eq_ok, mapM_eq_ok, List.forall₂_map_left_iff,
    fillObject_ofColumns, ShowsRows]

theorem Represents.areColumns
    (represents : interface.Represents schema config)
    (member : table ∈ schema.tables)
    (found : interface.table? table.name = some types)
    (hasFields : table.HasFields selection) :
    ∀ field ∈ selection,
      field.name ≠ typenameField ∧ (types.column? field.name).isSome = true := by
  intro field fieldMember
  obtain ⟨isColumn, notTypename⟩ := hasFields field fieldMember
  exact ⟨notTypename, represents.isSome_column? found member isColumn⟩

theorem Represents.compile_eq_ok
    (represents : interface.Represents schema config)
    (member : table ∈ schema.tables)
    (found : interface.table? table.name = some types)
    {kind : OperationKind} :
    interface.compile (kind.operationName table.name) arguments selection = .ok compiled ↔
      ∃ sorted request response,
        OperationArguments.read ⟨kind, table.name⟩ arguments = .ok sorted ∧
          interface.compileArguments types ⟨kind, table.name⟩ sorted selection
            = .ok (request, response) ∧
          ⟨⟨kind, table.name⟩, request, response⟩ = compiled := by
  rw [compile, represents.operation?_name member kind]
  simp only [bind_eq_ok, pure_eq_ok, typesAt_eq_ok, found, Option.some.injEq, exists_eq_left',
    Prod.exists]
  constructor
  · rintro ⟨sorted, read, request, response, compiles, same⟩
    exact ⟨sorted, request, response, read, compiles, same⟩
  · rintro ⟨sorted, request, response, read, compiles, same⟩
    exact ⟨sorted, read, request, response, compiles, same⟩

/-- An operation on a table that succeeds sorts its arguments, compiles and is carried out. -/
theorem Represents.run_of_execute
    (represents : interface.Represents schema config)
    (member : table ∈ schema.tables)
    (found : interface.table? table.name = some types)
    {kind : OperationKind}
    (succeeded : interface.execute (Store.executor storage now) (kind.operationName table.name)
      arguments selection store = (.ok answer, changed)) :
    ∃ sorted request response,
      OperationArguments.read ⟨kind, table.name⟩ arguments = .ok sorted ∧
        interface.compileArguments types ⟨kind, table.name⟩ sorted selection
          = .ok (request, response) ∧
        interface.run (Store.executor storage now) ⟨⟨kind, table.name⟩, request, response⟩ store
          = (.ok answer, changed) := by
  obtain ⟨_, compiles, ran⟩ := execute_eq_ok.1 succeeded
  obtain ⟨sorted, request, response, read, compiled, rfl⟩ :=
    (represents.compile_eq_ok member found).1 compiles
  exact ⟨sorted, request, response, read, compiled, ran⟩

section Selects

/-- The query for columns of the rows that a condition holds on. -/
def columnQuery (types : TableTypes) (selection : Selection) (filter : Option Filter) :
    SelectQuery where
  table := types.name
  columns := loadedColumns types.identity selection
  filter := filter

theorem toQuery_ofColumns
    {typeName : String}
    {document : Json}
    {query : SelectQuery} :
    (SelectionPlan.ofColumns typeName types selection).toQuery interface types
        { filter := document } "" = .ok query ↔
      ∃ filter, compileWhere types.columns "where" document = .ok filter ∧
        columnQuery types selection filter = query := by
  rw [SelectionPlan.ofColumns, SelectionPlan.toQuery]
  have noOrder : compileOrderBy types.columns (extendPath "" "orderBy") .null = .ok [] := rfl
  have noIncludes : RelationPlan.toQueries interface "" [] = .ok [] := by
    rw [RelationPlan.toQueries]
  simp only [noOrder, noIncludes, bind_eq_ok, pure_eq_ok, Except.ok.injEq, exists_eq_left']
  exact Iff.rfl

theorem select_columnQuery {filter : Option Filter} {rows : List Row} :
    store.select storage (columnQuery types selection filter) = .ok rows ↔
      (∃ stored, storage.table? types.name = some stored ∧
        Store.checkColumns stored (loadedColumns types.identity selection) = .ok ()) ∧
      ((store.rows types.name).filter (Filter.accepts filter)).map
        (fun row => ⟨Store.project (loadedColumns types.identity selection) row, []⟩) = rows := by
  have returns : Store.Returns storage store (columnQuery types selection filter) =
      fun stored row =>
        ⟨Store.project (loadedColumns types.identity selection) stored, []⟩ = row := by
    funext stored row
    obtain ⟨fields, relations⟩ := row
    rw [Store.Returns, columnQuery, Store.followIncludes, Row.mk.injEq, Except.ok.injEq,
      @eq_comm _ fields]
  rw [Store.select, Store.selectFrom_eq_ok, Store.selected_eq_filter rfl rfl rfl, returns,
    ← List.forall₂_map_left_iff, List.forall₂_eq_eq_eq]
  exact Iff.rfl

/-- A select of columns that is given only a condition queries the rows that the condition holds
on. -/
theorem Represents.compile_selectMany
    (represents : interface.Represents schema config)
    (member : table ∈ schema.tables)
    (found : interface.table? table.name = some types)
    (hasFields : table.HasFields selection)
    (onlyWhere : OnlyWhere arguments) :
    interface.compile (OperationKind.selectMany.operationName table.name) arguments selection
        = .ok compiled ↔
      Leaves selection ∧ ∃ filter,
        compileWhere types.columns "where" (whereOf arguments) = .ok filter ∧
          ⟨⟨.selectMany, table.name⟩, .select (columnQuery types selection filter),
            .list (.ofColumns (interface.shapeTypeName (interface.topShape table.name)) types
              selection)⟩ = compiled := by
  have planned : ∀ path plan,
      interface.prune (interface.topShape table.name) path selection = .ok plan ↔ _ :=
    fun path plan => @prune_columns interface types path selection (interface.topShape table.name)
      plan found (represents.areColumns member found hasFields)
  rw [represents.compile_eq_ok member found, onlyWhere.read_selectMany]
  simp only [Except.ok.injEq, exists_eq_left', exists_and_left, compileArguments, compileSelect,
    bind_eq_ok, planned, reduceCtorEq, if_false, pure_eq_ok, Prod.mk.injEq]
  constructor
  · rintro ⟨_, _, ⟨_, ⟨leaves, rfl⟩, _, queried, rfl, rfl⟩, rfl⟩
    obtain ⟨filter, compiles, rfl⟩ := toQuery_ofColumns.1 queried
    exact ⟨leaves, filter, compiles, rfl⟩
  · rintro ⟨leaves, filter, compiles, rfl⟩
    refine ⟨_, _, ⟨_, ⟨leaves, rfl⟩, _, ?_, rfl, rfl⟩, rfl⟩
    exact toQuery_ofColumns.2 ⟨filter, compiles, rfl⟩

/-- A select of columns that is given only a condition shows, in their stored order, the rows that
the condition holds on. -/
theorem Represents.execute_selectMany
    (represents : interface.Represents schema config)
    (member : table ∈ schema.tables)
    (found : interface.table? table.name = some types)
    (hasFields : table.HasFields selection)
    (onlyWhere : OnlyWhere arguments) :
    interface.execute (Store.executor storage now)
        (OperationKind.selectMany.operationName table.name) arguments selection store
        = (.ok answer, changed) ↔
      store = changed ∧ Leaves selection ∧
        (∃ stored, storage.table? types.name = some stored ∧
          Store.checkColumns stored (loadedColumns types.identity selection) = .ok ()) ∧
        ∃ filter, compileWhere types.columns "where" (whereOf arguments) = .ok filter ∧
          interface.ShowsRows types selection
            ((store.rows types.name).filter (Filter.accepts filter)) answer := by
  rw [execute_eq_ok]
  simp only [represents.compile_selectMany member found hasFields onlyWhere]
  constructor
  · rintro ⟨_, ⟨leaves, filter, compiled, rfl⟩, ran⟩
    obtain ⟨kept, rows, selected, answered⟩ := (run_select rfl).1 ran
    obtain ⟨known, rfl⟩ := select_columnQuery.1 selected
    exact ⟨kept, leaves, known, filter, compiled, fillRows_ofColumns.1 answered⟩
  · rintro ⟨kept, leaves, known, filter, compiled, shows⟩
    exact ⟨_, ⟨leaves, filter, compiled, rfl⟩, (run_select rfl).2
      ⟨kept, _, select_columnQuery.2 ⟨known, rfl⟩, fillRows_ofColumns.2 shows⟩⟩

end Selects

section Mutations

/-- The answer for affected rows shows them. -/
theorem ofResult_columns
    {typeName operation : String}
    {affected : List StoredRow}
    (answered : (ResponsePlan.list (.ofColumns typeName types selection)).ofResult interface
      operation (Store.answer (some (loadedColumns types.identity selection)) affected)
        = .ok answer) :
    interface.ShowsRows types selection affected answer :=
  fillRows_ofColumns.1 answered

variable (represents : interface.Represents schema config)
variable (configured : config.mutationResponse = .returning) (member : table ∈ schema.tables)
variable (found : interface.table? table.name = some types) (hasFields : table.HasFields selection)

include represents configured member found hasFields

/-- A mutation of columns returns what the plan of its answer loads. -/
theorem Represents.mutationPlan_columns
    {kind : OperationKind}
    {returning : Option (List String)}
    {response : ResponsePlan}
    (several : kind ≠ .insertOne)
    (planned : interface.mutationPlan ⟨kind, table.name⟩ selection = .ok (returning, response)) :
    some (loadedColumns types.identity selection) = returning ∧
      .list (.ofColumns (itemTypeName types.name) types selection) = response := by
  have areColumns := represents.areColumns member found hasFields
  rw [mutationPlan, represents.config_eq, configured] at planned
  dsimp only at planned
  simp only [bind_eq_ok, pruneItem_columns found areColumns, if_neg several, pure_eq_ok,
    Prod.mk.injEq] at planned
  obtain ⟨_, ⟨_, rfl⟩, same, rfl⟩ := planned
  exact ⟨same, rfl⟩

/-- An insert puts rows behind the stored ones and shows them. -/
theorem Represents.execute_insertMany
    (inserted : interface.execute (Store.executor storage now)
      (OperationKind.insertMany.operationName table.name) arguments selection store
        = (.ok answer, changed)) :
    ∃ rows, changed.rows types.name = store.rows types.name ++ rows ∧
      interface.ShowsRows types selection rows answer := by
  obtain ⟨sorted, request, response, read, compiled, ran⟩ :=
    represents.run_of_execute member found inserted
  simp only [OperationArguments.read, bind_eq_ok, pure_eq_ok] at read
  obtain ⟨_, _, document, _, inputs, _, rfl⟩ := read
  simp only [compileArguments, bind_eq_ok, pure_eq_ok, Prod.exists, Prod.mk.injEq] at compiled
  obtain ⟨returning, _, planned, given, _, rfl, rfl⟩ := compiled
  obtain ⟨rfl, rfl⟩ :=
    represents.mutationPlan_columns configured member found hasFields (by decide) planned
  obtain ⟨result, mutated, answered⟩ := (run_mutate rfl).1 ran
  obtain ⟨stored, rows, isTable, _, rfl, rfl⟩ := Store.insert_eq_ok.1 mutated
  have sameName : stored.name = types.name := Schema.name_of_table? isTable
  refine ⟨rows, ?_, ofResult_columns answered⟩
  rw [sameName, Store.rows_setRows]

/-- A delete keeps the rows that its condition does not hold on, and shows the others. -/
theorem Represents.execute_delete
    (deleted : interface.execute (Store.executor storage now)
      (OperationKind.delete.operationName table.name) arguments selection store
        = (.ok answer, changed)) :
    OnlyWhere arguments ∧ ∃ filter,
      compileWhere types.columns "where" (whereOf arguments) = .ok filter ∧
        changed.rows types.name = (store.rows types.name).filter (!Filter.accepts filter ·) ∧
        interface.ShowsRows types selection
          ((store.rows types.name).filter (Filter.accepts filter)) answer := by
  obtain ⟨sorted, request, response, read, compiled, ran⟩ :=
    represents.run_of_execute member found deleted
  rw [OperationArguments.read, check_bind_eq_ok, checkArguments_eq_ok, pure_eq_ok] at read
  obtain ⟨allowed, rfl⟩ := read
  simp only [compileArguments, bind_eq_ok, pure_eq_ok, Prod.exists, Prod.mk.injEq] at compiled
  obtain ⟨returning, _, planned, filter, compiledFilter, rfl, rfl⟩ := compiled
  obtain ⟨rfl, rfl⟩ :=
    represents.mutationPlan_columns configured member found hasFields (by decide) planned
  obtain ⟨result, mutated, answered⟩ := (run_mutate rfl).1 ran
  obtain ⟨stored, isTable, rfl, rfl⟩ := Store.delete_eq_ok.1 mutated
  have sameName : stored.name = types.name := Schema.name_of_table? isTable
  rw [sameName] at answered ⊢
  refine ⟨fun argument argumentMember => List.mem_singleton.1 (allowed argument argumentMember),
    filter, compiledFilter, ?_, ofResult_columns answered⟩
  rw [Store.rows_setRows]

/-- An update assigns only to fields of its `set` object, where its condition holds, and shows the
rows that it has assigned to. -/
theorem Represents.execute_update
    (updated : interface.execute (Store.executor storage now)
      (OperationKind.update.operationName table.name) arguments selection store
        = (.ok answer, changed)) :
    ∃ entries statement, given? arguments "set" = some (.object entries) ∧
      compileWhere types.columns "where" (whereOf arguments) = .ok statement.filter ∧
      (∀ assignment ∈ statement.assignments, assignment.field ∈ JsonEntries.keys entries) ∧
      changed.rows types.name =
        (Store.updateMatched statement (store.rows types.name)).map (·.2) ∧
      interface.ShowsRows types selection
        (Store.affectedRows statement (store.rows types.name)) answer := by
  obtain ⟨sorted, request, response, read, compiled, ran⟩ :=
    represents.run_of_execute member found updated
  simp only [OperationArguments.read, bind_eq_ok, pure_eq_ok] at read
  obtain ⟨_, _, document, required, entries, readEntries, rfl⟩ := read
  have isObject := given?_of_readAssignments required readEntries
  simp only [compileArguments, bind_eq_ok, pure_eq_ok, Prod.exists, Prod.mk.injEq] at compiled
  obtain ⟨returning, _, planned, assignments, readSet, filter, compiledFilter, rfl, rfl⟩ := compiled
  obtain ⟨rfl, rfl⟩ :=
    represents.mutationPlan_columns configured member found hasFields (by decide) planned
  obtain ⟨result, mutated, answered⟩ := (run_mutate rfl).1 ran
  obtain ⟨stored, isTable, _, _, _, rfl, rfl⟩ := Store.update_eq_ok.1 mutated
  have sameName : stored.name = types.name := Schema.name_of_table? isTable
  rw [sameName] at answered ⊢
  refine ⟨entries, ⟨types.name, assignments, filter, _⟩, isObject, compiledFilter,
    mem_keys_of_readInputRow readSet, ?_, ofResult_columns answered⟩
  rw [Store.rows_setRows]

end Mutations

end Interface
end RelationalApi
