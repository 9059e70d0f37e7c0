import RelationalApi.Proofs.Request.ClientCalls
import RelationalApi.Proofs.Selection.Columns
import RelationalApi.Proofs.Storage.Samples

/-!
# Failures of operations

An operation that fails is meant to leave the rows of every table as they were.  It does so unless
its answer cannot be made after the rows have been changed.  Whether that can happen is decided by
the defaults of the columns: a default that its column does not show gets into rows without a
client ever giving it a value.
-/

namespace RelationalApi

open Outcome

namespace Interface

variable {interface : Interface} {schema : Schema} {config : EngineConfig} {now : Timestamp}
variable {store : Store} {table : Table} {types : TableTypes} {hidden : String}

/-- Whatever clients have done before, an operation that fails leaves the rows of every table as
they were. -/
def FailuresKeepRows (interface : Interface) : Prop :=
  ∀ (calls : List (Timestamp × ClientCall)) (now : Timestamp) (name : String)
    (arguments : JsonEntries) (selection : Selection) (fault : EngineError) (changed : Store),
    (∀ call ∈ calls, call.2.WellFormed) -> (Json.object arguments).isWellFormed = true ->
      interface.executeOn now name arguments selection (interface.afterCalls calls)
          = (.error fault, changed) ->
        ∀ table, changed.rows table = (interface.afterCalls calls).rows table

/-- The plan for one column of the rows of a table. -/
def columnPlan (types : TableTypes) (column : String) : SelectionPlan :=
  ⟨[column], [], ⟨itemTypeName types.name, some types.name, [.column column column]⟩⟩

theorem pruneItem_column
    (found : interface.table? table.name = some types)
    (notTypename : hidden ≠ typenameField)
    (isColumn : (types.column? hidden).isSome = true)
    (path : String) :
    interface.pruneItem table.name path [{ name := hidden }] = .ok (columnPlan types hidden) := by
  have areColumns : ∀ field ∈ [({ name := hidden } : SelectedField)],
      field.name ≠ typenameField ∧ (types.column? field.name).isSome = true :=
    List.forall_mem_singleton.2 ⟨notTypename, isColumn⟩
  exact (pruneItem_columns found areColumns).2 ⟨List.forall_mem_singleton.2 ⟨rfl, rfl⟩, rfl⟩

/-- The deletion of all rows of a table that returns one column. -/
theorem compile_delete
    (represents : interface.Represents schema config)
    (returning : config.mutationResponse = .returning)
    (member : table ∈ schema.tables)
    (found : interface.table? table.name = some types)
    (notTypename : hidden ≠ typenameField)
    (isColumn : (types.column? hidden).isSome = true) :
    interface.compile (OperationKind.delete.operationName table.name) [] [{ name := hidden }]
      = .ok ⟨⟨.delete, table.name⟩, .mutate (.delete ⟨types.name, none, some [hidden]⟩),
          .list (columnPlan types hidden)⟩ := by
  rw [compile, represents.operation?_name member .delete]
  refine bind_eq_ok.2 ⟨.delete .null, rfl, bind_eq_ok.2 ⟨types, typesAt_eq_ok.2 found, ?_⟩⟩
  refine bind_eq_ok.2 ⟨(.mutate (.delete ⟨types.name, none, some [hidden]⟩),
    .list (columnPlan types hidden)), ?_, rfl⟩
  have planned : interface.mutationPlan ⟨.delete, table.name⟩ [{ name := hidden }]
      = .ok (some [hidden], .list (columnPlan types hidden)) := by
    rw [mutationPlan, represents.config_eq, returning]
    exact bind_eq_ok.2 ⟨columnPlan types hidden,
      pruneItem_column found notTypename isColumn _, rfl⟩
  exact bind_eq_ok.2 ⟨_, planned, bind_eq_ok.2 ⟨none, by rw [compileWhere], rfl⟩⟩

/-- A row is not answered where it holds a value that its column does not show. -/
theorem fillRows_column
    (found : interface.table? types.name = some types)
    {column : ColumnCodec}
    (foundColumn : types.column? hidden = some column)
    {row : StoredRow}
    {stored : Value}
    (foundStored : fieldValue? row hidden = some stored)
    (notShown : (column.codec.show? stored).isSome = false) :
    fillRows interface (columnPlan types hidden).output [⟨Store.project [hidden] row, []⟩] =
      .error (.valueNotShown column.column stored.kindName column.codec.form) := by
  have filled : fillColumn interface types.name hidden ⟨Store.project [hidden] row, []⟩ =
      .error (.valueNotShown column.column stored.kindName column.codec.form) := by
    rw [fillColumn, found, Option.bind_some, foundColumn, Row.field?,
      Store.fieldValue?_project row List.mem_cons_self, foundStored, Option.getD_some]
    exact ColumnCodec.encode_eq_error notShown
  rw [fillRows, List.mapM_cons, columnPlan]
  rw [fillObject]
  rw [Option.getD_some, fillEntries, fillEntry, filled]
  rfl

/-- The deletion of a row fails where the row holds a value that its column does not show. -/
theorem delete_fails
    (represents : interface.Represents schema config)
    (returning : config.mutationResponse = .returning)
    (member : table ∈ schema.tables)
    (found : interface.table? table.name = some types)
    (notTypename : hidden ≠ typenameField)
    {column : ColumnCodec}
    (foundColumn : types.column? hidden = some column)
    {row : StoredRow}
    (rows : store.rows table.name = [row])
    {stored : Value}
    (foundStored : fieldValue? row hidden = some stored)
    (notShown : (column.codec.show? stored).isSome = false) :
    ∃ fault changed, interface.executeOn now (OperationKind.delete.operationName table.name) []
        [{ name := hidden }] store = (.error fault, changed) ∧
      changed.rows table.name = [] := by
  have sameName := name_of_table? found
  have named : schema.table? types.name = some table := by
    rw [sameName, Schema.table?_name member]
  let statement : DeleteStatement := ⟨types.name, none, some [hidden]⟩
  let result : MutationResult := Store.answer (some [hidden]) [row]
  have mutated : store.mutate schema now (.delete statement)
      = .ok (result, store.setRows table.name []) := by
    refine Store.delete_eq_ok.2 ⟨table, named, ?_, ?_⟩
    · rw [rows]
      rfl
    · rw [rows]
      rfl
  refine ⟨.execution (.valueNotShown column.column stored.kindName column.codec.form),
    store.setRows table.name [], ?_, Store.rows_setRows _ _ _⟩
  rw [executeOn, execute,
    compile_delete represents returning member found notTypename (by rw [foundColumn]; rfl)]
  dsimp only [run]
  simp only [Store.executor, Store.apply, bind, StateT.bind, pure, StateT.pure]
  rw [represents.schema_eq, mutated]
  rw [← sameName] at found
  change ((fillRows interface (columnPlan types hidden).output
    [⟨Store.project [hidden] row, []⟩]).mapError EngineError.execution, _) = _
  rw [fillRows_column found foundColumn foundStored notShown]
  rfl

/-- Where a column does not show its default and mutations answer rows, clients can insert a row
that omits the column, and lose it by a deletion that fails. -/
theorem Represents.not_failuresKeepRows
    (represents : interface.Represents schema config)
    (returning : config.mutationResponse = .returning)
    (typesMember : types ∈ interface.tables)
    (hides : types.showsDefaults = false) :
    ¬interface.FailuresKeepRows := by
  intro keeps
  obtain ⟨table, member, mapped⟩ :=
    exists_item (mapM_eq_ok.1 represents.tables_eq) types typesMember
  have sameTable := (TableTypes.ofTable_eq_ok mapped).1
  have named := Schema.table?_name member
  have found := represents.table?_eq_some.2 ⟨table, named, mapped⟩
  obtain ⟨hidden, first, column, value, notTypename, canOmit, foundFirst, foundColumn, omitted,
    notShown⟩ := TableTypes.exists_hidden hides
  rw [sameTable] at canOmit foundFirst
  obtain ⟨fixture, row, stored, wellFormed, rows, foundStored, storedHidden⟩ :=
    Store.exists_load named mapped canOmit foundFirst omitted notShown default
  rw [← represents.schema_eq] at rows
  let calls : List (Timestamp × ClientCall) := [(default, .load fixture)]
  obtain ⟨fault, changed, failed, emptied⟩ := @delete_fails interface schema config default
    (interface.afterCalls calls) table types hidden represents returning member found notTypename
    column foundColumn row rows stored foundStored storedHidden
  have kept := keeps calls default _ [] _ fault changed (List.forall_mem_singleton.2 wellFormed)
    (by decide) failed table.name
  rw [emptied] at kept
  exact absurd (kept.trans rows) (List.cons_ne_nil row []).symm

/-- Operations that fail keep the rows of every table exactly where answers only say that an
operation succeeded, or where the columns of all tables show their defaults. -/
theorem failuresKeepRows_iff
    (generated : generate schema config = .ok interface) :
    interface.FailuresKeepRows ↔
      config.mutationResponse = .success ∨
        ∀ types ∈ interface.tables, types.showsDefaults = true := by
  have represents := represents_of_generate generated
  constructor
  · intro keeps
    cases response : config.mutationResponse with
    | success => exact .inl rfl
    | returning =>
        refine .inr fun types member => ?_
        cases shows : types.showsDefaults with
        | true => rfl
        | false => exact absurd keeps (represents.not_failuresKeepRows response member shows)
  · intro shows calls now name arguments selection fault changed callsWellFormed wellFormed failed
      table
    rw [represents.unchanged_of_failure shows (represents.reached_afterCalls callsWellFormed)
      wellFormed failed]

/-- A table of tasks, the priority of which is a text with a default. -/
def tasks (priority : ColumnDefault) : Schema :=
  Schema.empty.withTable
    { name := "tasks"
      columns :=
        [ { name := "id", kind := .integer 32 false, primaryKey := true },
          { name := "priority", kind := .text none, nullable := true, default := some priority } ] }

theorem failuresKeepRows_tasks :
    ∃ interface, generate (tasks (.string "low")) {} = .ok interface ∧
      interface.FailuresKeepRows := by
  have generates : ((generate (tasks (.string "low")) {}).toOption.map fun interface =>
      interface.tables.all (·.showsDefaults)) = some true := by
    decide +kernel
  obtain ⟨interface, generated, shows⟩ := Option.map_eq_some_iff.1 generates
  rw [toOption_eq_some] at generated
  exact ⟨interface, generated, (failuresKeepRows_iff generated).2 (.inr (List.all_eq_true.1 shows))⟩

/-- With a number as the default, an insert that omits the priority fails after it has added the
task. -/
theorem not_failuresKeepRows_tasks :
    ∃ interface, generate (tasks (.int 5)) {} = .ok interface ∧ ¬interface.FailuresKeepRows := by
  let values : JsonEntries := [("values", .object [("id", .int 1)])]
  let selection : Selection := [{ name := "id" }, { name := "priority" }]
  have generates : ((generate (tasks (.int 5)) {}).toOption.map fun interface =>
      match interface.executeOn default "insertIntoTasksSingle" values selection Store.empty with
      | (.error _, changed) => (changed.rows "tasks").length
      | (.ok _, _) => 0) = some 1 := by
    decide +kernel
  obtain ⟨interface, generated, runs⟩ := Option.map_eq_some_iff.1 generates
  rw [toOption_eq_some] at generated
  refine ⟨interface, generated, fun keeps => ?_⟩
  split at runs
  · rename_i fault changed failed
    have kept := keeps [] default "insertIntoTasksSingle" values selection fault changed (by simp)
      (by decide +kernel) failed "tasks"
    rw [kept] at runs
    cases runs
  · cases runs

end Interface
end RelationalApi
