import RelationalApi.Answer.Filling
import RelationalApi.Proofs.Selection.Pruning
import RelationalApi.Proofs.Storage.Defaults

/-!
# Answers for affected rows

A mutation answers the rows that it affected without relations: only with columns that it was asked
to return, and the type name.  Such an answer is made without fail from rows that their columns
show.
-/

namespace RelationalApi

open Outcome

/-- An entry for the type name, or for a column that is loaded. -/
inductive OutputEntry.Flat (types : TableTypes) (columns : List String) :
    OutputEntry ObjectOutput -> Prop
  | typename {key : String} : Flat types columns (.typename key)
  | column
      {key name : String}
      {column : ColumnCodec}
      (loaded : name ∈ columns)
      (notTypename : name ≠ typenameField)
      (found : types.column? name = some column) :
      Flat types columns (.column key name)

/-- A plan for rows of a table whose layout has nothing but loaded columns and the type name. -/
structure SelectionPlan.Flat (types : TableTypes) (plan : SelectionPlan) : Prop where
  table : plan.output.table = some types.name
  entries : ∀ entry ∈ plan.output.entries, entry.Flat types plan.columns

theorem OutputEntry.Flat.mono
    {types : TableTypes}
    {columns more : List String}
    {entry : OutputEntry ObjectOutput}
    (flat : entry.Flat types columns)
    (loadsMore : ∀ column ∈ columns, column ∈ more) :
    entry.Flat types more := by
  cases flat with
  | typename => exact .typename
  | column loaded notTypename found => exact .column (loadsMore _ loaded) notTypename found

namespace Interface

variable {interface : Interface} {types : TableTypes} {table path : String}

/-- A field that is pruned for rows without relations keeps a plan flat. -/
theorem pruneField_flat
    {plan extended : SelectionPlan}
    {field : SelectedField}
    (flat : plan.Flat types)
    (pruned : interface.pruneField types none path plan field = .ok extended) :
    extended.Flat types := by
  rcases pruneField_eq_ok.1 pruned with
    ⟨_, _, rfl⟩ | ⟨notTypename, isColumn, _, rfl⟩ | ⟨_, _, _, _, _, _, found, _⟩
  · refine ⟨flat.table, List.forall_mem_append.2 ⟨flat.entries, ?_⟩⟩
    exact List.forall_mem_singleton.2 .typename
  · obtain ⟨column, found⟩ := Option.isSome_iff_exists.1 isColumn
    refine ⟨flat.table, List.forall_mem_append.2 ⟨?_, ?_⟩⟩
    · intro entry member
      exact (flat.entries entry member).mono fun _ loaded => mem_addColumn.2 (.inl loaded)
    · exact List.forall_mem_singleton.2
        (.column (mem_addColumn.2 (.inr rfl)) notTypename found)
  · cases (relationAt_eq_ok.1 found).1

theorem pruneFields_flat
    {plan extended : SelectionPlan}
    {fields : List SelectedField}
    (flat : plan.Flat types)
    (pruned : interface.pruneFields types none path plan fields = .ok extended) :
    extended.Flat types := by
  induction fields generalizing plan with
  | nil =>
      rw [pruneFields] at pruned
      cases pruned
      exact flat
  | cons field fields inductionHypothesis =>
      rw [pruneFields] at pruned
      obtain ⟨next, prunedFirst, prunedRest⟩ := bind_eq_ok.1 pruned
      exact inductionHypothesis (pruneField_flat flat prunedFirst) prunedRest

/-- The plan for the rows that a mutation returns is flat. -/
theorem pruneItem_flat
    {plan : SelectionPlan}
    {selection : Selection}
    (found : interface.table? table = some types)
    (pruned : interface.pruneItem table path selection = .ok plan) :
    plan.Flat types := by
  simp only [pruneItem, bind_eq_ok, pure_eq_ok, typesAt_eq_ok] at pruned
  obtain ⟨_, foundAgain, inner, prunedFields, same⟩ := pruned
  rw [found] at foundAgain
  cases foundAgain
  have flat : inner.Flat types := pruneFields_flat ⟨rfl, by simp [SelectionPlan.empty]⟩ prunedFields
  rw [← same, SelectionPlan.withIdentity]
  split
  · rename_i isEmpty
    refine ⟨flat.table, ?_⟩
    intro entry member
    rw [List.isEmpty_iff] at isEmpty
    exact (flat.entries entry member).mono (by simp [isEmpty])
  · exact flat

/-- A column that was projected from a row whose values are shown is filled. -/
theorem exists_fillColumn
    {name : String}
    {codec : ColumnCodec}
    {columns : List String}
    {stored : StoredRow}
    {row : Row}
    (found : interface.table? table = some types)
    (isColumn : types.column? name = some codec)
    (notTypename : name ≠ typenameField)
    (loaded : name ∈ columns)
    (fields : row.fields = Store.project columns stored)
    (shown : types.Shows stored) :
    ∃ value, fillColumn interface table name row = .ok value := by
  rw [fillColumn, found, Option.bind_some, isColumn, Row.field?, fields,
    Store.fieldValue?_project stored loaded]
  refine (ColumnCodec.isOk_encode_iff _ _).2 ?_
  cases isStored : fieldValue? stored name with
  | none => exact congrArg Option.isSome (Codec.show?_null codec.codec)
  | some value => exact shown name codec value notTypename isColumn isStored

/-- The value of a flat entry is found in a projected row that its columns show. -/
theorem fillEntry_project
    {typeName : String}
    {columns : List String}
    {entry : OutputEntry ObjectOutput}
    {row : StoredRow}
    (found : interface.table? table = some types)
    (flat : entry.Flat types columns)
    (shown : types.Shows row) :
    ∃ value, fillEntry interface typeName table entry ⟨Store.project columns row, []⟩
      = .ok value := by
  cases flat with
  | typename => exact ⟨_, by rw [fillEntry]⟩
  | column loaded notTypename foundColumn =>
      rw [fillEntry]
      exact exists_fillColumn found foundColumn notTypename loaded rfl shown

theorem fillEntries_eq_ok
    {typeName : String}
    {row : Row}
    {entries : List (OutputEntry ObjectOutput)}
    (filled : JsonEntries)
    (succeeds : ∀ entry ∈ entries, ∃ value,
      fillEntry interface typeName table entry row = .ok value) :
    ∃ result, fillEntries interface typeName table entries row filled = .ok result := by
  induction entries generalizing filled with
  | nil => exact ⟨filled, by rw [fillEntries]⟩
  | cons entry entries inductionHypothesis =>
      rw [List.forall_mem_cons] at succeeds
      obtain ⟨value, first⟩ := succeeds.1
      obtain ⟨result, others⟩ := inductionHypothesis (filled.set entry.key value) succeeds.2
      refine ⟨result, ?_⟩
      rw [fillEntries, first]
      exact others

/-- The object for a projected row that its columns show is made without fail. -/
theorem fillObject_project
    {plan : SelectionPlan}
    {row : StoredRow}
    (found : interface.table? types.name = some types)
    (flat : plan.Flat types)
    (shown : types.Shows row) :
    ∃ object, fillObject interface plan.output ⟨Store.project plan.columns row, []⟩
      = .ok object := by
  obtain ⟨columns, relations, typeName, table, entries⟩ := plan
  obtain ⟨sameTable, flatEntries⟩ := flat
  dsimp only at sameTable flatEntries ⊢
  obtain ⟨filled, succeeded⟩ := fillEntries_eq_ok [] fun entry member =>
    @fillEntry_project interface types types.name typeName columns entry row found
      (flatEntries entry member) shown
  refine ⟨.object filled, ?_⟩
  rw [fillObject, sameTable, Option.getD_some, succeeded]
  rfl

end Interface
end RelationalApi
