import RelationalApi.Proofs.Interface.Generation
import RelationalApi.Proofs.Selection.Pruning

/-!
# Selections of columns

A selection of nothing but columns is pruned alike for selected rows and for the rows of mutations.
Its plan loads the columns, each once, and lays them out in the order of the selection.
-/

namespace RelationalApi

open Outcome

/-- All fields of a selection are columns of a table. -/
def Table.HasFields (table : Table) (selection : Selection) : Prop :=
  ∀ field ∈ selection, field.name ∈ table.columnNames ∧ field.name ≠ typenameField

instance (table : Table) (selection : Selection) : Decidable (table.HasFields selection) :=
  inferInstanceAs (Decidable (∀ field ∈ selection, _ ∧ _))

/-- All fields of a selection have neither arguments nor fields below them. -/
def Leaves (selection : Selection) : Prop :=
  ∀ field ∈ selection, field.arguments = [] ∧ field.selection = []

/-- The entries for columns, in the order of their fields. -/
def columnEntries (selection : Selection) : List (OutputEntry ObjectOutput) :=
  selection.map fun field => .column field.key field.name

/-- The columns that are loaded after the fields of a selection. -/
def addFields (columns : List String) (selection : Selection) : List String :=
  selection.foldl (fun columns field => addColumn columns field.name) columns

/-- The columns that are loaded for a selection of columns. -/
def loadedColumns (identity : String) (selection : Selection) : List String :=
  if (addFields [] selection).isEmpty then [identity] else addFields [] selection

theorem mem_addFields {columns : List String} {selection : Selection} {column : String} :
    column ∈ addFields columns selection ↔
      column ∈ columns ∨ ∃ field ∈ selection, field.name = column := by
  induction selection generalizing columns with
  | nil => simp [addFields]
  | cons field selection inductionHypothesis =>
      change column ∈ addFields (addColumn columns field.name) selection ↔ _
      rw [inductionHypothesis, mem_addColumn, List.exists_mem_cons_iff, or_assoc,
        @eq_comm _ column field.name]

/-- Every column of a selection is loaded. -/
theorem mem_loadedColumns
    {identity : String}
    {selection : Selection}
    {field : SelectedField}
    (member : field ∈ selection) :
    field.name ∈ loadedColumns identity selection := by
  have loaded : field.name ∈ addFields [] selection := mem_addFields.2 (.inr ⟨field, member, rfl⟩)
  rw [loadedColumns, if_neg]
  · exact loaded
  · rw [List.isEmpty_iff]
    exact List.ne_nil_of_mem loaded

/-- The plan for columns of the rows of a table. -/
def SelectionPlan.ofColumns (typeName : String) (types : TableTypes) (selection : Selection) :
    SelectionPlan :=
  ⟨loadedColumns types.identity selection, [],
    ⟨typeName, some types.name, columnEntries selection⟩⟩

namespace Interface

variable {interface : Interface} {schema : Schema} {config : EngineConfig} {table : Table}
variable {types : TableTypes} {path : String} {selection : Selection}

theorem Represents.isSome_column?
    (represents : interface.Represents schema config)
    (found : interface.table? table.name = some types)
    (member : table ∈ schema.tables)
    {column : String}
    (isColumn : column ∈ table.columnNames) :
    (types.column? column).isSome = true := by
  obtain ⟨_, _, mapped, foundAgain⟩ := represents.exists_table? member
  rw [found] at foundAgain
  cases foundAgain
  obtain ⟨_, column, _, foundColumn⟩ := TableTypes.exists_column? mapped isColumn
  rw [foundColumn]
  rfl

/-- Fields that are columns extend a plan by columns and their entries, whatever relations the rows
have. -/
theorem pruneFields_columns
    {shape : Option Shape}
    {plan extended : SelectionPlan}
    (areColumns : ∀ field ∈ selection,
      field.name ≠ typenameField ∧ (types.column? field.name).isSome = true) :
    interface.pruneFields types shape path plan selection = .ok extended ↔
      Leaves selection ∧
        ⟨addFields plan.columns selection, plan.relations,
          { plan.output with entries := plan.output.entries ++ columnEntries selection }⟩
            = extended := by
  induction selection generalizing plan with
  | nil =>
      obtain ⟨columns, relations, typeName, tableName, entries⟩ := plan
      rw [pruneFields, Except.ok.injEq]
      simp [Leaves, addFields, columnEntries]
  | cons field selection inductionHypothesis =>
      rw [List.forall_mem_cons] at areColumns
      obtain ⟨⟨notTypename, isColumn⟩, others⟩ := areColumns
      have first : ∀ next, interface.pruneField types shape path plan field = .ok next ↔
          (field.arguments = [] ∧ field.selection = []) ∧
            plan.appendColumn field.key field.name = next := by
        intro next
        rw [pruneField_eq_ok, checkLeaf_eq_ok]
        simp [notTypename, isColumn]
      rw [pruneFields, bind_eq_ok, Leaves, List.forall_mem_cons, and_assoc]
      simp only [first, inductionHypothesis others, and_assoc]
      constructor
      · rintro ⟨_, noArguments, noFields, rfl, leaves, same⟩
        refine ⟨noArguments, noFields, leaves, ?_⟩
        rw [← same]
        simp [SelectionPlan.appendColumn, SelectionPlan.append, addFields, columnEntries]
      · rintro ⟨noArguments, noFields, leaves, same⟩
        refine ⟨_, noArguments, noFields, rfl, leaves, ?_⟩
        rw [← same]
        simp [SelectionPlan.appendColumn, SelectionPlan.append, addFields, columnEntries]

/-- The plan for fields that are columns, with the identity column if there are no fields. -/
theorem withIdentity_pruneFields
    {shape : Option Shape}
    {typeName : String}
    {plan : SelectionPlan}
    (areColumns : ∀ field ∈ selection,
      field.name ≠ typenameField ∧ (types.column? field.name).isSome = true) :
    (do
      let inner ← interface.pruneFields types shape path (.empty typeName types.name) selection
      return inner.withIdentity types.identity) = .ok plan ↔
      Leaves selection ∧ .ofColumns typeName types selection = plan := by
  have sameIdentity : SelectionPlan.withIdentity
      ⟨addFields [] selection, [], ⟨typeName, some types.name, columnEntries selection⟩⟩
      types.identity = .ofColumns typeName types selection := by
    rw [SelectionPlan.withIdentity, SelectionPlan.ofColumns, loadedColumns]
    split <;> rfl
  simp only [bind_eq_ok, pure_eq_ok, pruneFields_columns areColumns, SelectionPlan.empty,
    List.nil_append]
  constructor
  · rintro ⟨_, ⟨leaves, rfl⟩, same⟩
    exact ⟨leaves, sameIdentity.symm.trans same⟩
  · rintro ⟨leaves, same⟩
    exact ⟨_, ⟨leaves, rfl⟩, sameIdentity.trans same⟩

/-- The plan for columns of selected rows. -/
theorem prune_columns
    {shape : Shape}
    {plan : SelectionPlan}
    (found : interface.table? shape.table = some types)
    (areColumns : ∀ field ∈ selection,
      field.name ≠ typenameField ∧ (types.column? field.name).isSome = true) :
    interface.prune shape path selection = .ok plan ↔
      Leaves selection ∧ .ofColumns (interface.shapeTypeName shape) types selection = plan := by
  rw [prune, typesAt_eq_ok.2 found]
  exact withIdentity_pruneFields areColumns

/-- The plan for columns of the rows of a mutation. -/
theorem pruneItem_columns
    {name : String}
    {plan : SelectionPlan}
    (found : interface.table? name = some types)
    (areColumns : ∀ field ∈ selection,
      field.name ≠ typenameField ∧ (types.column? field.name).isSome = true) :
    interface.pruneItem name path selection = .ok plan ↔
      Leaves selection ∧ .ofColumns (itemTypeName types.name) types selection = plan := by
  rw [pruneItem, typesAt_eq_ok.2 found]
  exact withIdentity_pruneFields areColumns

end Interface
end RelationalApi
