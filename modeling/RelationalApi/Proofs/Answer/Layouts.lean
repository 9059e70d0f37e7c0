import RelationalApi.Proofs.Answer.Levels
import RelationalApi.Proofs.Interface.Generation
import RelationalApi.Proofs.Storage.Loading

/-!
# Rows of tables and layouts for them

A row that a query returns shows columns of a stored row of its table, and carries for each relation
rows that show stored rows of the table that the relation leads to.  Pruning a selection against a
table lays out the rows of that table: the entry of a field is for the type name, for the column
that the field names, or for the relation that it names, whose rows are laid out for the table that
the relation leads to.
-/

namespace RelationalApi

open Outcome

/-! ## Views of stored rows -/

/-- A row carries another one for a relation. -/
def Row.Carries (row : Row) (name : String) (inner : Row) : Prop :=
  ∃ nested, row.relation? name = some nested ∧ inner ∈ nested.toList

/-- A row shows columns of one of the rows that stand in a table, and so do the rows that it carries
for relations of the table. -/
inductive Row.Views (schema : Schema) (stands : String -> StoredRow -> Prop) :
    String -> Row -> Prop
  | row
      {table : String}
      {columns : List String}
      {stored : StoredRow}
      {row : Row}
      (isStored : stands table stored)
      (fields : row.fields = Store.project columns stored)
      (relations : ∀ name inner relation, row.Carries name inner ->
        schema.relation? table name = some relation -> Views schema stands relation.target inner) :
      Views schema stands table row

/-- A projected row without relations shows the row that it was projected from. -/
theorem Row.views_project
    {schema : Schema}
    {stands : String -> StoredRow -> Prop}
    {table : String}
    {stored : StoredRow}
    (isStored : stands table stored)
    (columns : List String) :
    Row.Views schema stands table ⟨Store.project columns stored, []⟩ := by
  refine .row isStored rfl ?_
  rintro name inner relation ⟨nested, isNested, _⟩ _
  cases isNested

namespace Store

variable {schema : Schema} {store : Store}

theorem mem_of_mem_nest
    {cardinality : Cardinality}
    {rows : List Row}
    {row : Row}
    (member : row ∈ (nest cardinality rows).toList) :
    row ∈ rows := by
  cases cardinality with
  | one => exact List.mem_of_head? (Option.mem_toList.1 member)
  | many => exact member

/-- The rows that are carried for a relation were selected by one of the followed queries. -/
theorem exists_selected_of_carries
    {table name : String}
    {stored : StoredRow}
    {row inner : Row}
    {includes : List (String × SelectQuery)}
    (followed : followIncludes schema store table stored includes = .ok row.relations)
    (carries : row.Carries name inner) :
    ∃ entry ∈ includes, ∃ relation fromColumn toColumn rows, entry.1 = name ∧
      join schema table name = .ok (relation, fromColumn, toColumn) ∧
      selectFrom schema store entry.2 (store.related relation fromColumn toColumn stored)
        = .ok rows ∧
      inner ∈ rows := by
  obtain ⟨nested, isNested, isInner⟩ := carries
  obtain ⟨front, back, split, _⟩ := List.lookup_eq_some_iff.1 isNested
  have member : (name, nested) ∈ row.relations := by
    rw [split]
    simp
  obtain ⟨entry, isEntry, relation, fromColumn, toColumn, rows, joined, selects, same⟩ :=
    exists_item (followIncludes_eq_ok.1 followed) _ member
  cases same
  exact ⟨entry, isEntry, relation, fromColumn, toColumn, rows, rfl, joined, selects,
    mem_of_mem_nest isInner⟩

/-- A query within the schema returns views of the rows that it selects from. -/
theorem views_of_selectFrom
    {query : SelectQuery}
    {candidates : List StoredRow}
    {rows : List Row}
    (declared : query.Declared schema)
    (areStored : ∀ stored ∈ candidates, stored ∈ store.rows query.table)
    (selects : selectFrom schema store query candidates = .ok rows) :
    ∀ row ∈ rows, row.Views schema (fun table stored => stored ∈ store.rows table) query.table := by
  induction declared generalizing candidates rows with
  | @query query _ _ _ relations _ inductionHypothesis =>
      intro row member
      obtain ⟨stored, isSelected, fields, followed⟩ :=
        exists_item (selectFrom_eq_ok.1 selects).2 row member
      refine .row (areStored stored (mem_of_mem_selected isSelected)) fields ?_
      intro name inner relation carries leads
      obtain ⟨entry, isEntry, _, _, _, innerRows, rfl, joined, selectsInner, isInner⟩ :=
        exists_selected_of_carries followed carries
      obtain ⟨declaredRelation, isDeclared, isTarget⟩ := relations entry isEntry
      have sameRelation := (join_eq_ok.1 joined).1
      rw [leads] at isDeclared sameRelation
      cases isDeclared
      cases sameRelation
      rw [isTarget]
      refine inductionHypothesis entry isEntry ?_ selectsInner inner isInner
      intro storedInner isRelated
      rw [← isTarget]
      exact mem_rows_of_mem_related isRelated

end Store

/-! ## Layouts -/

namespace Interface

variable {interface : Interface} {types : TableTypes} {shape : Option Shape} {path : String}
variable {selection : Selection} {object : ObjectOutput}

/-- An object layout is for the rows of a table and shows a selection from them. -/
def LaysOutRows (interface : Interface) (types : TableTypes) (shape : Option Shape)
    (selection : Selection) (object : ObjectOutput) : Prop :=
  interface.table? types.name = some types ∧ types.HasShape shape ∧
    ∃ path typeName plan,
      interface.pruneFields types shape path (SelectionPlan.empty typeName types.name) selection
          = .ok plan ∧
        plan.output = object

/-- An entry for a field of the rows of a table. -/
inductive RowEntry (interface : Interface) (types : TableTypes) (shape : Option Shape) :
    SelectedField -> OutputEntry ObjectOutput -> Prop
  | typename
      {field : SelectedField}
      (isTypename : field.name = typenameField) :
      RowEntry interface types shape field (.typename field.key)
  | column
      {field : SelectedField}
      {codec : ColumnCodec}
      (notTypename : field.name ≠ typenameField)
      (isColumn : types.column? field.name = some codec) :
      RowEntry interface types shape field (.column field.key field.name)
  | relation
      {field : SelectedField}
      {parent : Shape}
      {relation : Relation}
      {childTypes : TableTypes}
      {object : ObjectOutput}
      (isShape : shape = some parent)
      (isRelation : parent.relation? interface.schema field.name = some relation)
      (isTarget : childTypes.name = relation.target)
      (laidOut : interface.LaysOutRows childTypes (some (parent.follow relation)) field.selection
        object) :
      RowEntry interface types shape field
        (.relation field.key relation.name relation.cardinality object)

theorem RowEntry.key_eq
    {field : SelectedField}
    {entry : OutputEntry ObjectOutput}
    (isEntry : interface.RowEntry types shape field entry) :
    entry.key = field.key := by
  cases isEntry <;> rfl

/-- A field that is pruned appends an entry for it and keeps the table. -/
theorem rowEntry_of_pruneField
    {plan extended : SelectionPlan}
    {field : SelectedField}
    (pruned : interface.pruneField types shape path plan field = .ok extended) :
    ∃ entry, interface.RowEntry types shape field entry ∧
      extended.output = { plan.output with entries := plan.output.entries ++ [entry] } := by
  rcases pruneField_eq_ok.1 pruned with
    ⟨isTypename, _, rfl⟩ | ⟨notTypename, isColumn, _, rfl⟩ |
      ⟨_, _, parent, relation, childTypes, inner, atShape, _, atTable, prunedInner, appended⟩
  · exact ⟨_, .typename isTypename, rfl⟩
  · obtain ⟨codec, found⟩ := Option.isSome_iff_exists.1 isColumn
    exact ⟨_, .column notTypename found, rfl⟩
  · obtain ⟨isShape, isRelation⟩ := relationAt_eq_ok.1 atShape
    rw [SelectionPlan.appendRelation, bind_eq_ok] at appended
    obtain ⟨relations, _, same⟩ := appended
    rw [pure_eq_ok] at same
    subst same
    have found := typesAt_eq_ok.1 atTable
    have isTarget := name_of_table? found
    exact ⟨_, .relation isShape isRelation isTarget ⟨isTarget.symm ▸ found,
      TableTypes.hasShape_some isTarget, _, _, inner, prunedInner,
      (output_withIdentity inner _).symm⟩, rfl⟩

theorem rowEntries_of_pruneFields
    {plan extended : SelectionPlan}
    (pruned : interface.pruneFields types shape path plan selection = .ok extended) :
    ∃ entries, List.Forall₂ (interface.RowEntry types shape) selection entries ∧
      extended.output = { plan.output with entries := plan.output.entries ++ entries } := by
  induction selection generalizing plan with
  | nil =>
      rw [pruneFields] at pruned
      cases pruned
      refine ⟨[], .nil, ?_⟩
      rw [List.append_nil]
      cases extended.output
      rfl
  | cons field selection inductionHypothesis =>
      rw [pruneFields] at pruned
      obtain ⟨next, prunedFirst, prunedRest⟩ := bind_eq_ok.1 pruned
      obtain ⟨entry, first, appended⟩ := rowEntry_of_pruneField prunedFirst
      obtain ⟨entries, others, appendedOthers⟩ := inductionHypothesis prunedRest
      refine ⟨entry :: entries, .cons first others, ?_⟩
      rw [appendedOthers, appended, List.append_assoc, List.singleton_append]

/-- A layout of rows has one entry for every field, in the order of the fields, and names their
table. -/
theorem LaysOutRows.entries (laidOut : interface.LaysOutRows types shape selection object) :
    List.Forall₂ (interface.RowEntry types shape) selection object.entries ∧
      object.table = some types.name := by
  obtain ⟨_, _, _, typeName, plan, pruned, rfl⟩ := laidOut
  obtain ⟨entries, laid, same⟩ := rowEntries_of_pruneFields pruned
  rw [same]
  exact ⟨laid, rfl⟩

/-- The layout of a selection from the rows of a shape. -/
theorem laysOutRows_of_prune
    {shape : Shape}
    {plan : SelectionPlan}
    (pruned : interface.prune shape path selection = .ok plan) :
    ∃ types, types.name = shape.table ∧
      interface.LaysOutRows types (some shape) selection plan.output := by
  simp only [prune, bind_eq_ok, pure_eq_ok] at pruned
  obtain ⟨types, atTable, inner, prunedFields, rfl⟩ := pruned
  have found := typesAt_eq_ok.1 atTable
  have isTable := name_of_table? found
  exact ⟨types, isTable, isTable.symm ▸ found, TableTypes.hasShape_some isTable, _, _, inner,
    prunedFields, (output_withIdentity inner _).symm⟩

/-- The layout of a selection from the rows that a mutation returns. -/
theorem laysOutRows_of_pruneItem
    {table : String}
    {plan : SelectionPlan}
    (pruned : interface.pruneItem table path selection = .ok plan) :
    ∃ types, types.name = table ∧ interface.LaysOutRows types none selection plan.output := by
  simp only [pruneItem, bind_eq_ok, pure_eq_ok] at pruned
  obtain ⟨types, atTable, inner, prunedFields, rfl⟩ := pruned
  have found := typesAt_eq_ok.1 atTable
  have isTable := name_of_table? found
  exact ⟨types, isTable, isTable.symm ▸ found, TableTypes.hasShape_none types, _, _, inner,
    prunedFields, (output_withIdentity inner _).symm⟩

end Interface
end RelationalApi
