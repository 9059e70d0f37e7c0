import RelationalApi.Proofs.Catalog.Validity
import RelationalApi.Proofs.Outcome
import RelationalApi.Proofs.Storage.Rows

/-!
# What statements do

Each statement that succeeds changes the rows of one table.  An insert puts admitted rows behind
the stored ones, an update replaces matched rows by their assigned forms after checking them, and
a delete keeps the rows that its filter does not hold on.
-/

namespace RelationalApi

open Outcome

/-- Two rows clash when they agree in the whole primary key or in a unique column outside it. -/
def Table.Clashes (table : Table) (left right : StoredRow) : Prop :=
  (table.keyColumns ≠ [] ∧ ∀ column ∈ table.keyColumns, Store.agree left right column = true) ∨
    ∃ column ∈ table.columns, column.unique = true ∧ column.primaryKey = false ∧
      Store.agree left right column.name = true

namespace Store

variable {schema : Schema} {table : Table} {now : Timestamp} {store changed : Store}

/-- Clashing is symmetric on rows with well-formed documents. -/
theorem clashes_comm
    {left right : StoredRow}
    (leftWellFormed : FieldsWellFormed left)
    (rightWellFormed : FieldsWellFormed right) :
    table.Clashes left right ↔ table.Clashes right left := by
  simp only [Table.Clashes, agree_comm leftWellFormed rightWellFormed]

/-- A row conflicts with none of some rows when it clashes with none of them. -/
theorem conflict?_eq_none_iff (row : StoredRow) (others : List StoredRow) :
    conflict? table row others = none ↔ ∀ other ∈ others, ¬table.Clashes row other := by
  have keyMatched :
      (!table.keyColumns.isEmpty && others.any fun other => table.keyColumns.all (agree row other))
          = true ↔
        ∃ other ∈ others, table.keyColumns ≠ [] ∧
          ∀ column ∈ table.keyColumns, agree row other column = true := by
    rw [Bool.and_eq_true, List.any_eq_true, Bool.not_eq_true', List.isEmpty_eq_false_iff]
    simp only [List.all_eq_true]
    constructor
    · rintro ⟨hasKey, other, member, same⟩
      exact ⟨other, member, hasKey, same⟩
    · rintro ⟨other, member, hasKey, same⟩
      exact ⟨hasKey, other, member, same⟩
  rw [conflict?]
  change (if (!table.keyColumns.isEmpty &&
      others.any fun other => table.keyColumns.all (agree row other)) = true
    then _ else _) = none ↔ _
  by_cases taken : ∃ other ∈ others, table.keyColumns ≠ [] ∧
      ∀ column ∈ table.keyColumns, agree row other column = true
  · rw [if_pos (keyMatched.2 taken)]
    obtain ⟨other, member, same⟩ := taken
    constructor
    · intro impossible
      cases impossible
    · intro apart
      exact absurd (.inl same) (apart other member)
  · rw [if_neg (fun isTaken => taken (keyMatched.1 isTaken)), Option.map_eq_none_iff,
      List.find?_eq_none]
    constructor
    · intro uniqueApart other member clash
      rcases clash with key | ⟨column, columnMember, unique, outside, same⟩
      · exact taken ⟨other, member, key⟩
      · refine uniqueApart column columnMember ?_
        rw [unique, outside, List.any_eq_true.2 ⟨other, member, same⟩]
        rfl
    · intro apart column columnMember matched
      simp only [Bool.and_eq_true, Bool.not_eq_true', List.any_eq_true] at matched
      obtain ⟨⟨unique, outside⟩, other, member, same⟩ := matched
      exact apart other member (.inr ⟨column, columnMember, unique, outside, same⟩)

theorem target_eq_ok {name : String} :
    target schema name = .ok table ↔ schema.table? name = some table := by
  rw [target]
  cases schema.table? name <;> simp

/-- The check passes when every column that neither admits null nor is computed has a value. -/
theorem checkNotNull_eq_ok {row : StoredRow} :
    checkNotNull table row = .ok () ↔
      ∀ column ∈ table.columns, column.nullable = false -> column.generated = false ->
        present? row column.name ≠ none := by
  rw [checkNotNull]
  cases found : table.columns.find? fun column =>
      !column.nullable && !column.generated && (present? row column.name).isNone with
  | none =>
      rw [List.find?_eq_none] at found
      refine iff_of_true rfl ?_
      intro column member notNullable notGenerated absent
      exact found column member (by simp [notNullable, notGenerated, absent])
  | some column =>
      have matched := List.find?_some found
      simp only [Bool.and_eq_true, Bool.not_eq_true', Option.isNone_iff_eq_none] at matched
      refine iff_of_false (by simp) ?_
      intro holds
      exact holds column (List.mem_of_find?_eq_some found) matched.1.1 matched.1.2 matched.2

theorem checkColumns_eq_ok {columns : List String} :
    checkColumns table columns = .ok () ↔ ∀ column ∈ columns, column ∈ table.columnNames := by
  rw [checkColumns]
  cases found : columns.find? fun column => !table.hasColumn column with
  | none =>
      rw [List.find?_eq_none] at found
      refine iff_of_true rfl ?_
      intro column member
      rw [← Table.hasColumn_iff]
      simpa using found column member
  | some column =>
      have missing := List.find?_some found
      refine iff_of_false (by simp) ?_
      intro known
      have present := (Table.hasColumn_iff table column).2
        (known column (List.mem_of_find?_eq_some found))
      rw [present] at missing
      cases missing

/-- A completed row passes the check for null, and its fields are given or filled in column by
column. -/
theorem completeRow_eq_ok
    {rows : List StoredRow}
    {given : List FieldValue}
    {row : StoredRow} :
    completeRow table now rows given = .ok row ↔
      checkColumns table (given.map (·.field)) = .ok () ∧
        List.Forall₂ (fun column field => completeField now rows given column = .ok field)
          table.columns row ∧
        checkNotNull table row = .ok () := by
  rw [completeRow]
  simp only [bind_eq_ok, pure_eq_ok, mapM_eq_ok]
  constructor
  · rintro ⟨_, known, fields, completed, _, notNull, rfl⟩
    exact ⟨known, completed, notNull⟩
  · rintro ⟨known, completed, notNull⟩
    exact ⟨(), known, row, completed, (), notNull, rfl⟩

/-- The field completed for a column has the name of the column, and its value is given or the
default of the column. -/
theorem completeField_eq_ok
    {rows : List StoredRow}
    {given : List FieldValue}
    {column : Column}
    {field : FieldValue}
    (completed : completeField now rows given column = .ok field) :
    field.field = column.name ∧
      (field ∈ given ∨ field.value = .null ∨
        ∃ default, column.default = some default ∧
          defaultValue now column.name rows default = .ok field.value) := by
  rw [completeField] at completed
  split at completed
  · rename_i value default found
    cases completed
    exact ⟨rfl, .inl (mem_of_fieldValue? found)⟩
  · cases completed
    exact ⟨rfl, .inr (.inl rfl)⟩
  · rename_i default missing hasDefault
    obtain ⟨value, evaluated, same⟩ := bind_eq_ok.1 completed
    rw [pure_eq_ok] at same
    subst same
    exact ⟨rfl, .inr (.inr ⟨default, hasDefault, evaluated⟩)⟩

/-- The fields that are completed for columns have the names of the columns. -/
theorem map_field_of_completeField
    {columns : List Column}
    {rows : List StoredRow}
    {given : List FieldValue}
    {row : StoredRow}
    (completed : List.Forall₂ (fun column field => completeField now rows given column = .ok field)
      columns row) :
    row.map (·.field) = columns.map (·.name) := by
  induction completed with
  | nil => rfl
  | cons completedField _ inductionHypothesis =>
      rw [List.map_cons, List.map_cons, (completeField_eq_ok completedField).1,
        inductionHypothesis]

/-- What holds of the rows of a statement so far, and is kept by every row that it admits, holds of
all the rows it inserts. -/
theorem admitRows_induction
    {action : ConflictAction}
    {stored pending inserted : List StoredRow}
    {rows : List (List FieldValue)}
    (motive : List StoredRow -> Prop)
    (start : motive pending)
    (step : ∀ pending row, ∀ given ∈ rows, motive pending ->
      completeRow table now (stored ++ pending) given = .ok row ->
        conflict? table row (stored ++ pending) = none -> motive (pending ++ [row]))
    (admitted : admitRows table now action stored pending rows = .ok inserted) :
    motive inserted := by
  induction rows generalizing pending with
  | nil =>
      rw [admitRows] at admitted
      cases admitted
      exact start
  | cons given rows inductionHypothesis =>
      have stepLater : ∀ pending row, ∀ given ∈ rows, motive pending ->
          completeRow table now (stored ++ pending) given = .ok row ->
            conflict? table row (stored ++ pending) = none -> motive (pending ++ [row]) :=
        fun pending row given member => step pending row given (List.mem_cons_of_mem _ member)
      rw [admitRows, bind_eq_ok] at admitted
      obtain ⟨row, completed, rest⟩ := admitted
      split at rest
      · rename_i free
        exact inductionHypothesis
          (step pending row given List.mem_cons_self start completed free) stepLater rest
      · exact inductionHypothesis start stepLater rest
      · cases rest

theorem insert_eq_ok
    {statement : InsertStatement}
    {result : MutationResult} :
    store.insert schema now statement = .ok (result, changed) ↔
      ∃ table inserted, schema.table? statement.table = some table ∧
        admitRows table now statement.onConflict (store.rows table.name) [] statement.rows
          = .ok inserted ∧
        answer statement.returning inserted = result ∧
        store.setRows table.name (store.rows table.name ++ inserted) = changed := by
  rw [insert]
  simp only [bind_eq_ok, pure_eq_ok, target_eq_ok, Prod.mk.injEq]
  constructor
  · rintro ⟨table, found, inserted, admitted, answered, stored⟩
    exact ⟨table, inserted, found, admitted, answered, stored⟩
  · rintro ⟨table, inserted, found, admitted, answered, stored⟩
    exact ⟨table, found, inserted, admitted, answered, stored⟩

/-- A row after an update. -/
def updatedRow (statement : UpdateStatement) (row : StoredRow) : StoredRow :=
  if Filter.accepts statement.filter row then statement.assignments.foldl assign row else row

theorem updateMatched_eq_map (statement : UpdateStatement) (rows : List StoredRow) :
    updateMatched statement rows =
      rows.map fun row => (Filter.accepts statement.filter row, updatedRow statement row) := by
  refine List.map_congr_left fun row _ => ?_
  rw [updatedRow]
  cases Filter.accepts statement.filter row <;> rfl

/-- An update keeps what a row holds under names that are not assigned to. -/
theorem fieldValue?_updatedRow
    {statement : UpdateStatement}
    (row : StoredRow)
    {name : String}
    (notAssigned : ∀ assignment ∈ statement.assignments, assignment.field ≠ name) :
    fieldValue? (updatedRow statement row) name = fieldValue? row name := by
  rw [updatedRow]
  split
  · exact fieldValue?_foldl_assign_of_forall_ne row notAssigned
  · rfl

/-- The matched rows of an update in their assigned forms. -/
def affectedRows (statement : UpdateStatement) (rows : List StoredRow) : List StoredRow :=
  ((updateMatched statement rows).filter (·.1)).map (·.2)

theorem update_eq_ok
    {statement : UpdateStatement}
    {result : MutationResult} :
    store.update schema statement = .ok (result, changed) ↔
      ∃ table, schema.table? statement.table = some table ∧
        checkColumns table (statement.assignments.map (·.field)) = .ok () ∧
        (∀ row ∈ affectedRows statement (store.rows table.name),
          checkNotNull table row = .ok ()) ∧
        checkConflicts table [] (updateMatched statement (store.rows table.name)) = .ok () ∧
        answer statement.returning (affectedRows statement (store.rows table.name)) = result ∧
        store.setRows table.name
          ((updateMatched statement (store.rows table.name)).map (·.2)) = changed := by
  rw [update]
  simp only [bind_eq_ok, pure_eq_ok, target_eq_ok, Prod.mk.injEq]
  constructor
  · rintro ⟨table, found, _, known, _, notNull, _, apart, answered, stored⟩
    exact ⟨table, found, known, forM_eq_ok.1 notNull, apart, answered, stored⟩
  · rintro ⟨table, found, known, notNull, apart, answered, stored⟩
    exact ⟨table, found, (), known, (), forM_eq_ok.2 notNull, (), apart, answered, stored⟩

theorem delete_eq_ok
    {statement : DeleteStatement}
    {result : MutationResult} :
    store.delete schema statement = .ok (result, changed) ↔
      ∃ table, schema.table? statement.table = some table ∧
        answer statement.returning
          ((store.rows table.name).filter (Filter.accepts statement.filter)) = result ∧
        store.setRows table.name
          ((store.rows table.name).filter (!Filter.accepts statement.filter ·)) = changed := by
  rw [delete]
  simp only [bind_eq_ok, pure_eq_ok, target_eq_ok, List.partition_eq_filter_filter, Prod.mk.injEq,
    Function.comp_def]

end Store
end RelationalApi
