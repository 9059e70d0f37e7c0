import RelationalApi.Proofs.Request.WrittenFields
import RelationalApi.Proofs.Storage.Constraints

/-!
# What a storage refuses

A statement that writes declared columns, gives a value to every column that needs one and gives
null to no column that does not admit it meets all checks for columns and for null.  The storage
refuses it only for a key that is taken, or for a default that it cannot evaluate.
-/

namespace RelationalApi

open Outcome

namespace Table

/-- No value for a column that does not admit null is null. -/
def KeepsNonNull (table : Table) (values : List FieldValue) : Prop :=
  ∀ value ∈ values, ∀ column ∈ table.columns, column.name = value.field ->
    column.nullable = false -> value.value.isNull = false

/-- No column that must have a value has null as its default. -/
def DefaultsNonNull (table : Table) : Prop :=
  ∀ column ∈ table.columns, column.nullable = false -> column.generated = false ->
    column.default ≠ some .null

/-- The faults of statements that meet the checks for columns and for null. -/
inductive Refuses (table : Table) : ExecutionError -> Prop
  | duplicateKey (column : String) : Refuses table (.duplicateKey column table.name)
  | defaultNotEvaluated
      {column : Column}
      {sql : String}
      (member : column ∈ table.columns)
      (hasDefault : column.default = some (.expression sql)) :
      Refuses table (.defaultNotEvaluated sql column.name)

end Table

namespace Store

variable {schema : Schema} {table : Table} {now : Timestamp} {store : Store}
variable {rows : List StoredRow} {given : List FieldValue} {row : StoredRow}
variable {fault : ExecutionError}

theorem checkColumns_of_writes
    {values : List FieldValue}
    (writes : table.Writes values) :
    checkColumns table (values.map (·.field)) = .ok () :=
  checkColumns_eq_ok.2 fun _ member => writes.listed.inOrder.subset member

/-- A default that evaluates is null only where it is declared so. -/
theorem isNull_defaultValue
    {column : String}
    {default : ColumnDefault}
    {value : Value}
    (notNull : default ≠ .null)
    (evaluated : defaultValue now column rows default = .ok value) :
    value.isNull = false := by
  cases default with
  | null => exact absurd rfl notNull
  | expression sql => cases evaluated
  | _ =>
      cases evaluated
      rfl

/-- The field that is completed for a column which must have a value is not null. -/
theorem isNull_completeField
    {column : Column}
    {field : FieldValue}
    (inserts : table.Inserts given)
    (nonNull : table.KeepsNonNull given)
    (defaults : table.DefaultsNonNull)
    (member : column ∈ table.columns)
    (notNullable : column.nullable = false)
    (notGenerated : column.generated = false)
    (completed : completeField now rows given column = .ok field) :
    field.value.isNull = false := by
  rw [completeField] at completed
  split at completed
  · rename_i value default found
    cases completed
    exact nonNull _ (mem_of_fieldValue? found) column member rfl notNullable
  · -- A column without a default is one that the insert has to give.
    rename_i missing noDefault
    have required : column.isRequiredOnInsert = true := by
      rw [Column.isRequiredOnInsert, notNullable, noDefault, notGenerated]
      rfl
    have isGiven := inserts.complete column member required
    rw [← isSome_fieldValue?_iff, missing] at isGiven
    cases isGiven
  · rename_i default missing hasDefault
    obtain ⟨value, evaluated, same⟩ := bind_eq_ok.1 completed
    rw [pure_eq_ok] at same
    subst same
    refine isNull_defaultValue ?_ evaluated
    rintro rfl
    exact defaults column member notNullable notGenerated hasDefault

/-- Completing a row fails only on a default that cannot be evaluated. -/
theorem completeRow_eq_error
    (distinct : table.columnNames.Nodup)
    (inserts : table.Inserts given)
    (nonNull : table.KeepsNonNull given)
    (defaults : table.DefaultsNonNull)
    (failed : completeRow table now rows given = .error fault) :
    table.Refuses fault := by
  rw [completeRow, checkColumns_of_writes inserts.writes] at failed
  rcases bind_eq_error.1 failed with impossible | ⟨_, _, failed⟩
  · cases impossible
  rcases bind_eq_error.1 failed with notCompleted | ⟨row, completed, failed⟩
  · obtain ⟨column, member, notCompleted⟩ := exists_of_mapM_eq_error notCompleted
    rw [completeField] at notCompleted
    split at notCompleted
    · cases notCompleted
    · cases notCompleted
    · rename_i default missing hasDefault
      rcases bind_eq_error.1 notCompleted with notEvaluated | ⟨_, _, impossible⟩
      · cases default with
        | expression sql =>
            cases notEvaluated
            exact .defaultNotEvaluated member hasDefault
        | _ => cases notEvaluated
      · cases impossible
  · have fields := mapM_eq_ok.1 completed
    have sameNames : row.map (·.field) = table.columnNames := map_field_of_completeField fields
    have notNull : checkNotNull table row = .ok () := by
      refine checkNotNull_eq_ok.2 fun column member notNullable notGenerated => ?_
      obtain ⟨field, fieldMember, completedField⟩ := exists_result fields column member
      rw [present?_ne_none_iff, ← (completeField_eq_ok completedField).1]
      exact ⟨field.value, fieldValue?_of_mem (sameNames ▸ distinct) fieldMember,
        isNull_completeField inserts nonNull defaults member notNullable notGenerated
          completedField⟩
    rw [notNull] at failed
    cases failed

/-- An insert fails on a row that cannot be completed, or on one whose key is taken. -/
theorem admitRows_eq_error
    {action : ConflictAction}
    {stored pending : List StoredRow}
    {inputs : List (List FieldValue)}
    (failed : admitRows table now action stored pending inputs = .error fault) :
    (∃ given ∈ inputs, ∃ before, completeRow table now before given = .error fault) ∨
      ∃ column, fault = .duplicateKey column table.name := by
  induction inputs generalizing pending with
  | nil => cases failed
  | cons given inputs inductionHypothesis =>
      have later : ∀ {pending}, admitRows table now action stored pending inputs = .error fault ->
          (∃ other ∈ given :: inputs, ∃ before, completeRow table now before other = .error fault) ∨
            ∃ column, fault = .duplicateKey column table.name := by
        intro pending failed
        refine (inductionHypothesis failed).imp_left ?_
        rintro ⟨other, member, before, notCompleted⟩
        exact ⟨other, List.mem_cons_of_mem _ member, before, notCompleted⟩
      rw [admitRows] at failed
      rcases bind_eq_error.1 failed with notCompleted | ⟨row, _, failed⟩
      · exact .inl ⟨given, List.mem_cons_self, _, notCompleted⟩
      · split at failed
        · exact later failed
        · exact later failed
        · cases failed
          exact .inr ⟨_, rfl⟩

theorem insert_eq_error
    {statement : InsertStatement}
    (distinct : table.columnNames.Nodup)
    (isTable : schema.table? statement.table = some table)
    (inserts : ∀ given ∈ statement.rows, table.Inserts given)
    (nonNull : ∀ given ∈ statement.rows, table.KeepsNonNull given)
    (defaults : table.DefaultsNonNull)
    (failed : store.insert schema now statement = .error fault) :
    table.Refuses fault := by
  rw [insert, target_eq_ok.2 isTable] at failed
  rcases bind_eq_error.1 failed with impossible | ⟨_, same, failed⟩
  · cases impossible
  cases same
  rcases bind_eq_error.1 failed with notAdmitted | ⟨_, _, impossible⟩
  · rcases admitRows_eq_error notAdmitted with ⟨given, member, before, notCompleted⟩ | ⟨column, rfl⟩
    · exact completeRow_eq_error distinct (inserts given member) (nonNull given member) defaults
        notCompleted
    · exact .duplicateKey column
  · cases impossible

theorem checkConflicts_eq_error
    {before : List StoredRow}
    {marked : List (Bool × StoredRow)}
    (failed : checkConflicts table before marked = .error fault) :
    ∃ column, fault = .duplicateKey column table.name := by
  induction marked generalizing before with
  | nil => cases failed
  | cons entry marked inductionHypothesis =>
      rw [checkConflicts.eq_def] at failed
      dsimp only at failed
      split at failed
      · cases failed
        exact ⟨_, rfl⟩
      · exact inductionHypothesis failed

/-- Assignments without null leave values where there must be some. -/
theorem checkNotNull_foldl_assign
    {assignments : List FieldValue}
    (nonNull : table.KeepsNonNull assignments)
    (checked : checkNotNull table row = .ok ()) :
    checkNotNull table (assignments.foldl assign row) = .ok () := by
  refine checkNotNull_eq_ok.2 fun column member notNullable notGenerated => ?_
  obtain ⟨old, foundOld, oldNotNull⟩ := (present?_ne_none_iff _ _).1
    (checkNotNull_eq_ok.1 checked column member notNullable notGenerated)
  have hasField : column.name ∈ (assignments.foldl assign row).map (·.field) := by
    rw [map_field_foldl_assign, ← isSome_fieldValue?_iff, foundOld]
    rfl
  obtain ⟨value, found⟩ := Option.isSome_iff_exists.1 ((isSome_fieldValue?_iff _ _).2 hasField)
  refine (present?_ne_none_iff _ _).2 ⟨value, found, ?_⟩
  rcases fieldValue?_foldl_assign found with kept | assigned
  · rw [foundOld, Option.some.injEq] at kept
    rwa [← kept]
  · exact nonNull _ assigned column member rfl notNullable

theorem update_eq_error
    {statement : UpdateStatement}
    (isTable : schema.table? statement.table = some table)
    (writes : table.Writes statement.assignments)
    (nonNull : table.KeepsNonNull statement.assignments)
    (stored : ∀ row ∈ store.rows table.name, checkNotNull table row = .ok ())
    (failed : store.update schema statement = .error fault) :
    ∃ column, fault = .duplicateKey column table.name := by
  have notNull : (affectedRows statement (store.rows table.name)).forM (checkNotNull table)
      = .ok () := by
    refine forM_eq_ok.2 fun row member => ?_
    simp only [affectedRows, updateMatched_eq_map, List.mem_map, List.mem_filter] at member
    obtain ⟨_, ⟨⟨before, beforeMember, rfl⟩, matched⟩, rfl⟩ := member
    dsimp only at matched ⊢
    rw [updatedRow, if_pos matched]
    exact checkNotNull_foldl_assign nonNull (stored before beforeMember)
  rw [update, target_eq_ok.2 isTable] at failed
  rcases bind_eq_error.1 failed with impossible | ⟨_, same, failed⟩
  · cases impossible
  cases same
  rw [checkColumns_of_writes writes] at failed
  rcases bind_eq_error.1 failed with impossible | ⟨_, _, failed⟩
  · cases impossible
  rcases bind_eq_error.1 failed with impossible | ⟨_, _, failed⟩
  · cases impossible.symm.trans notNull
  rcases bind_eq_error.1 failed with notApart | ⟨_, _, impossible⟩
  · exact checkConflicts_eq_error notApart
  · cases impossible

end Store
end RelationalApi
