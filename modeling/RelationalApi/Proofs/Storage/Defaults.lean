import RelationalApi.Proofs.Interface.Generation
import RelationalApi.Proofs.Scalar.Shown
import RelationalApi.Proofs.Storage.Fixture

/-!
# Defaults that are shown

A column shows every value that clients give to it.  The default of a column may be of another kind
than the column, so a stored row may hold a value that its column does not show.  Where the columns
of a table show their defaults, they show every value of every row that the table ever holds.
-/

namespace RelationalApi

open Outcome

/-- The value that a row has in a column where it was inserted without one, if the storage can
evaluate it.  A counter and the time stand at values of their own, which a codec shows or does not
show as any others. -/
def Column.omitted? (column : Column) : Option Value :=
  (Store.completeField Inhabited.default [] [] column).toOption.map (·.value)

/-- Whether rows can be inserted without a value for the columns of a name. -/
def Table.canOmit (table : Table) (name : String) : Bool :=
  table.columns.all fun column => column.name != name || column.omitted?.isSome

namespace TableTypes

/-- Whether the value of a column in a row that was inserted without one is shown. -/
def showsOmitted (types : TableTypes) (name : String) : Bool :=
  match (types.table.column? name).bind Column.omitted?, types.column? name with
  | some value, some column => (column.codec.show? value).isSome
  | _, _ => true

/-- Whether the columns of a table show their defaults.  A column of the name under which clients
ask for the type name is never shown. -/
def showsDefaults (types : TableTypes) : Bool :=
  types.table.columnNames.all fun name =>
    name == typenameField || !types.table.canOmit name || types.showsOmitted name

/-- The columns of a table show the values of a row. -/
def Shows (types : TableTypes) (row : StoredRow) : Prop :=
  ∀ name column value, name ≠ typenameField -> types.column? name = some column ->
    fieldValue? row name = some value -> (column.codec.show? value).isSome = true

/-- Where the columns of a table show their defaults, the first column of a name that rows can omit
shows what it takes in such rows. -/
theorem isSome_show?_omitted
    {types : TableTypes}
    (shows : types.showsDefaults = true)
    {name : String}
    (notTypename : name ≠ typenameField)
    (canOmit : ∀ column ∈ types.table.columns, column.name = name ->
      column.omitted?.isSome = true)
    {first : Column}
    (foundFirst : types.table.column? name = some first)
    {column : ColumnCodec}
    (foundColumn : types.column? name = some column)
    {value : Value}
    (omitted : first.omitted? = some value) :
    (column.codec.show? value).isSome = true := by
  have isName : name ∈ types.table.columnNames :=
    List.mem_map.2 ⟨first, Table.mem_of_column? foundFirst, Table.name_of_column? foundFirst⟩
  have isOmitted : types.table.canOmit name = true := by
    rw [Table.canOmit, List.all_eq_true]
    intro column member
    rw [Bool.or_eq_true, bne_iff_ne, Classical.or_iff_not_imp_left, not_ne_iff]
    exact canOmit column member
  have shown := List.all_eq_true.1 shows name isName
  rw [isOmitted, beq_eq_false_iff_ne.2 notTypename, showsOmitted, foundFirst, foundColumn,
    Option.bind_some, omitted] at shown
  exact shown

/-- Where the columns of a table do not show their defaults, one of them takes a value that it does
not show in rows that omit it. -/
theorem exists_hidden
    {types : TableTypes}
    (hides : types.showsDefaults = false) :
    ∃ name first column value, name ≠ typenameField ∧
      (∀ column ∈ types.table.columns, column.name = name -> column.omitted?.isSome = true) ∧
      types.table.column? name = some first ∧ types.column? name = some column ∧
      first.omitted? = some value ∧ (column.codec.show? value).isSome = false := by
  rw [showsDefaults, List.all_eq_false] at hides
  obtain ⟨name, _, hidden⟩ := hides
  simp only [Bool.or_eq_true, not_or, beq_iff_eq, Bool.not_eq_true', Bool.not_eq_false,
    Bool.not_eq_true] at hidden
  obtain ⟨⟨notTypename, canOmit⟩, notShown⟩ := hidden
  rw [showsOmitted] at notShown
  split at notShown
  · rename_i value column foundOmitted foundColumn
    obtain ⟨first, foundFirst, omitted⟩ := Option.bind_eq_some_iff.1 foundOmitted
    refine ⟨name, first, column, value, notTypename, ?_, foundFirst, foundColumn, omitted,
      notShown⟩
    intro other member sameName
    rw [Table.canOmit, List.all_eq_true] at canOmit
    have omittable := canOmit other member
    rw [Bool.or_eq_true, bne_iff_ne] at omittable
    exact omittable.resolve_left (not_not_intro sameName)
  · cases notShown

end TableTypes

/-- A statement that gives values to fields of a table which were read by columns of these fields
from well-formed documents. -/
def Mutation.ReadBy (columns : List ColumnCodec) : Mutation -> Prop
  | insert statement => ∀ given ∈ statement.rows, ∀ field ∈ given, Fixture.ReadBy columns field
  | update statement => ∀ field ∈ statement.assignments, Fixture.ReadBy columns field
  | delete _ => True

/-- A statement that gives only values which were read for its table. -/
def Mutation.Read (schema : Schema) (mutation : Mutation) : Prop :=
  ∀ table types, schema.table? mutation.table = some table ->
    TableTypes.ofTable table = .ok types -> mutation.ReadBy types.columns

theorem Fixture.ReadBy.isShown
    {columns : List ColumnCodec}
    {field : FieldValue}
    {column : ColumnCodec}
    (read : ReadBy columns field)
    (found : columns.find? (fun column => column.column == field.field) = some column) :
    (column.codec.show? field.value).isSome = true := by
  obtain ⟨reader, document, path, foundReader, wellFormed, decoded⟩ := read
  rw [found] at foundReader
  cases foundReader
  exact ColumnCodec.decode_isShown wellFormed decoded

namespace Store

variable {schema : Schema} {table : Table} {types : TableTypes} {now : Timestamp} {store : Store}
variable {rows : List StoredRow} {given : List FieldValue} {row : StoredRow}

/-- Whether a column shows what it takes in a row that was inserted without a value for it depends
neither on the time nor on the rows before. -/
theorem completeField_omitted
    {column : Column}
    (codec : Codec)
    (missing : fieldValue? given column.name = none) :
    (completeField now rows given column).toOption.map
        (fun field => (codec.show? field.value).isSome) =
      column.omitted?.map fun value => (codec.show? value).isSome := by
  rw [Column.omitted?, completeField, completeField, missing, fieldValue?_nil]
  cases column.default with
  | none => rfl
  | some default =>
      cases default with
      | currentTimestamp => exact congrArg some (codec.isSome_show?_timestamp _ _)
      | autoIncrement => exact congrArg some (codec.isSome_show?_int _ _)
      | _ => rfl

theorem omitted?_of_completeField
    {column : Column}
    {field : FieldValue}
    (codec : Codec)
    (missing : fieldValue? given column.name = none)
    (completed : completeField now rows given column = .ok field) :
    ∃ value, column.omitted? = some value ∧
      (codec.show? value).isSome = (codec.show? field.value).isSome := by
  have same := @completeField_omitted now rows given column codec missing
  rw [completed] at same
  exact Option.map_eq_some_iff.1 same.symm

theorem completeField_of_omitted?
    {column : Column}
    {value : Value}
    (codec : Codec)
    (missing : fieldValue? given column.name = none)
    (omitted : column.omitted? = some value) :
    ∃ field, completeField now rows given column = .ok field ∧
      (codec.show? field.value).isSome = (codec.show? value).isSome := by
  have same := @completeField_omitted now rows given column codec missing
  rw [omitted] at same
  obtain ⟨field, completed, sameShown⟩ := Option.map_eq_some_iff.1 same
  exact ⟨field, toOption_eq_some.1 completed, sameShown⟩

/-- The value of a completed row in a column is that of the first column of the name. -/
theorem completeField_of_fieldValue?
    {columns : List Column}
    {name : String}
    {value : Value}
    (completed : List.Forall₂ (fun column field => completeField now rows given column = .ok field)
      columns row)
    (found : fieldValue? row name = some value) :
    ∃ column, columns.find? (fun column => column.name == name) = some column ∧
      completeField now rows given column = .ok ⟨name, value⟩ := by
  induction completed with
  | nil => simp at found
  | @cons column field columns row completedField _ inductionHypothesis =>
      have sameName := (completeField_eq_ok completedField).1
      rw [fieldValue?_cons] at found
      split at found
      · rename_i isNamed
        cases found
        refine ⟨column, ?_, ?_⟩
        · rw [List.find?_cons, ← sameName, isNamed, beq_self_eq_true]
        · rw [completedField, ← isNamed]
      · rename_i isOther
        obtain ⟨first, foundFirst, completedFirst⟩ := inductionHypothesis found
        refine ⟨first, ?_, completedFirst⟩
        rw [List.find?_cons, ← sameName, beq_eq_false_iff_ne.2 isOther]
        exact foundFirst

/-- The first column of a name decides what a completed row has under the name. -/
theorem exists_fieldValue?
    {columns : List Column}
    {name : String}
    {column : Column}
    (completed : List.Forall₂ (fun column field => completeField now rows given column = .ok field)
      columns row)
    (isColumn : columns.find? (fun column => column.name == name) = some column) :
    ∃ value, fieldValue? row name = some value ∧
      completeField now rows given column = .ok ⟨name, value⟩ := by
  have isNamed : (fieldValue? row name).isSome = true := by
    rw [isSome_fieldValue?_iff, map_field_of_completeField completed]
    have sameName := List.find?_some isColumn
    exact List.mem_map.2 ⟨column, List.mem_of_find?_eq_some isColumn, beq_iff_eq.1 sameName⟩
  obtain ⟨value, found⟩ := Option.isSome_iff_exists.1 isNamed
  obtain ⟨first, isFirst, completedFirst⟩ := completeField_of_fieldValue? completed found
  cases isColumn.symm.trans isFirst
  exact ⟨value, found, completedFirst⟩

theorem completeField_of_given
    {column : Column}
    {value : Value}
    (found : fieldValue? given column.name = some value) :
    completeField now rows given column = .ok ⟨column.name, value⟩ := by
  rw [completeField, found]

section Completed

variable {columns : List Column} {name : String} {value : Value}

/-- A completed row holds what was given for a name. -/
theorem eq_of_given
    (completed : List.Forall₂ (fun column field => completeField now rows given column = .ok field)
      columns row)
    {givenValue : Value}
    (foundGiven : fieldValue? given name = some givenValue)
    (found : fieldValue? row name = some value) :
    value = givenValue := by
  obtain ⟨first, foundFirst, completedFirst⟩ := completeField_of_fieldValue? completed found
  have firstName := List.find?_some foundFirst
  rw [beq_iff_eq] at firstName
  rw [completeField_of_given (firstName.symm ▸ foundGiven)] at completedFirst
  cases completedFirst
  rfl

theorem fieldValue?_of_given
    (completed : List.Forall₂ (fun column field => completeField now rows given column = .ok field)
      columns row)
    (isColumn : name ∈ columns.map (·.name))
    (foundGiven : fieldValue? given name = some value) :
    fieldValue? row name = some value := by
  rw [← map_field_of_completeField completed, ← isSome_fieldValue?_iff,
    Option.isSome_iff_exists] at isColumn
  obtain ⟨held, found⟩ := isColumn
  rw [found, eq_of_given completed foundGiven found]

/-- Where nothing was given for a name, a completed row holds what its first column takes. -/
theorem exists_omitted
    (completed : List.Forall₂ (fun column field => completeField now rows given column = .ok field)
      columns row)
    (missing : fieldValue? given name = none)
    (found : fieldValue? row name = some value)
    (codec : Codec) :
    ∃ first omitted, columns.find? (fun column => column.name == name) = some first ∧
      first.omitted? = some omitted ∧
      (codec.show? omitted).isSome = (codec.show? value).isSome := by
  obtain ⟨first, foundFirst, completedFirst⟩ := completeField_of_fieldValue? completed found
  have firstName := List.find?_some foundFirst
  rw [beq_iff_eq] at firstName
  obtain ⟨omitted, foundOmitted, sameShown⟩ :=
    omitted?_of_completeField codec (firstName.symm ▸ missing) completedFirst
  exact ⟨first, omitted, foundFirst, foundOmitted, sameShown⟩

/-- Where nothing was given for a name, all columns of the name can be omitted. -/
theorem isSome_omitted?
    (completed : List.Forall₂ (fun column field => completeField now rows given column = .ok field)
      columns row)
    (missing : fieldValue? given name = none)
    {column : Column}
    (member : column ∈ columns)
    (sameName : column.name = name) :
    column.omitted?.isSome = true := by
  obtain ⟨field, _, completedField⟩ := exists_result completed column member
  obtain ⟨omitted, foundOmitted, _⟩ :=
    omitted?_of_completeField .json (sameName.symm ▸ missing) completedField
  rw [foundOmitted]
  rfl

end Completed

/-- A row that is completed from values which were read is shown. -/
theorem completeRow_shows
    (mapped : TableTypes.ofTable table = .ok types)
    (shows : types.showsDefaults = true)
    (read : ∀ field ∈ given, Fixture.ReadBy types.columns field)
    (completed : completeRow table now rows given = .ok row) :
    types.Shows row := by
  have sameTable := (TableTypes.ofTable_eq_ok mapped).1
  obtain ⟨_, fields, _⟩ := completeRow_eq_ok.1 completed
  intro name column value notTypename foundColumn found
  cases foundGiven : fieldValue? given name with
  | some givenValue =>
      rw [eq_of_given fields foundGiven found]
      exact (read _ (mem_of_fieldValue? foundGiven)).isShown foundColumn
  | none =>
      obtain ⟨first, omitted, foundFirst, foundOmitted, sameShown⟩ :=
        exists_omitted fields foundGiven found column.codec
      rw [← sameTable] at fields foundFirst
      rw [← sameShown]
      refine TableTypes.isSome_show?_omitted shows notTypename ?_ foundFirst foundColumn
        foundOmitted
      exact fun other member sameName => isSome_omitted? fields foundGiven member sameName

/-- An update by values which were read keeps a row shown. -/
theorem foldl_assign_shows
    {assignments : List FieldValue}
    (shown : types.Shows row)
    (read : ∀ field ∈ assignments, Fixture.ReadBy types.columns field) :
    types.Shows (assignments.foldl assign row) := by
  intro name column value notTypename foundColumn found
  rcases fieldValue?_foldl_assign found with before | assigned
  · exact shown name column value notTypename foundColumn before
  · exact (read _ assigned).isShown foundColumn

/-- Where all columns show their defaults, they show every row of a store that clients fill. -/
theorem Reached.shows
    (showsDefaults : ∀ table ∈ schema.tables, ∀ types, TableTypes.ofTable table = .ok types ->
      types.showsDefaults = true)
    (reached : Reached schema (Mutation.Read schema) store)
    (member : table ∈ schema.tables)
    (mapped : TableTypes.ofTable table = .ok types) :
    ∀ row ∈ store.rows table.name, types.Shows row := by
  have general := reached.forall_rows
    (fun table row => ∀ types, TableTypes.ofTable table = .ok types -> types.Shows row) ?_ ?_ member
  · intro row rowMember
    exact general row rowMember types mapped
  · intro statement table now rows given row isRead found givenMember completed types mapped
    exact completeRow_shows mapped (showsDefaults table (Schema.mem_of_table? found) types mapped)
      (isRead table types found mapped given givenMember) completed
  · intro statement table row isRead found shown _ _ types mapped
    exact foldl_assign_shows (shown types mapped) (isRead table types found mapped)

end Store
end RelationalApi
