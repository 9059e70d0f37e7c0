import RelationalApi.Proofs.Request.CheckedArguments
import RelationalApi.Proofs.Request.DeclaredNames

/-!
# Written fields

An input object writes the columns that it has entries for, in the order of their declaration.  It
writes no column that the storage computes, and the input of an insert writes every column that an
insert has to give a value.  Operations that insert name at least one row, and operations that
update write at least one column.
-/

namespace RelationalApi

open Outcome

/-- Names of columns of a table, in the order of their declaration and each at most once. -/
structure Table.ListsInOrder (table : Table) (names : List String) : Prop where
  inOrder : names.Sublist table.columnNames
  distinct : names.Nodup

/-- Values for columns of a table that the storage does not compute. -/
structure Table.Writes (table : Table) (values : List FieldValue) : Prop where
  listed : table.ListsInOrder (values.map (·.field))
  writable : ∀ value ∈ values, ∃ column ∈ table.columns,
    column.name = value.field ∧ column.generated = false

/-- Values for columns of a table, among them all that an insert has to give. -/
structure Table.Inserts (table : Table) (values : List FieldValue) : Prop where
  writes : table.Writes values
  complete : ∀ column ∈ table.columns, column.isRequiredOnInsert = true ->
    column.name ∈ values.map (·.field)

section Inputs

variable {types : TableTypes} {fields : List InputField} {path : String} {entries : JsonEntries}
variable {values : List FieldValue}

/-- An input object is read to the fields that it has entries for, in the order of the fields. -/
theorem map_field_readInputFields
    (read : readInputFields types path entries fields = .ok values) :
    values.map (·.field) =
      (fields.map (·.name)).filter fun name => (entries.lookup name).isSome := by
  induction fields generalizing values with
  | nil =>
      rw [readInputFields] at read
      cases read
      rfl
  | cons field fields inductionHypothesis =>
      rw [readInputFields.eq_def] at read
      dsimp only at read
      rw [List.map_cons, List.filter_cons]
      split at read
      · rename_i absent
        rw [absent, Option.isSome_none, if_neg Bool.false_ne_true]
        split at read
        · cases read
        · exact inductionHypothesis read
      · cases read
      · rename_i document column given _
        simp only [bind_eq_ok, pure_eq_ok] at read
        obtain ⟨value, _, others, readOthers, rfl⟩ := read
        rw [given, Option.isSome_some, if_pos rfl, List.map_cons, inductionHypothesis readOthers]

/-- A field without null has an entry. -/
theorem isSome_lookup_of_readInputFields
    (read : readInputFields types path entries fields = .ok values) :
    ∀ field ∈ fields, field.type.isNonNull = true -> (entries.lookup field.name).isSome = true := by
  induction fields generalizing values with
  | nil => simp
  | cons field fields inductionHypothesis =>
      rw [readInputFields.eq_def] at read
      dsimp only at read
      rw [List.forall_mem_cons]
      split at read
      · split at read
        · cases read
        · rename_i admitsNull
          exact ⟨fun required => absurd required admitsNull, inductionHypothesis read⟩
      · cases read
      · rename_i document column given _
        simp only [bind_eq_ok, pure_eq_ok] at read
        obtain ⟨value, _, others, readOthers, _⟩ := read
        exact ⟨fun _ => by rw [given]; rfl, inductionHypothesis readOthers⟩

/-- An input object has entries for fields of its type only. -/
theorem readInputRow_eq_ok :
    readInputRow types fields path entries = .ok values ↔
      (∀ entry ∈ entries, entry.1 ∈ fields.map (·.name)) ∧
        readInputFields types path entries fields = .ok values := by
  have known : (entries.find? fun entry => !fields.any fun field => field.name == entry.1) = none ↔
      ∀ entry ∈ entries, entry.1 ∈ fields.map (·.name) := by
    simp only [List.find?_eq_none, Bool.not_eq_true, Bool.not_eq_false', List.any_eq_true,
      beq_iff_eq, List.mem_map]
  rw [readInputRow]
  split
  · rename_i entry found
    rw [← known, found]
    simp
  · rename_i absent
    rw [← known, absent]
    simp

/-- An input object with an entry writes a field. -/
theorem readInputRow_ne_nil
    (read : readInputRow types fields path entries = .ok values)
    (given : entries ≠ []) :
    values ≠ [] := by
  obtain ⟨known, readFields⟩ := readInputRow_eq_ok.1 read
  obtain ⟨entry, member⟩ := List.exists_mem_of_ne_nil entries given
  rintro rfl
  have written := map_field_readInputFields readFields
  rw [List.map_nil, eq_comm, List.filter_eq_nil_iff] at written
  refine written entry.1 (known entry member) ?_
  rw [JsonEntries.isSome_lookup_iff]
  exact List.mem_map_of_mem member

end Inputs

section Columns

variable {table : Table} {types : TableTypes} {path : String} {entries : JsonEntries}
variable {values : List FieldValue}

/-- Every column of a table has its codec. -/
theorem map_fst_zip_columns (mapped : TableTypes.ofTable table = .ok types) :
    (types.table.columns.zip types.columns).map Prod.fst = types.table.columns := by
  obtain ⟨sameTable, codecs, _⟩ := TableTypes.ofTable_eq_ok mapped
  rw [← sameTable] at codecs
  exact List.map_fst_zip (Nat.le_of_eq (mapM_eq_ok.1 codecs).length_eq)

/-- The writable columns of a table in the order of their declaration. -/
theorem writableNames_sublist (mapped : TableTypes.ofTable table = .ok types) :
    ((writablePairs types.table types.columns).map fun pair => pair.1.name).Sublist
      types.table.columnNames := by
  have columns : types.table.columns = (types.table.columns.zip types.columns).map Prod.fst :=
    (map_fst_zip_columns mapped).symm
  rw [Table.columnNames, columns, List.map_map]
  exact List.filter_sublist.map _

/-- What is read by fields for the writable columns of a table writes to the table. -/
theorem writes_of_readInputFields
    (mapped : TableTypes.ofTable table = .ok types)
    (distinct : types.table.columnNames.Nodup)
    {field : Column × ColumnCodec -> InputField}
    (named : ∀ pair, (field pair).name = pair.1.name)
    (read : readInputFields types path entries
      ((writablePairs types.table types.columns).map field) = .ok values) :
    types.table.Writes values := by
  have written := map_field_readInputFields read
  have names : ((writablePairs types.table types.columns).map field).map (·.name) =
      (writablePairs types.table types.columns).map fun pair => pair.1.name := by
    rw [List.map_map]
    exact List.map_congr_left fun pair _ => named pair
  rw [names] at written
  have inOrder : (values.map (·.field)).Sublist types.table.columnNames := by
    rw [written]
    exact List.filter_sublist.trans (writableNames_sublist mapped)
  refine ⟨⟨inOrder, inOrder.nodup distinct⟩, fun value member => ?_⟩
  have isField : value.field ∈ values.map (·.field) := List.mem_map_of_mem member
  rw [written] at isField
  obtain ⟨pair, isPair, isNamed⟩ := List.mem_map.1 (List.mem_of_mem_filter isField)
  refine ⟨pair.1, (mem_of_writablePairs isPair).1, isNamed, ?_⟩
  have isWritable := (List.mem_filter.1 isPair).2
  rwa [Column.isWritable, Bool.not_eq_true'] at isWritable

/-- The input of an insert gives values to all columns that it has to. -/
theorem inserts_of_readInputRow
    (mapped : TableTypes.ofTable table = .ok types)
    (distinct : types.table.columnNames.Nodup)
    (read : readInputRow types (insertFields types.table types.columns) path entries
      = .ok values) :
    types.table.Inserts values := by
  have readFields := (readInputRow_eq_ok.1 read).2
  refine ⟨writes_of_readInputFields mapped distinct (fun _ => rfl) readFields,
    fun column member required => ?_⟩
  rw [← map_fst_zip_columns mapped] at member
  obtain ⟨pair, isPair, rfl⟩ := List.mem_map.1 member
  have isWritable : pair.1.isWritable = true := by
    rw [Column.isRequiredOnInsert, Bool.and_eq_true] at required
    exact required.2
  have isField : insertField pair.1 pair.2 ∈ insertFields types.table types.columns :=
    List.mem_map_of_mem (List.mem_filter.2 ⟨isPair, isWritable⟩)
  have isNonNull : (insertField pair.1 pair.2).type.isNonNull = true := by
    rw [insertField, if_pos required]
    exact TypeRef.isNonNull_required _
  rw [map_field_readInputFields readFields, List.mem_filter]
  exact ⟨List.mem_map_of_mem isField,
    isSome_lookup_of_readInputFields readFields _ isField isNonNull⟩

/-- The rows of an insert are as many as its input objects, and each is read from one. -/
theorem readInsertRows_eq_ok
    {inputs : List JsonEntries}
    {rows : List (List FieldValue)}
    (read : readInsertRows types inputs = .ok rows) :
    List.Forall₂ (fun entries row => ∃ path,
      readInputRow types (insertFields types.table types.columns) path entries = .ok row)
        inputs rows := by
  have several : ∀ {index inputs rows},
      readInputRows types (insertFields types.table types.columns) index inputs = .ok rows ->
        List.Forall₂ (fun entries row => ∃ path,
          readInputRow types (insertFields types.table types.columns) path entries = .ok row)
            inputs rows := by
    intro index inputs
    induction inputs generalizing index with
    | nil =>
        intro rows read
        rw [readInputRows] at read
        cases read
        exact .nil
    | cons entries inputs inductionHypothesis =>
        intro rows read
        simp only [readInputRows, bind_eq_ok, pure_eq_ok] at read
        obtain ⟨row, readRow, others, readOthers, rfl⟩ := read
        exact .cons ⟨_, readRow⟩ (inductionHypothesis readOthers)
  rw [readInsertRows.eq_def] at read
  dsimp only at read
  split at read
  · obtain ⟨row, readRow, same⟩ := bind_eq_ok.1 read
    rw [pure_eq_ok] at same
    rw [← same]
    exact .cons ⟨_, readRow⟩ .nil
  · exact several read

end Columns

/-- Arguments that name a row to insert, or an assignment to make. -/
def OperationArguments.NameWrites : OperationArguments -> Prop
  | select _ => True
  | insert rows => rows ≠ []
  | update assignments _ => assignments ≠ []
  | delete _ => True

theorem OperationArguments.read_nameWrites
    {operation : Operation}
    {arguments : JsonEntries}
    {sorted : OperationArguments}
    (read : OperationArguments.read operation arguments = .ok sorted) :
    sorted.NameWrites := by
  rw [OperationArguments.read, check_bind_eq_ok] at read
  obtain ⟨_, read⟩ := read
  split at read <;> simp only [bind_eq_ok, pure_eq_ok] at read
  · obtain ⟨_, _, rfl⟩ := read
    exact trivial
  · obtain ⟨_, _, rfl⟩ := read
    exact trivial
  · obtain ⟨document, _, rows, readRows, rfl⟩ := read
    rcases readRowList_eq_ok.1 readRows with ⟨entries, _, rfl⟩ | ⟨_, notEmpty⟩
    · exact List.cons_ne_nil _ _
    · exact notEmpty
  · obtain ⟨document, _, row, _, rfl⟩ := read
    exact List.cons_ne_nil _ _
  · obtain ⟨document, _, assignments, readSet, rfl⟩ := read
    simp only [readAssignments, bind_eq_ok] at readSet
    obtain ⟨entries, _, kept⟩ := readSet
    split at kept
    · cases kept
    · rename_i notEmpty
      cases kept
      exact fun isEmpty => notEmpty (List.isEmpty_iff.2 isEmpty)
  · subst read
    exact trivial

end RelationalApi
