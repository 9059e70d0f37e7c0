import RelationalApi.Proofs.Scalar.Kinds
import RelationalApi.Proofs.Storage.Constraints
import RelationalApi.Proofs.Storage.Defaults

/-!
# Nulls in stored rows

A stored row has null in a column only where the column admits null or is computed by the storage.
Its other values have no null inside.  A column for documents holds no document null, since clients
give it none, and holds a text only where that is its default.
-/

namespace RelationalApi

open Outcome

/-- A value other than null that rows take from clients or from the default of a column. -/
structure Column.Supplies (column : Column) (codec : Codec) (value : Value) : Prop where
  solid : value.Solid
  notDocumentNull : codec = .json -> value ≠ .json .null
  isDefault : codec = .json -> ∀ text, value = .string text ->
    column.default = some (.string text)

/-- What a column holds in stored rows. -/
inductive Column.Holds (column : Column) (codec : Codec) : Value -> Prop
  | null (admitted : column.nullable = true ∨ column.generated = true) : Holds column codec .null
  | value
      {value : Value}
      (supplied : column.Supplies codec value) :
      Holds column codec value

/-- The columns of a table hold the values of a row, and null where it has none. -/
def TableTypes.Holds (types : TableTypes) (row : StoredRow) : Prop :=
  ∀ name column codec, types.table.column? name = some column ->
    types.column? name = some codec ->
      column.Holds codec.codec ((fieldValue? row name).getD .null)

/-- What a column reads is null, or a value that clients supply. -/
theorem Column.supplies_of_decode
    {codec : ColumnCodec}
    {document : Json}
    {path : String}
    {value : Value}
    (column : Column)
    (decoded : codec.decode document path = .ok value) :
    value = .null ∨ column.Supplies codec.codec value := by
  rcases ColumnCodec.decode_eq_ok.1 decoded with ⟨_, _, isNull⟩ | ⟨notNull, read⟩
  · exact .inl isNull
  · have isDocument : codec.codec = .json -> value = .json document := by
      intro isJson
      rw [isJson] at read
      rcases Codec.read_eq_ok read with
        ⟨_, _, impossible, _⟩ | ⟨_, impossible, _⟩ | ⟨_, _, _, impossible, _⟩ | plain
      · cases impossible
      · cases impossible
      · cases impossible
      · rw [plainValue?] at plain
        exact (Option.some.inj plain).symm
    refine .inr ⟨codec.codec.read_solid read, ?_, ?_⟩
    · intro isJson isNull
      rw [isDocument isJson] at isNull
      exact notNull (Value.json.inj isNull)
    · intro isJson text isText
      rw [isDocument isJson] at isText
      cases isText

/-- What a default evaluates to is null, or a value that the default supplies. -/
theorem Column.supplies_of_defaultValue
    {now : Timestamp}
    {rows : List StoredRow}
    {column : Column}
    {default : ColumnDefault}
    {value : Value}
    (codec : Codec)
    (hasDefault : column.default = some default)
    (evaluated : Store.defaultValue now column.name rows default = .ok value) :
    value = .null ∨ column.Supplies codec value := by
  by_cases isNull : value = .null
  · exact .inl isNull
  · refine .inr ⟨solid_of_defaultValue evaluated isNull, ?_, ?_⟩
    · rintro _ rfl
      cases default <;> cases evaluated
    · rintro _ text rfl
      cases default with
      | string other =>
          cases evaluated
          exact hasDefault
      | _ => cases evaluated

/-- A value that was read for a column is null, or one that clients supply. -/
theorem Fixture.ReadBy.supplies
    {types : TableTypes}
    {name : String}
    {codec : ColumnCodec}
    {value : Value}
    (read : ReadBy types.columns ⟨name, value⟩)
    (foundCodec : types.column? name = some codec)
    (column : Column) :
    value = .null ∨ column.Supplies codec.codec value := by
  obtain ⟨reader, document, path, foundReader, _, decoded⟩ := read
  rw [TableTypes.column?] at foundCodec
  rw [foundCodec] at foundReader
  cases foundReader
  exact column.supplies_of_decode decoded

namespace Store

variable {schema : Schema} {table : Table} {types : TableTypes} {store : Store}

/-- Every value that a reached store has in a column is null, or was supplied for the column. -/
theorem Reached.supplies
    (reached : Reached schema (Mutation.Read schema) store)
    (member : table ∈ schema.tables)
    (mapped : TableTypes.ofTable table = .ok types)
    {row : StoredRow}
    (rowMember : row ∈ store.rows table.name)
    {name : String}
    {column : Column}
    (foundColumn : table.column? name = some column)
    {codec : ColumnCodec}
    (foundCodec : types.column? name = some codec)
    {value : Value}
    (found : fieldValue? row name = some value) :
    value = .null ∨ column.Supplies codec.codec value := by
  have general := reached.forall_rows
    (fun table row => ∀ types, TableTypes.ofTable table = .ok types ->
      ∀ name column codec value, table.column? name = some column ->
        types.column? name = some codec -> fieldValue? row name = some value ->
          value = .null ∨ column.Supplies codec.codec value) ?_ ?_ member
  · exact general row rowMember types mapped name column codec value foundColumn foundCodec found
  · intro statement table now rows given row isRead foundTable givenMember completed types mapped
      name column codec value foundColumn foundCodec found
    obtain ⟨_, fields, _⟩ := completeRow_eq_ok.1 completed
    obtain ⟨first, foundFirst, completedFirst⟩ := completeField_of_fieldValue? fields found
    rw [Table.column?] at foundColumn
    rw [foundColumn] at foundFirst
    cases foundFirst
    rcases (completeField_eq_ok completedFirst).2 with
      isGiven | isNull | ⟨default, hasDefault, evaluated⟩
    · have read := isRead table types foundTable mapped given givenMember _ isGiven
      exact read.supplies foundCodec column
    · exact .inl isNull
    · exact Column.supplies_of_defaultValue codec.codec hasDefault evaluated
  · intro statement table row isRead foundTable supplied _ _ types mapped name column codec value
      foundColumn foundCodec found
    rcases fieldValue?_foldl_assign found with before | assigned
    · exact supplied types mapped name column codec value foundColumn foundCodec before
    · exact (isRead table types foundTable mapped _ assigned).supplies foundCodec column

/-- The columns of every table hold the rows of a store that clients fill. -/
theorem Reached.holds
    (reached : Reached schema (Mutation.Read schema) store)
    (member : table ∈ schema.tables)
    (mapped : TableTypes.ofTable table = .ok types) :
    ∀ row ∈ store.rows table.name, types.Holds row := by
  intro row rowMember name column codec foundColumn foundCodec
  rw [(TableTypes.ofTable_eq_ok mapped).1] at foundColumn
  have notNull := checkNotNull_eq_ok.1 (reached.notNull member row rowMember) column
    (Table.mem_of_column? foundColumn)
  rw [Table.name_of_column? foundColumn] at notNull
  have null : present? row name = none -> column.Holds codec.codec .null := by
    intro absent
    refine .null ?_
    cases nullable : column.nullable with
    | true => exact .inl rfl
    | false =>
        cases generated : column.generated with
        | true => exact .inr rfl
        | false => exact absurd absent (notNull nullable generated)
  cases found : fieldValue? row name with
  | none => exact null (by rw [present?, found])
  | some value =>
      rcases reached.supplies member mapped rowMember foundColumn foundCodec found with
        rfl | supplied
      · exact null (by rw [present?, found]; rfl)
      · exact .value supplied

end Store
end RelationalApi
