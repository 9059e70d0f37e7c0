import Mathlib.Data.List.Dedup
import RelationalApi.Proofs.Scalar.Decoding
import RelationalApi.Proofs.Storage.Defaults

/-!
# Samples of codecs

Every codec of a column reads some document as a value other than null.  A client can therefore give
a value to any column.
-/

namespace RelationalApi

open Outcome

namespace Codec

/-- A document that a codec reads. -/
def sample : Codec -> Json
  | integer bits unsigned =>
      match integerForm bits unsigned with
      | .text => .string "0"
      | _ => .int 0
  | float => .int 0
  | decimal => .string "0"
  | boolean => .bool true
  | text _ => .string ""
  | uuid => .string "00000000-0000-0000-0000-000000000000"
  | date => .string "1970-01-01"
  | time => .string "00:00:00"
  | timestamp => .int 0
  | binary => .string ""
  | json => .bool true
  | enumeration _ members => .string ((members.head?.map (·.name)).getD "")
  | list _ => .array []

theorem sample_isWellFormed (codec : Codec) : codec.sample.isWellFormed = true := by
  cases codec with
  | integer bits unsigned =>
      rw [sample]
      split <;> decide
  | enumeration typeName members => rw [sample, Json.isWellFormed]
  | _ => rw [sample]; decide

theorem sample_isNull (codec : Codec) : codec.sample.isNull = false := by
  cases codec with
  | integer bits unsigned =>
      rw [sample]
      split <;> rfl
  | _ => rfl

/-- Zero is in the range of every width. -/
theorem zero_mem_integerRange (bits : Nat) (unsigned : Bool) :
    (integerRange bits unsigned).1 ≤ 0 ∧ 0 ≤ (integerRange bits unsigned).2 := by
  have positive : ∀ exponent : Nat, 0 < Int.pow 2 exponent :=
    fun exponent => Int.pow_pos (by decide)
  have whole := positive bits
  have half := positive (bits - 1)
  cases unsigned with
  | true => exact ⟨Int.le_refl 0, by rw [integerRange, if_pos rfl]; omega⟩
  | false => rw [integerRange, if_neg (by simp)]; omega

theorem readInteger_sample (bits : Nat) (unsigned : Bool) (path : String) :
    ∃ value, readInteger bits unsigned (Codec.integer bits unsigned).sample path = .ok value := by
  obtain ⟨notLess, notGreater⟩ := zero_mem_integerRange bits unsigned
  have inRange : (decide (0 < (integerRange bits unsigned).1) ||
      decide ((integerRange bits unsigned).2 < 0)) = false := by
    rw [decide_eq_false (Int.not_lt.2 notLess), decide_eq_false (Int.not_lt.2 notGreater)]
    rfl
  have whole : wholeInt64? (.int 0) = some 0 := by decide
  unfold readInteger
  rw [sample]
  cases integerForm bits unsigned with
  | text => cases unsigned <;> exact ⟨_, rfl⟩
  | small =>
      dsimp only [Json.int]
      rw [whole]
      dsimp only
      rw [inRange]
      exact ⟨_, rfl⟩
  | wide =>
      dsimp only [Json.int]
      rw [whole]
      dsimp only
      rw [inRange]
      exact ⟨_, rfl⟩

/-- A codec reads its sample, if it is no enum without members. -/
theorem read_sample
    (codec : Codec)
    (hasMembers : ∀ typeName members, codec = .enumeration typeName members -> members ≠ [])
    (path : String) :
    ∃ value, codec.read codec.sample path = .ok value ∧ value.isNull = false := by
  cases codec with
  | integer bits unsigned =>
      obtain ⟨value, read⟩ := readInteger_sample bits unsigned path
      refine ⟨value, read, ?_⟩
      rcases readInteger_kind read with ⟨_, rfl⟩ | ⟨_, rfl⟩ <;> rfl
  | text length =>
      cases length with
      | none => exact ⟨_, rfl, rfl⟩
      | some most => exact ⟨.string "", by rw [read, sample, readText]; simp, rfl⟩
  | list element => exact ⟨.array [], rfl, rfl⟩
  | enumeration typeName members =>
      cases members with
      | nil => exact absurd rfl (hasMembers typeName [] rfl)
      | cons first members =>
          refine ⟨.string first.value, ?_, rfl⟩
          simp [read, sample, plainValue?]
  | _ => exact ⟨_, rfl, rfl⟩

/-- The codec of a column has members if it is an enum. -/
theorem hasMembers_of_ofKind
    {table column : String}
    {kind : ColumnKind}
    {codec : Codec}
    (mapped : ofKind table column kind = .ok codec) :
    ∀ typeName members, codec = .enumeration typeName members -> members ≠ [] := by
  rintro typeName members rfl
  cases kind with
  | enumeration name values =>
      rw [ofKind] at mapped
      split at mapped
      · cases mapped
      · rename_i notEmpty
        obtain ⟨found, read, same⟩ := bind_eq_ok.1 mapped
        cases same
        cases values with
        | nil => exact absurd rfl notEmpty
        | cons value values =>
            rw [enumMembers] at read
            dsimp only at read
            split at read
            · cases read
            · obtain ⟨others, _, kept⟩ := bind_eq_ok.1 read
              cases kept
              exact List.cons_ne_nil _ _
  | array element =>
      obtain ⟨_, _, same⟩ := bind_eq_ok.1 mapped
      cases same
  | _ => cases mapped

end Codec

/-- A column of a table reads the sample of its codec. -/
theorem ColumnCodec.decode_sample
    {table : String}
    {declared : Column}
    {column : ColumnCodec}
    (mapped : ColumnCodec.ofColumn table declared = .ok column)
    (path : String) :
    ∃ value, column.decode column.codec.sample path = .ok value ∧ value.isNull = false := by
  obtain ⟨codec, mappedCodec, same⟩ := bind_eq_ok.1 mapped
  rw [pure_eq_ok] at same
  subst same
  rw [ColumnCodec.decode, Codec.sample_isNull]
  exact codec.read_sample (Codec.hasMembers_of_ofKind mappedCodec) path

/-!
## Rows of samples

A fixture can give samples to some columns of a table and leave out the others.  On an empty table
it adds one row, provided that the columns left out are omittable and take values other than null.
-/

namespace TableTypes

variable {table : Table} {types : TableTypes}

/-- Entries that give samples to the columns of some names. -/
def sampleEntries (types : TableTypes) (names : List String) : JsonEntries :=
  names.map fun name => (name, ((types.column? name).map (·.codec.sample)).getD .null)

theorem sampleEntries_wellFormed
    {names : List String}
    (distinct : names.Nodup) :
    (Json.object (types.sampleEntries names)).isWellFormed = true := by
  rw [Json.isWellFormed_object, Bool.and_eq_true, decide_eq_true_iff, Json.entriesWellFormed_iff]
  constructor
  · have sameKeys : (types.sampleEntries names).keys = names := by
      rw [JsonEntries.keys, sampleEntries, List.map_map]
      exact List.map_id' names
    rw [sameKeys]
    exact distinct
  · intro entry member
    obtain ⟨name, _, rfl⟩ := List.mem_map.1 member
    dsimp only
    cases types.column? name with
    | none => rfl
    | some column => exact column.codec.sample_isWellFormed

/-- Entries of samples are read as values other than null. -/
theorem readFields_sampleEntries
    (mapped : TableTypes.ofTable table = .ok types)
    {names : List String}
    (known : ∀ name ∈ names, name ∈ table.columnNames)
    (path : String) :
    ∃ fields, Fixture.readFields types.columns path (types.sampleEntries names) = .ok fields ∧
      fields.map (·.field) = names ∧ ∀ field ∈ fields, field.value.isNull = false := by
  induction names with
  | nil => exact ⟨[], rfl, rfl, by simp⟩
  | cons name names inductionHypothesis =>
      rw [List.forall_mem_cons] at known
      obtain ⟨fields, read, sameNames, notNull⟩ := inductionHypothesis known.2
      obtain ⟨declared, column, mappedColumn, found⟩ := exists_column? mapped known.1
      obtain ⟨value, decoded, valueNotNull⟩ :=
        ColumnCodec.decode_sample mappedColumn (joinPath path name)
      refine ⟨⟨name, value⟩ :: fields, ?_, ?_, List.forall_mem_cons.2 ⟨valueNotNull, notNull⟩⟩
      · have foundColumn : types.columns.find? (fun column => column.column == name)
            = some column := found
        rw [sampleEntries] at read ⊢
        rw [List.map_cons, Fixture.readFields, foundColumn, found, Option.map_some,
          Option.getD_some]
        dsimp only
        rw [decoded, read]
        rfl
      · rw [List.map_cons, sameNames]

end TableTypes

namespace Store

variable {table : Table} {now : Timestamp} {rows : List StoredRow} {given : List FieldValue}

/-- Fields are completed for all columns where those of one name can be omitted and all others are
given. -/
theorem exists_completedFields
    {hidden : String}
    (isGiven : ∀ name ∈ table.columnNames, name ≠ hidden ->
      ∃ value, fieldValue? given name = some value)
    (missing : fieldValue? given hidden = none)
    (canOmit : ∀ column ∈ table.columns, column.name = hidden ->
      column.omitted?.isSome = true) :
    ∃ row, table.columns.mapM (completeField now rows given) = .ok row := by
  refine exists_mapM_eq_ok fun column member => ?_
  by_cases isHidden : column.name = hidden
  · obtain ⟨value, omitted⟩ := Option.isSome_iff_exists.1 (canOmit column member isHidden)
    obtain ⟨field, completed, _⟩ := completeField_of_omitted? .json (isHidden ▸ missing) omitted
    exact ⟨field, completed⟩
  · obtain ⟨value, found⟩ := isGiven column.name (List.mem_map_of_mem member) isHidden
    exact ⟨_, completeField_of_given found⟩

/-- A row is completed from values for all columns but those of one name that can be omitted, and
holds a value there that a codec does not show if the codec does not show the omitted one. -/
theorem exists_completeRow
    {hidden : String}
    (givenNames : ∀ name, name ∈ given.map (·.field) ↔ name ∈ table.columnNames ∧ name ≠ hidden)
    (notNull : ∀ field ∈ given, field.value.isNull = false)
    (canOmit : ∀ column ∈ table.columns, column.name = hidden ->
      column.omitted?.isSome = true)
    {first : Column}
    (foundFirst : table.column? hidden = some first)
    {value : Value}
    (omitted : first.omitted? = some value)
    {codec : Codec}
    (notShown : (codec.show? value).isSome = false) :
    ∃ row stored, completeRow table now rows given = .ok row ∧
      fieldValue? row hidden = some stored ∧ (codec.show? stored).isSome = false := by
  have missing : fieldValue? given hidden = none := by
    rw [← Option.not_isSome_iff_eq_none, isSome_fieldValue?_iff, givenNames]
    exact fun known => known.2 rfl
  have isGiven : ∀ name ∈ table.columnNames, name ≠ hidden ->
      ∃ value, fieldValue? given name = some value := by
    intro name known different
    rw [← Option.isSome_iff_exists, isSome_fieldValue?_iff, givenNames]
    exact ⟨known, different⟩
  obtain ⟨row, completedRow⟩ := exists_completedFields isGiven missing canOmit
  have fields := mapM_eq_ok.1 completedRow
  have found : ∀ name ∈ table.columnNames, ∃ value, fieldValue? row name = some value := by
    intro name known
    rw [← Option.isSome_iff_exists, isSome_fieldValue?_iff, map_field_of_completeField fields]
    exact known
  have hiddenStored : ∀ stored, fieldValue? row hidden = some stored ->
      (codec.show? stored).isSome = false := by
    intro stored foundStored
    obtain ⟨other, otherValue, foundOther, otherOmitted, sameShown⟩ :=
      exists_omitted fields missing foundStored codec
    have sameColumn : table.column? hidden = some other := foundOther
    rw [foundFirst] at sameColumn
    cases sameColumn
    rw [omitted] at otherOmitted
    cases otherOmitted
    rw [← sameShown]
    exact notShown
  have storedNotNull : ∀ name value, name ∈ table.columnNames ->
      fieldValue? row name = some value -> value.isNull = false := by
    intro name value known foundValue
    by_cases isHidden : name = hidden
    · have notShownHere := hiddenStored value (isHidden ▸ foundValue)
      cases value with
      | null =>
          rw [Codec.show?_null] at notShownHere
          cases notShownHere
      | _ => rfl
    · obtain ⟨givenValue, foundGiven⟩ := isGiven name known isHidden
      rw [eq_of_given fields foundGiven foundValue]
      exact notNull _ (mem_of_fieldValue? foundGiven)
  obtain ⟨stored, foundStored⟩ := found hidden
    (List.mem_map.2 ⟨first, Table.mem_of_column? foundFirst, Table.name_of_column? foundFirst⟩)
  refine ⟨row, stored, completeRow_eq_ok.2 ⟨?_, fields, ?_⟩, foundStored,
    hiddenStored stored foundStored⟩
  · exact checkColumns_eq_ok.2 fun name member => ((givenNames name).1 member).1
  · refine checkNotNull_eq_ok.2 fun column member _ _ => (present?_ne_none_iff _ _).2 ?_
    have known : column.name ∈ table.columnNames := List.mem_map_of_mem member
    obtain ⟨value, foundValue⟩ := found column.name known
    exact ⟨value, foundValue, storedNotNull column.name value known foundValue⟩

/-- A row that can be completed is inserted into an empty table. -/
theorem insert_into_empty
    {schema : Schema}
    {row : StoredRow}
    (action : ConflictAction)
    (found : schema.table? table.name = some table)
    (completed : completeRow table now [] given = .ok row) :
    ∃ result, Store.empty.insert schema now
        { table := table.name, rows := [given], onConflict := action }
      = .ok (result, Store.empty.setRows table.name [row]) := by
  have free : conflict? table row [] = none := (conflict?_eq_none_iff row []).2 (by simp)
  have admitted : admitRows table now action [] [] [given] = .ok [row] := by
    rw [admitRows]
    refine bind_eq_ok.2 ⟨row, completed, ?_⟩
    rw [List.append_nil, free]
    rfl
  exact ⟨_, insert_eq_ok.2 ⟨table, [row], found, admitted, rfl, rfl⟩⟩

/-- A fixture can add a row that holds a value which its column does not show, if a column of the
table takes such a value in rows that omit it. -/
theorem exists_load
    {schema : Schema}
    {types : TableTypes}
    (found : schema.table? table.name = some table)
    (mapped : TableTypes.ofTable table = .ok types)
    {hidden : String}
    (canOmit : ∀ column ∈ table.columns, column.name = hidden ->
      column.omitted?.isSome = true)
    {first : Column}
    (foundFirst : table.column? hidden = some first)
    {value : Value}
    (omitted : first.omitted? = some value)
    {codec : Codec}
    (notShown : (codec.show? value).isSome = false)
    (now : Timestamp) :
    ∃ fixture row stored, fixture.isWellFormed = true ∧
      (Store.empty.load schema now fixture).2.rows table.name = [row] ∧
      fieldValue? row hidden = some stored ∧ (codec.show? stored).isSome = false := by
  let names := (table.columnNames.filter (· ≠ hidden)).dedup
  have isName : ∀ name, name ∈ names ↔ name ∈ table.columnNames ∧ name ≠ hidden := by
    intro name
    rw [List.mem_dedup, List.mem_filter, decide_eq_true_iff]
  let entries := types.sampleEntries names
  obtain ⟨fields, read, sameNames, notNull⟩ := TableTypes.readFields_sampleEntries mapped
    (fun name member => ((isName name).1 member).1) (itemPath (joinPath "fixture" table.name) 0)
  obtain ⟨row, stored, completed, foundStored, storedHidden⟩ :=
    @exists_completeRow table now [] fields hidden (sameNames.symm ▸ isName) notNull canOmit first
      foundFirst value omitted codec notShown
  obtain ⟨result, inserted⟩ := insert_into_empty .error found completed
  refine ⟨.object [(table.name, .array [.object entries])], row, stored, ?_, ?_, foundStored,
    storedHidden⟩
  · have rowWellFormed : (Json.object entries).isWellFormed = true :=
      TableTypes.sampleEntries_wellFormed (List.nodup_dedup _)
    rw [Json.isWellFormed_object, Bool.and_eq_true, Json.entriesWellFormed_iff,
      List.forall_mem_singleton, Json.isWellFormed_array, Json.itemsWellFormed_iff,
      List.forall_mem_singleton]
    exact ⟨by simp [JsonEntries.keys], rowWellFormed⟩
  · have loaded : Store.empty.loadTable schema now table.name (.array [.object entries])
        = .ok (result.affected, Store.empty.setRows table.name [row]) := by
      simp only [loadTable, bind_eq_ok, pure_eq_ok, mapError_eq_ok]
      refine ⟨table, by rw [Schema.table, found], types.columns,
        (TableTypes.ofTable_eq_ok mapped).2.1, [fields], ?_, (result, _), inserted, rfl⟩
      refine bind_eq_ok.2 ⟨fields, read, ?_⟩
      rfl
    rw [Store.load, loadTables, loaded]
    exact rows_setRows _ _ _

end Store
end RelationalApi
