import RelationalApi.Proofs.Catalog.Validity
import RelationalApi.Proofs.Request.CheckedArguments
import RelationalApi.Proofs.Request.ClientCalls
import RelationalApi.Proofs.Request.ColumnCalls
import RelationalApi.Proofs.Storage.LiteralDefaults

/-!
# Defaults that clients send

Clients may send the literal default of a column instead of leaving the column out.  A sent literal
is read by the codec of the column, while the storage fills in what the literal stands for by
itself.  Where the codec keeps the literal, both come to the same.  Elsewhere, as in columns for
dates, rows that left the column out hold another value than rows that sent its default.
-/

namespace RelationalApi

open Outcome

/-- Sends a literal under a name unless something else is sent under it. -/
def JsonEntries.sending (name : String) (literal : Json) (entries : JsonEntries) : JsonEntries :=
  if (entries.lookup name).isSome then entries else entries.set name literal

namespace JsonEntries

variable {name : String} {literal : Json} {entries : JsonEntries}

theorem lookup_sending_self :
    (entries.sending name literal).lookup name = some ((entries.lookup name).getD literal) := by
  rw [sending]
  cases found : entries.lookup name with
  | none => rw [if_neg (by simp), lookup_set, if_pos rfl, Option.getD_none]
  | some document => rw [Option.isSome_some, if_pos rfl, found, Option.getD_some]

theorem lookup_sending_of_ne
    {other : String}
    (different : other ≠ name) :
    (entries.sending name literal).lookup other = entries.lookup other := by
  rw [sending]
  split
  · rfl
  · rw [lookup_set, if_neg different]

theorem find?_sending
    {wanted : String -> Bool}
    (isOther : wanted name = false) :
    (entries.sending name literal).find? (fun entry => wanted entry.1) =
      entries.find? fun entry => wanted entry.1 := by
  rw [sending]
  split
  · rfl
  · exact find?_set entries literal isOther

end JsonEntries

/-- A column that inserts may leave out reads a value from a literal. -/
structure ReadsOmitted (types : TableTypes) (name : String) (literal : Json) (sent : Value) :
    Prop where
  known : ∀ field ∈ insertFields types.table types.columns, field.name ∈ types.table.columnNames
  optional : ∀ field ∈ insertFields types.table types.columns, field.name = name ->
    field.type.isNonNull = false
  declared : ∃ field ∈ insertFields types.table types.columns, field.name = name
  reads : ∃ codec, types.column? name = some codec ∧
    ∀ path, codec.decode literal path = .ok sent

/-- A column with a default, which the storage does not compute, may be left out by inserts. -/
theorem readsOmitted_of_defaultsTo
    {table : Table}
    {types : TableTypes}
    {name path : String}
    {column : Column}
    {codec : ColumnCodec}
    {literal : Json}
    {stored sent : Value}
    (mapped : TableTypes.ofTable table = .ok types)
    (distinct : table.columnNames.Nodup)
    (isColumn : table.column? name = some column)
    (notGenerated : column.generated = false)
    (defaults : column.DefaultsTo stored)
    (foundCodec : types.column? name = some codec)
    (accepted : codec.decode literal path = .ok sent) :
    ReadsOmitted types name literal sent := by
  obtain ⟨sameTable, codecs, _⟩ := TableTypes.ofTable_eq_ok mapped
  rw [← sameTable] at codecs distinct isColumn
  constructor
  · intro field isField
    obtain ⟨pair, isWritable, rfl⟩ := List.mem_map.1 isField
    exact List.mem_map_of_mem (mem_of_writablePairs isWritable).1
  · intro field isField isNamed
    obtain ⟨pair, isWritable, rfl⟩ := List.mem_map.1 isField
    have same := Table.eq_of_column? distinct isColumn (mem_of_writablePairs isWritable).1 isNamed
    obtain ⟨default, hasDefault, _⟩ := defaults
    have notRequired : pair.1.isRequiredOnInsert = false := by
      rw [same, Column.isRequiredOnInsert, hasDefault]
      simp
    rw [insertField, notRequired, if_neg Bool.false_ne_true, ScalarKind.isNonNull_type]
  · have sameLength := (mapM_eq_ok.1 codecs).length_eq
    have isFirst : column ∈ (types.table.columns.zip types.columns).map Prod.fst := by
      rw [List.map_fst_zip sameLength.le]
      exact Table.mem_of_column? isColumn
    obtain ⟨pair, isPair, rfl⟩ := List.mem_map.1 isFirst
    refine ⟨_, List.mem_map_of_mem (List.mem_filter.2 ⟨isPair, ?_⟩), Table.name_of_column? isColumn⟩
    rw [Column.isWritable, notGenerated]
    rfl
  · exact ⟨codec, foundCodec, codec.decode_anywhere accepted⟩

section Inputs

variable {types : TableTypes} {name : String} {literal : Json} {sent : Value} {path : String}
variable {entries : JsonEntries}

theorem fieldValue?_of_readInputFields
    {fields : List InputField}
    {values : List FieldValue}
    (absent : entries.lookup name = none)
    (read : readInputFields types path entries fields = .ok values) :
    fieldValue? values name = none := by
  rw [← Option.not_isSome_iff_eq_none, isSome_fieldValue?_iff]
  intro member
  obtain ⟨value, valueMember, rfl⟩ := List.mem_map.1 member
  have isKey := mem_keys_of_readInputFields read value valueMember
  rw [← JsonEntries.isSome_lookup_iff, absent] at isKey
  cases isKey

theorem readInputFields_sends
    {fields : List InputField}
    (isField : ∀ field ∈ fields, field ∈ insertFields types.table types.columns)
    (omitted : ReadsOmitted types name literal sent) :
    EndAlike (Store.Sends types.table name sent) (readInputFields types path entries fields)
      (readInputFields types path (entries.sending name literal) fields) := by
  induction fields with
  | nil => exact .ok .nil
  | cons field fields inductionHypothesis =>
      rw [List.forall_mem_cons] at isField
      have known := omitted.known field isField.1
      have rest := inductionHypothesis isField.2
      rw [readInputFields.eq_def, readInputFields.eq_def]
      dsimp only
      by_cases isNamed : field.name = name
      · obtain ⟨codec, isColumn, reads⟩ := omitted.reads
        rw [isNamed] at known ⊢
        rw [JsonEntries.lookup_sending_self, isColumn]
        cases found : entries.lookup name with
        | some document =>
            refine .after _ fun value => rest.bind fun _ _ _ _ sends => ?_
            exact .ok (.both known sends)
        | none =>
            dsimp only [Option.getD_none]
            rw [omitted.optional field isField.1 isNamed, if_neg Bool.false_ne_true, reads,
              ← bind_pure (readInputFields types path entries fields)]
            refine rest.bind fun _ _ read _ sends => .ok (.one known ?_ sends)
            exact fieldValue?_of_readInputFields found read
      · rw [JsonEntries.lookup_sending_of_ne isNamed]
        split
        · split
          · exact .error
          · exact rest
        · exact .error
        · refine .after _ fun value => rest.bind fun _ _ _ _ sends => ?_
          exact .ok (.both known sends)

theorem readInputRow_sends (omitted : ReadsOmitted types name literal sent) :
    EndAlike (Store.Sends types.table name sent)
      (readInputRow types (insertFields types.table types.columns) path entries)
      (readInputRow types (insertFields types.table types.columns) path
        (entries.sending name literal)) := by
  have wanted : (!(insertFields types.table types.columns).any fun field => field.name == name) =
      false := by
    obtain ⟨field, isField, isNamed⟩ := omitted.declared
    rw [Bool.not_eq_false', List.any_eq_true]
    exact ⟨field, isField, beq_iff_eq.2 isNamed⟩
  have sameUnknown := @JsonEntries.find?_sending name literal entries (fun key =>
    !(insertFields types.table types.columns).any fun field => field.name == key) wanted
  rw [readInputRow, readInputRow, sameUnknown]
  split
  · exact .error
  · exact readInputFields_sends (fun _ isField => isField) omitted

theorem readInputRows_sends
    (omitted : ReadsOmitted types name literal sent)
    (rows : List JsonEntries)
    (index : Nat) :
    EndAlike (List.Forall₂ (Store.Sends types.table name sent))
      (readInputRows types (insertFields types.table types.columns) index rows)
      (readInputRows types (insertFields types.table types.columns) index
        (rows.map (JsonEntries.sending name literal))) := by
  induction rows generalizing index with
  | nil => exact .ok .nil
  | cons entries rows inductionHypothesis =>
      rw [List.map_cons, readInputRows, readInputRows]
      refine (readInputRow_sends omitted).bind fun _ _ _ _ first => ?_
      exact (inductionHypothesis (index + 1)).bind fun _ _ _ _ later => .ok (.cons first later)

theorem readInsertRows_sends
    (omitted : ReadsOmitted types name literal sent)
    (rows : List JsonEntries) :
    EndAlike (List.Forall₂ (Store.Sends types.table name sent)) (readInsertRows types rows)
      (readInsertRows types (rows.map (JsonEntries.sending name literal))) := by
  match rows with
  | [] => exact readInputRows_sends omitted [] 0
  | [_] => exact (readInputRow_sends omitted).bind fun _ _ _ _ sends => .ok (.cons sends .nil)
  | first :: second :: others => exact readInputRows_sends omitted (first :: second :: others) 0

end Inputs

namespace Interface

variable {interface : Interface} {schema : Schema} {config : EngineConfig} {types : TableTypes}
variable {table : Table} {name : String} {literal : Json} {sent : Value}

/-- Inserts that leave out a column are answered and change the store like those that send it a
literal. -/
def OmitsAsSent (interface : Interface) (table name : String) (literal : Json) : Prop :=
  ∀ (now : Timestamp) (store : Store) (operation : Operation) (arguments others : JsonEntries)
    (rows : List JsonEntries) (selection : Selection),
    operation.table = table -> interface.operation? operation.name = some operation ->
      OperationArguments.read operation arguments = .ok (.insert rows) ->
        OperationArguments.read operation others
            = .ok (.insert (rows.map (JsonEntries.sending name literal))) ->
          interface.executeOn now operation.name arguments selection store =
            interface.executeOn now operation.name others selection store

/-- Mutations that do the same are carried out alike. -/
theorem run_mutate_congr
    {now : Timestamp}
    {store : Store}
    {operation : Operation}
    {response : ResponsePlan}
    {mutation other : Mutation}
    (same : store.mutate schema now mutation = store.mutate schema now other) :
    interface.run (Store.executor schema now) ⟨operation, .mutate mutation, response⟩ store =
      interface.run (Store.executor schema now) ⟨operation, .mutate other, response⟩ store := by
  change ((store.apply schema now mutation).1.bind _, (store.apply schema now mutation).2) =
    ((store.apply schema now other).1.bind _, (store.apply schema now other).2)
  rw [Store.apply, Store.apply, same]

/-- Operations that compile to requests which are carried out alike are executed alike. -/
theorem executeOn_congr
    {now : Timestamp}
    {store : Store}
    {operation : String}
    {arguments others : JsonEntries}
    {selection : Selection}
    (alike : EndAlike
      (fun compiled other => interface.run (Store.executor interface.schema now) compiled store =
        interface.run (Store.executor interface.schema now) other store)
      (interface.compile operation arguments selection)
      (interface.compile operation others selection)) :
    interface.executeOn now operation arguments selection store =
      interface.executeOn now operation others selection store := by
  rw [executeOn, executeOn, execute, execute]
  generalize interface.compile operation arguments selection = outcome at alike ⊢
  generalize interface.compile operation others selection = other at alike ⊢
  cases alike with
  | error => rfl
  | @ok compiled other same =>
      let executor := Store.executor interface.schema now
      change ((interface.run executor compiled store).1.mapError EngineError.execution,
          (interface.run executor compiled store).2) =
        ((interface.run executor other store).1.mapError EngineError.execution,
          (interface.run executor other store).2)
      rw [same]

/-- The inserts that rows compile to are carried out alike, whether or not defaults are sent. -/
theorem compileArguments_sends
    {now : Timestamp}
    {store : Store}
    {operation : Operation}
    {selection : Selection}
    (isTable : schema.table? types.table.name = some types.table)
    (omitted : ReadsOmitted types name literal sent)
    (defaults : ∀ column ∈ types.table.columns, column.name = name -> column.DefaultsTo sent)
    (rows : List JsonEntries) :
    EndAlike
      (fun compiled other =>
        interface.run (Store.executor schema now) ⟨operation, compiled.1, compiled.2⟩ store =
          interface.run (Store.executor schema now) ⟨operation, other.1, other.2⟩ store)
      (interface.compileArguments types operation (.insert rows) selection)
      (interface.compileArguments types operation
        (.insert (rows.map (JsonEntries.sending name literal))) selection) := by
  rw [compileArguments, compileArguments]
  refine .after _ fun planned => ?_
  refine (readInsertRows_sends omitted rows).bind fun _ _ _ _ pairs => .ok ?_
  exact run_mutate_congr (Store.insert_of_sends isTable pairs defaults)

theorem Represents.omitsAsSent
    (represents : interface.Represents schema config)
    (member : table ∈ schema.tables)
    (mapped : TableTypes.ofTable table = .ok types)
    (omitted : ReadsOmitted types name literal sent)
    (defaults : ∀ column ∈ table.columns, column.name = name -> column.DefaultsTo sent) :
    interface.OmitsAsSent table.name name literal := by
  intro now store operation arguments others rows selection isOnTable foundOperation read
    readSending
  have foundTypes := represents.table?_eq_some.2 ⟨table, Schema.table?_name member, mapped⟩
  have sameTable := (TableTypes.ofTable_eq_ok mapped).1
  have isTable : interface.schema.table? types.table.name = some types.table := by
    rw [represents.schema_eq, sameTable]
    exact Schema.table?_name member
  refine executeOn_congr ?_
  rw [compile, compile, foundOperation]
  dsimp only
  rw [read, readSending, isOnTable, typesAt_eq_ok.2 foundTypes]
  let compiled := fun rows =>
    interface.compileArguments types operation (OperationArguments.insert rows) selection
  change EndAlike _
    (compiled rows >>= fun made => .ok (CompiledOperation.mk operation made.1 made.2))
    (compiled (rows.map (JsonEntries.sending name literal)) >>= fun made =>
      .ok (CompiledOperation.mk operation made.1 made.2))
  refine (compileArguments_sends isTable omitted ?_ rows).bind fun _ _ _ _ same => .ok same
  rw [sameTable]
  exact defaults

/-- A column that is declared with a literal default holds the value that the literal stands for in
all rows that were inserted without one.  Exactly where its codec keeps the literal, this is the
value that the column reads from the literal, and inserts that leave the column out are answered and
change the store like those that send the literal. -/
theorem literal_defaults_iff_kept
    (generated : generate schema config = .ok interface)
    (member : table ∈ schema.tables)
    {declaration : ColumnDeclaration}
    {column : Column}
    (declared : declaration.toColumn = .ok column)
    (isColumn : table.column? declaration.name = some column)
    (isLiteral : declaration.literal? = some literal)
    {codec : ColumnCodec}
    (mapped : ColumnCodec.ofColumn table.name column = .ok codec)
    {path : String}
    (accepted : codec.decode literal path = .ok sent) :
    ∃ stored, literal.literalValue? = some stored ∧
      Store.FillsOmitted schema table declaration.name stored ∧
        (stored = sent ↔ codec.codec.keepsLiteral literal = true) ∧
          (codec.codec.keepsLiteral literal = true -> column.generated = false ->
            table.columnNames.Nodup ->
              interface.OmitsAsSent table.name declaration.name literal) := by
  have represents := represents_of_generate generated
  obtain ⟨_, stored, stands, defaults⟩ := declaration.defaultsTo_of_literal declared isLiteral
  have same := ColumnCodec.eq_decode_iff stands accepted
  refine ⟨stored, stands, ?_, same, fun kept notGenerated distinct => ?_⟩
  · exact Store.fillsOmitted_of_defaultsTo (Schema.table?_name member) isColumn defaults
  · cases same.2 kept
    obtain ⟨types, _, mappedTypes, _⟩ := represents.exists_table? member
    have foundCodec := (TableTypes.column?_eq_some mappedTypes).2 ⟨column, isColumn, mapped⟩
    have omitted := readsOmitted_of_defaultsTo mappedTypes distinct isColumn notGenerated defaults
      foundCodec accepted
    refine represents.omitsAsSent member mappedTypes omitted fun other isOther isNamed => ?_
    rw [Table.eq_of_column? distinct isColumn isOther isNamed]
    exact defaults

/-- The day of an event, which is the first one of a year unless it is given. -/
def eventDay : ColumnDeclaration :=
  { name := "day", type := "date", default := some (.string "2024-01-01") }

def eventTitle : ColumnDeclaration :=
  { name := "title", type := "text", default := some (.string "untitled") }

/-- A document that declares events. -/
def eventsDocument : SchemaDocument :=
  ⟨[("events", .table
    { columns := [{ name := "id", type := "int", primaryKey := true }, eventDay, eventTitle] })]⟩

def eventTable : Table :=
  { name := "events"
    columns :=
      [ { name := "id", kind := .integer 32 false, primaryKey := true },
        { name := "day", kind := .date, default := some (.string "2024-01-01") },
        { name := "title", kind := .text none, default := some (.string "untitled") } ] }

/-- The schema of events. -/
def events : Schema :=
  Schema.empty.withTable eventTable

theorem literal_defaults_iff_kept_events :
    ∃ interface, eventsDocument.toSchema = .ok events ∧ generate events {} = .ok interface ∧
      Store.FillsOmitted events eventTable "title" (.string "untitled") ∧
        interface.OmitsAsSent "events" "title" (.string "untitled") := by
  have isGenerated : (generate events {}).toOption.isSome = true := by decide +kernel
  obtain ⟨interface, generated⟩ := Option.isSome_iff_exists.1 isGenerated
  rw [toOption_eq_some] at generated
  have member : eventTable ∈ events.tables := List.mem_singleton_self _
  have declared : eventTitle.toColumn = .ok
      { name := "title", kind := .text none, default := some (.string "untitled") } := rfl
  have mapped : ColumnCodec.ofColumn "events"
      { name := "title", kind := .text none, default := some (.string "untitled") } =
        .ok ⟨"title", false, .text none⟩ := rfl
  have accepted : (⟨"title", false, .text none⟩ : ColumnCodec).decode (.string "untitled")
      "values.title" = .ok (.string "untitled") := rfl
  obtain ⟨stored, stands, fills, _, alike⟩ :=
    literal_defaults_iff_kept generated member declared rfl rfl mapped accepted
  cases stands
  exact ⟨interface, rfl, generated, fills, alike rfl rfl (by decide)⟩

/-- An event that is inserted without a day holds the text of its default, though the column reads a
date from it. -/
theorem not_fillsOmitted_events :
    ∃ column codec sent, eventsDocument.toSchema = .ok events ∧ eventTable ∈ events.tables ∧
      eventTable.column? "day" = some column ∧ eventDay.toColumn = .ok column ∧
        ColumnCodec.ofColumn "events" column = .ok codec ∧
          codec.decode (.string "2024-01-01") "values.day" = .ok sent ∧
            ¬Store.FillsOmitted events eventTable "day" sent := by
  refine ⟨_, ⟨"day", false, .date⟩, .date ⟨2024, 1, 1⟩, rfl, List.mem_singleton_self _, rfl, rfl,
    rfl, rfl, fun fills => ?_⟩
  let given : List FieldValue := [⟨"id", .int 1⟩]
  let row : StoredRow :=
    [⟨"id", .int 1⟩, ⟨"day", .string "2024-01-01"⟩, ⟨"title", .string "untitled"⟩]
  obtain ⟨inserted, isInserted, filled⟩ := fills default Store.empty ⟨[("events", [row])]⟩
    ⟨"events", [given], none, .error⟩ ⟨1, none⟩ rfl rfl
  have isRow : inserted = [row] := isInserted.symm
  rw [isRow, List.forall_mem_singleton] at filled
  obtain ⟨_, isGiven, _, _, holds⟩ := filled
  rw [List.mem_singleton.1 isGiven] at holds
  cases holds rfl

end Interface
end RelationalApi
