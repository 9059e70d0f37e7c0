import RelationalApi.Proofs.Request.ClientCalls
import RelationalApi.Proofs.Request.FittingRequests
import RelationalApi.Proofs.Scalar.Kinds
import RelationalApi.Proofs.Storage.Refusals

/-!
# Mutations that were accepted

The input of a mutation must give values to the columns that need them, and columns read null only
where they admit it.  Together with the defaults this is all that the storage demands of the values
of a row, whether the row is inserted or assigned to.  A mutation that compiles is therefore refused
only for what the interface cannot know: the keys that are taken and the defaults that the storage
does not evaluate.

This is where it matters that no two columns of a table share a name.  The first of them decides
how the name is read, but the storage checks the value for each of them.
-/

namespace RelationalApi

open Outcome

/-- Values that were read for a table are null only in columns that admit null. -/
theorem Table.keepsNonNull_of_readBy
    {table : Table}
    {types : TableTypes}
    {values : List FieldValue}
    (mapped : TableTypes.ofTable table = .ok types)
    (distinct : table.columnNames.Nodup)
    (read : ∀ value ∈ values, Fixture.ReadBy types.columns value) :
    table.KeepsNonNull values := by
  intro value member column isColumn isNamed notNullable
  obtain ⟨codec, document, path, isCodec, _, decoded⟩ := read value member
  obtain ⟨declared, isDeclared, mappedColumn⟩ := (TableTypes.column?_eq_some mapped).1 isCodec
  have same := Table.eq_of_column? distinct isDeclared isColumn isNamed
  subst same
  have required : codec.nullable = false := by
    obtain ⟨_, _, same⟩ := bind_eq_ok.1 mappedColumn
    rw [pure_eq_ok] at same
    rw [← same]
    exact notNullable
  rcases ColumnCodec.decode_eq_ok.1 decoded with ⟨_, admitsNull, _⟩ | ⟨_, readValue⟩
  · rw [required] at admitsNull
    cases admitsNull
  · exact codec.codec.isNull_of_read readValue

namespace Interface

variable {interface : Interface} {schema : Schema} {config : EngineConfig} {now : Timestamp}
variable {store : Store} {mutation : Mutation} {fault : ExecutionError}

/-- A mutation that fits the schema, with values which were read, is refused on a reached store only
for what its values cannot show. -/
theorem Represents.refuses_of_mutate
    (represents : interface.Represents schema config)
    (distinct : ∀ table ∈ schema.tables, table.columnNames.Nodup)
    (defaults : ∀ table ∈ schema.tables, table.DefaultsNonNull)
    (reached : Store.Reached schema (Mutation.Read schema) store)
    (fits : mutation.Fits schema)
    (isRead : mutation.Read schema)
    (failed : store.mutate schema now mutation = .error fault) :
    ∃ table, schema.table? mutation.table = some table ∧ table.Refuses fault := by
  cases fits with
  | @insert statement table isTable _ inserts _ =>
      have member := Schema.mem_of_table? isTable
      obtain ⟨types, _, mapped, _⟩ := represents.exists_table? member
      have read : ∀ given ∈ statement.rows, ∀ value ∈ given, Fixture.ReadBy types.columns value :=
        isRead table types isTable mapped
      exact ⟨table, isTable, Store.insert_eq_error (distinct table member) isTable inserts
        (fun given givenMember => Table.keepsNonNull_of_readBy mapped (distinct table member)
          (read given givenMember))
        (defaults table member) failed⟩
  | @update statement table isTable _ writes _ _ =>
      have member := Schema.mem_of_table? isTable
      obtain ⟨types, _, mapped, _⟩ := represents.exists_table? member
      have read : ∀ value ∈ statement.assignments, Fixture.ReadBy types.columns value :=
        isRead table types isTable mapped
      obtain ⟨column, rfl⟩ := Store.update_eq_error isTable writes
        (Table.keepsNonNull_of_readBy mapped (distinct table member) read)
        (reached.notNull member) failed
      exact ⟨table, isTable, .duplicateKey column⟩
  | @delete statement table isTable _ _ =>
      change store.delete schema statement = .error fault at failed
      rw [Store.delete, Store.target_eq_ok.2 isTable] at failed
      cases failed

/-- Whatever clients have done before, a mutation that compiles is refused only for a key that is
taken, or for a default that the storage does not evaluate. -/
def ChecksWrites (interface : Interface) (schema : Schema) : Prop :=
  ∀ (calls : List (Timestamp × ClientCall)) (now : Timestamp) (name : String)
    (arguments : JsonEntries) (selection : Selection) (compiled : CompiledOperation)
    (mutation : Mutation) (fault : ExecutionError),
    (∀ call ∈ calls, call.2.WellFormed) -> (Json.object arguments).isWellFormed = true ->
      interface.compile name arguments selection = .ok compiled ->
        compiled.request = .mutate mutation ->
          (interface.afterCalls calls).mutate schema now mutation = .error fault ->
            ∃ table, schema.table? mutation.table = some table ∧ table.Refuses fault

/-- Where no two columns of a table share a name and no column that must have a value has null as
its default, the checks of arguments leave only keys and defaults to the storage. -/
theorem checksWrites_of_generate
    (schema : Schema)
    (config : EngineConfig)
    (interface : Interface)
    (generated : generate schema config = .ok interface)
    (distinct : ∀ table ∈ schema.tables, table.columnNames.Nodup)
    (defaults : ∀ table ∈ schema.tables, table.DefaultsNonNull) :
    interface.ChecksWrites schema := by
  intro calls now name arguments selection compiled mutation fault callsWellFormed wellFormed
    compiles requested failed
  have represents := represents_of_generate generated
  have fits := represents.fits_of_compile distinct compiles
  rw [requested] at fits
  exact represents.refuses_of_mutate distinct defaults
    (represents.reached_afterCalls callsWellFormed) fits
    (represents.read_of_compile wellFormed compiles requested) failed

/-- The fault with which a mutation that compiles is refused after some calls. -/
def refusal? (interface : Interface) (schema : Schema) (calls : List (Timestamp × ClientCall))
    (name : String) (arguments : JsonEntries) (selection : Selection) : Option ExecutionError :=
  match (interface.compile name arguments selection).toOption.map CompiledOperation.request with
  | some (.mutate mutation) =>
    match (interface.afterCalls calls).mutate schema default mutation with
    | .error fault => some fault
    | .ok _ => none
  | _ => none

theorem refusal?_eq_some
    {calls : List (Timestamp × ClientCall)}
    {name : String}
    {arguments : JsonEntries}
    {selection : Selection}
    (refused : interface.refusal? schema calls name arguments selection = some fault) :
    ∃ compiled mutation, interface.compile name arguments selection = .ok compiled ∧
      compiled.request = .mutate mutation ∧
        (interface.afterCalls calls).mutate schema default mutation = .error fault := by
  unfold refusal? at refused
  split at refused
  · rename_i mutation isRequest
    obtain ⟨compiled, compiles, requested⟩ := Option.map_eq_some_iff.1 isRequest
    rw [toOption_eq_some] at compiles
    split at refused
    · rename_i failed
      cases refused
      exact ⟨compiled, mutation, compiles, requested, failed⟩
    · cases refused
  · cases refused

/-- Tickets with a code that clients may leave to the storage. -/
def tickets : Schema :=
  Schema.empty.withTable
    { name := "tickets"
      columns :=
        [ { name := "id", kind := .integer 32 false, primaryKey := true },
          { name := "code", kind := .text none, default := some (.expression "new_code()") },
          { name := "title", kind := .text none, default := some (.string "untitled") } ] }

/-- The input of a ticket with a code. -/
def codedTicket : JsonEntries :=
  [("values", .object [("id", .int 1), ("code", .string "a")])]

/-- The input of a ticket without a code. -/
def uncodedTicket : JsonEntries :=
  [("values", .object [("id", .int 2)])]

theorem checksWrites_tickets :
    ∃ interface, generate tickets { conflictPolicy := .error } = .ok interface ∧
      interface.ChecksWrites tickets ∧
      interface.refusal? tickets
          [(default, .operate "insertIntoTicketsSingle" codedTicket [{ name := "id" }])]
          "insertIntoTicketsSingle" codedTicket [{ name := "id" }] =
        some (.duplicateKey "id" "tickets") ∧
      interface.refusal? tickets [] "insertIntoTicketsSingle" uncodedTicket [{ name := "id" }] =
        some (.defaultNotEvaluated "new_code()" "code") := by
  have checks : ((generate tickets { conflictPolicy := .error }).toOption.map fun interface =>
      (interface.refusal? tickets
        [(default, .operate "insertIntoTicketsSingle" codedTicket [{ name := "id" }])]
        "insertIntoTicketsSingle" codedTicket [{ name := "id" }],
      interface.refusal? tickets [] "insertIntoTicketsSingle" uncodedTicket [{ name := "id" }])) =
      some (some (.duplicateKey "id" "tickets"),
        some (.defaultNotEvaluated "new_code()" "code")) := by
    decide +kernel
  obtain ⟨interface, generated, checked⟩ := Option.map_eq_some_iff.1 checks
  rw [toOption_eq_some] at generated
  rw [Prod.mk.injEq] at checked
  refine ⟨interface, generated, ?_, checked⟩
  refine checksWrites_of_generate tickets { conflictPolicy := .error } interface generated
    (by decide) ?_
  simp [tickets, Schema.withTable, Schema.empty, insertTable, Table.DefaultsNonNull]

/-- Notes whose second body must have a value, though their first body need not. -/
def notes : Schema :=
  Schema.empty.withTable
    { name := "notes"
      columns :=
        [ { name := "id", kind := .integer 32 false, primaryKey := true },
          { name := "body", kind := .text none, nullable := true },
          { name := "body", kind := .text none } ] }

/-- A note without a body is accepted as the first body may be null, and refused for the second. -/
theorem not_checksWrites_notes :
    ∃ interface, generate notes {} = .ok interface ∧
      (∀ table ∈ notes.tables, table.DefaultsNonNull) ∧ ¬interface.ChecksWrites notes := by
  have checks : ((generate notes {}).toOption.bind fun interface =>
      interface.refusal? notes [] "insertIntoNotesSingle"
        [("values", .object [("id", .int 1), ("body", .null)])] [{ name := "id" }]) =
      some (.nullValue "body" "notes") := by
    decide +kernel
  obtain ⟨interface, generated, refused⟩ := Option.bind_eq_some_iff.1 checks
  rw [toOption_eq_some] at generated
  refine ⟨interface, generated, ?_, fun checksWrites => ?_⟩
  · simp [notes, Schema.withTable, Schema.empty, insertTable, Table.DefaultsNonNull]
  · obtain ⟨compiled, mutation, compiles, requested, failed⟩ := refusal?_eq_some refused
    obtain ⟨_, _, refuses⟩ := checksWrites [] default "insertIntoNotesSingle" _
      [{ name := "id" }] compiled mutation _ (by simp) (by decide +kernel) compiles requested failed
    cases refuses

end Interface
end RelationalApi
