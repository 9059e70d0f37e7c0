import RelationalApi.Proofs.Scalar.Decoding
import RelationalApi.Proofs.Storage.Reached
import RelationalApi.Storage.Fixture

/-!
# Loading fixtures

Every value of a fixture is read by the first codec of its column.  Loading a fixture comes down to
one insert statement for each table, up to the first that fails.
-/

namespace RelationalApi

open Outcome

namespace Fixture

variable {columns : List ColumnCodec} {path : String}

/-- A value is what the first codec of its field reads from a well-formed document. -/
def ReadBy (columns : List ColumnCodec) (field : FieldValue) : Prop :=
  ∃ column document path,
    columns.find? (fun column => column.column == field.field) = some column ∧
      document.isWellFormed = true ∧ column.decode document path = .ok field.value

theorem readFields_readBy
    {entries : JsonEntries}
    {fields : List FieldValue}
    (wellFormed : ∀ entry ∈ entries, entry.2.isWellFormed = true)
    (read : readFields columns path entries = .ok fields) :
    ∀ field ∈ fields, ReadBy columns field := by
  induction entries generalizing fields with
  | nil =>
      rw [readFields] at read
      cases read
      simp
  | cons entry entries inductionHypothesis =>
      obtain ⟨name, document⟩ := entry
      rw [List.forall_mem_cons] at wellFormed
      rw [readFields] at read
      split at read
      · cases read
      · rename_i column found
        simp only [bind_eq_ok, pure_eq_ok] at read
        obtain ⟨value, decoded, others, readOthers, rfl⟩ := read
        refine List.forall_mem_cons.2 ⟨?_, inductionHypothesis wellFormed.2 readOthers⟩
        exact ⟨column, document, _, found, wellFormed.1, decoded⟩

theorem readRows_readBy
    {index : Nat}
    {documents : List Json}
    {rows : List (List FieldValue)}
    (wellFormed : ∀ document ∈ documents, document.isWellFormed = true)
    (read : readRows columns path index documents = .ok rows) :
    ∀ row ∈ rows, ∀ field ∈ row, ReadBy columns field := by
  induction documents generalizing index rows with
  | nil =>
      rw [readRows] at read
      cases read
      simp
  | cons document documents inductionHypothesis =>
      rw [List.forall_mem_cons] at wellFormed
      cases document with
      | object entries =>
          simp only [readRows, bind_eq_ok, pure_eq_ok] at read
          obtain ⟨row, readRow, others, readOthers, rfl⟩ := read
          refine List.forall_mem_cons.2 ⟨?_, inductionHypothesis wellFormed.2 readOthers⟩
          have entriesWellFormed := wellFormed.1
          rw [Json.isWellFormed_object, Bool.and_eq_true, Json.entriesWellFormed_iff]
            at entriesWellFormed
          exact readFields_readBy entriesWellFormed.2 readRow
      | _ => cases read

/-- Every value that a well-formed fixture gives to a table is read by a codec of the table from a
well-formed document. -/
theorem rowsOf_readBy
    {table : String}
    {document : Json}
    {rows : List (List FieldValue)}
    (wellFormed : document.isWellFormed = true)
    (read : rowsOf columns table document = .ok rows) :
    ∀ row ∈ rows, ∀ field ∈ row, ReadBy columns field := by
  cases document with
  | array documents =>
      rw [Json.isWellFormed_array, Json.itemsWellFormed_iff] at wellFormed
      exact readRows_readBy wellFormed read
  | _ => cases read

theorem ReadBy.isWellFormed
    {field : FieldValue}
    (read : ReadBy columns field) :
    field.value.isWellFormed = true := by
  obtain ⟨_, _, _, _, wellFormed, decoded⟩ := read
  exact ColumnCodec.decode_isWellFormed wellFormed decoded

end Fixture

namespace Store

variable {schema : Schema} {table : Table} {now : Timestamp} {store : Store}
variable {allowed : Mutation -> Prop}

/-- Filling tables from a document comes down to insert statements of the rows that it gives. -/
theorem Reached.loadTables
    (entries : JsonEntries)
    (isAllowed : ∀ name document table columns rows, (name, document) ∈ entries ->
      schema.table? name = some table -> ColumnCodec.ofTable table = .ok columns ->
        Fixture.rowsOf columns name document = .ok rows ->
          allowed (.insert { table := name, rows := rows, onConflict := .error }))
    (reached : Reached schema allowed store)
    (loaded : Nat) :
    Reached schema allowed (store.loadTables schema now loaded entries).2 := by
  induction entries generalizing store loaded with
  | nil => exact reached
  | cons entry entries inductionHypothesis =>
      obtain ⟨name, document⟩ := entry
      rw [Store.loadTables]
      split
      · rename_i count filled loadedTable
        rw [loadTable] at loadedTable
        simp only [bind_eq_ok, pure_eq_ok, mapError_eq_ok] at loadedTable
        obtain ⟨table, foundTable, columns, mapped, rows, decoded, ⟨result, after⟩, inserted,
          same⟩ := loadedTable
        cases same
        have found : schema.table? name = some table := by
          rw [Schema.table] at foundTable
          split at foundTable
          · rename_i found
            cases foundTable
            exact found
          · cases foundTable
        refine inductionHypothesis ?_ ?_ _
        · intro name document table columns rows member
          exact isAllowed name document table columns rows (List.mem_cons_of_mem _ member)
        · exact .mutate reached
            (isAllowed name document table columns rows List.mem_cons_self found mapped decoded)
            inserted
      · exact reached

/-- A store that is loaded from a fixture is reached by insert statements of the fixture's rows. -/
theorem Reached.load
    {fixture : Json}
    (isAllowed : ∀ entries name document table columns rows, fixture = .object entries ->
      (name, document) ∈ entries -> schema.table? name = some table ->
        ColumnCodec.ofTable table = .ok columns ->
          Fixture.rowsOf columns name document = .ok rows ->
            allowed (.insert { table := name, rows := rows, onConflict := .error }))
    (reached : Reached schema allowed store) :
    Reached schema allowed (store.load schema now fixture).2 := by
  cases fixture with
  | object entries =>
      refine reached.loadTables entries ?_ 0
      intro name document table columns rows
      exact isAllowed entries name document table columns rows rfl
  | _ => exact reached

end Store
end RelationalApi
