import RelationalApi.Proofs.Json.Entries
import RelationalApi.Proofs.Storage.Reached
import RelationalApi.Storage.Fixture

/-!
# All or nothing

A statement that fails leaves every table as it was, and one that succeeds changes only the rows of
the table that it names.  This does not rest on throwing a half-changed store away: carried out in
place, where everything written before a failure stays written, statements end with the same
answers and the same rows, because every check comes before rows are changed.

Loading a fixture is no single statement.  It fills tables one after another, and when it fails at
one of them, the tables before it are filled completely and all others are as they were.
-/

namespace RelationalApi

open Outcome

namespace Store

variable {schema : Schema} {table : Table} {now : Timestamp} {store after : Store}

/-- A statement changed nothing if it failed, and nothing but the named table if it succeeded. -/
structure AllOrNothing (mutation : Mutation) (store : Store)
    (outcome : Except ExecutionError MutationResult × Store) : Prop where
  unchanged_of_error : ∀ fault, outcome.1 = .error fault ->
    ∀ name, outcome.2.rows name = store.rows name
  others_unchanged : ∀ name, name ≠ mutation.table -> outcome.2.rows name = store.rows name

theorem allOrNothing_apply
    (schema : Schema)
    (now : Timestamp)
    (mutation : Mutation)
    (store : Store) :
    AllOrNothing mutation store (store.apply schema now mutation) := by
  rw [apply]
  cases mutated : store.mutate schema now mutation with
  | error fault => exact ⟨fun _ _ _ => rfl, fun _ _ => rfl⟩
  | ok outcome =>
      constructor
      · intro fault impossible
        cases impossible
      · intro name different
        exact rows_mutate_of_ne mutated different

/-! ## Statements in place -/

/-- Work on a store in place: what is written before a failure stays written. -/
abbrev InPlace (α : Type) := ExceptT ExecutionError (StateM Store) α

/-- Replaces the rows of a table in place. -/
def writeRows (table : Table) (rows : List StoredRow) : InPlace Unit :=
  modify fun store => store.setRows table.name rows

/-- Opens a table for a statement.  A table without rows gets a place in the store. -/
def openTable (table : Table) : InPlace (List StoredRow) := do
  let stored := (← get).rows table.name
  writeRows table stored
  return stored

/-- Inserts rows in place.  They are written when all of them are admitted. -/
def insertInPlace (schema : Schema) (now : Timestamp) (statement : InsertStatement) :
    InPlace MutationResult := do
  let table ← liftExcept (target schema statement.table)
  let stored ← openTable table
  let inserted ← liftExcept
    (admitRows table now statement.onConflict stored [] statement.rows)
  writeRows table (stored ++ inserted)
  return answer statement.returning inserted

/-- Updates rows in place.  A copy of the table is changed, checked, and written as a whole. -/
def updateInPlace (schema : Schema) (statement : UpdateStatement) : InPlace MutationResult := do
  let table ← liftExcept (target schema statement.table)
  liftExcept (checkColumns table (statement.assignments.map (·.field)))
  let stored ← openTable table
  let updated := updateMatched statement stored
  let affected := (updated.filter (·.1)).map (·.2)
  liftExcept (affected.forM (checkNotNull table))
  liftExcept (checkConflicts table [] updated)
  writeRows table (updated.map (·.2))
  return answer statement.returning affected

/-- Deletes rows in place.  All rows are taken out of the table before some are put back. -/
def deleteInPlace (schema : Schema) (statement : DeleteStatement) : InPlace MutationResult := do
  let table ← liftExcept (target schema statement.table)
  let stored ← openTable table
  writeRows table []
  let (removed, kept) := stored.partition (Filter.accepts statement.filter)
  writeRows table kept
  return answer statement.returning removed

/-- Carries out a statement in place. -/
def mutateInPlace (schema : Schema) (now : Timestamp) : Mutation -> InPlace MutationResult
  | .insert statement => insertInPlace schema now statement
  | .update statement => updateInPlace schema statement
  | .delete statement => deleteInPlace schema statement

/-- Two ways to carry out a statement end with one answer and the same rows in all tables. -/
def EndsLike (outcome other : Except ExecutionError MutationResult × Store) : Prop :=
  outcome.1 = other.1 ∧ ∀ name, outcome.2.rows name = other.2.rows name

/-- The outcome of a statement that leaves the store alone until it has succeeded. -/
def settle (outcome : Except ExecutionError (MutationResult × Store)) (store : Store) :
    Except ExecutionError MutationResult × Store :=
  match outcome with
  | .ok (result, changed) => (.ok result, changed)
  | .error fault => (.error fault, store)

section Steps

variable {α : Type} {current : Store}

/-- A check in place is like one ahead of all writes as long as no rows have been changed. -/
theorem endsLike_check
    {outcome : Except ExecutionError α}
    {next : α -> InPlace MutationResult}
    {rest : α -> Except ExecutionError (MutationResult × Store)}
    (same : ∀ name, current.rows name = store.rows name)
    (step : ∀ value, EndsLike ((next value).run current) (settle (rest value) store)) :
    EndsLike ((liftExcept outcome >>= next).run current) (settle (outcome >>= rest) store) := by
  cases outcome with
  | error fault => exact ⟨rfl, same⟩
  | ok value => exact step value

/-- Opening a table finds its rows and changes none. -/
theorem endsLike_openTable
    {next : List StoredRow -> InPlace MutationResult}
    {other : Except ExecutionError MutationResult × Store}
    (step : ∀ opened, (∀ name, Store.rows opened name = store.rows name) ->
      EndsLike ((next (store.rows table.name)).run opened) other) :
    EndsLike ((openTable table >>= next).run store) other := by
  refine step (store.setRows table.name (store.rows table.name)) fun name => ?_
  by_cases isTable : name = table.name
  · rw [isTable, rows_setRows]
  · exact rows_setRows_of_ne store _ isTable

/-- It does not matter which rows a table had when its rows are written for the last time. -/
theorem endsLike_writeRows
    {rows : List StoredRow}
    {result : MutationResult}
    (same : ∀ name, name ≠ table.name -> current.rows name = store.rows name) :
    EndsLike ((writeRows table rows >>= fun _ => pure result).run current)
      (settle (.ok (result, store.setRows table.name rows)) store) := by
  refine ⟨rfl, fun name => ?_⟩
  change (current.setRows table.name rows).rows name = (store.setRows table.name rows).rows name
  by_cases isTable : name = table.name
  · rw [isTable, rows_setRows, rows_setRows]
  · rw [rows_setRows_of_ne _ _ isTable, rows_setRows_of_ne _ _ isTable, same name isTable]

end Steps

/-- Carried out in place, a statement ends like one that leaves the store alone until it has
succeeded. -/
theorem mutateInPlace_endsLike
    (schema : Schema)
    (now : Timestamp)
    (mutation : Mutation)
    (store : Store) :
    EndsLike ((mutateInPlace schema now mutation).run store) (store.apply schema now mutation) := by
  change EndsLike _ (settle (store.mutate schema now mutation) store)
  cases mutation with
  | insert statement =>
      refine endsLike_check (fun _ => rfl) fun table => ?_
      refine endsLike_openTable fun opened same => ?_
      refine endsLike_check same fun inserted => ?_
      exact endsLike_writeRows fun name _ => same name
  | update statement =>
      refine endsLike_check (fun _ => rfl) fun table => ?_
      refine endsLike_check (fun _ => rfl) fun _ => ?_
      refine endsLike_openTable fun opened same => ?_
      refine endsLike_check same fun _ => ?_
      refine endsLike_check same fun _ => ?_
      exact endsLike_writeRows fun name _ => same name
  | delete statement =>
      refine endsLike_check (fun _ => rfl) fun table => ?_
      refine endsLike_openTable fun opened same => ?_
      -- The emptied table is the one that is written again.
      refine @endsLike_writeRows table store (opened.setRows table.name []) _ _ ?_
      intro name different
      rw [rows_setRows_of_ne _ _ different, same name]

/-! ## Fixtures -/

/-- Rows that complete given ones, each behind the rows of its table and those completed before. -/
inductive Completes (table : Table) (now : Timestamp) :
    List StoredRow -> List (List FieldValue) -> List StoredRow -> Prop
  | nil {stored : List StoredRow} : Completes table now stored [] []
  | cons
      {stored rows : List StoredRow}
      {given : List FieldValue}
      {others : List (List FieldValue)}
      {row : StoredRow}
      (completed : completeRow table now stored given = .ok row)
      (rest : Completes table now (stored ++ [row]) others rows) :
      Completes table now stored (given :: others) (row :: rows)

/-- A table holds all that a fixture gives to it: behind the rows that it had before stands one row
for each that the document lists. -/
def HoldsAllOf (schema : Schema) (now : Timestamp) (before after : Store) (name : String)
    (document : Json) : Prop :=
  ∃ table columns given rows,
    schema.table? name = some table ∧ ColumnCodec.ofTable table = .ok columns ∧
      Fixture.rowsOf columns name document = .ok given ∧
      Completes table now (before.rows name) given rows ∧
      after.rows name = before.rows name ++ rows

/-- Loading the tables of a fixture stopped at one of them, which failed.  The tables before it are
filled completely; it and the tables behind it, and those that the fixture does not name, are as
they were. -/
def StopsAt (schema : Schema) (now : Timestamp) (store : Store) (entries : JsonEntries)
    (fault : EngineError) (after : Store) : Prop :=
  ∃ earlier name document later,
    entries = earlier ++ (name, document) :: later ∧
      (∀ entry ∈ earlier, HoldsAllOf schema now store after entry.1 entry.2) ∧
      after.loadTable schema now name document = .error fault ∧
      (∀ entry ∈ (name, document) :: later, after.rows entry.1 = store.rows entry.1) ∧
      ∀ other, other ∉ entries.keys -> after.rows other = store.rows other

/-- What a table holds of a fixture depends only on its own rows. -/
theorem HoldsAllOf.of_same
    {before otherBefore otherAfter : Store}
    {name : String}
    {document : Json}
    (holds : HoldsAllOf schema now before after name document)
    (sameBefore : otherBefore.rows name = before.rows name)
    (sameAfter : otherAfter.rows name = after.rows name) :
    HoldsAllOf schema now otherBefore otherAfter name document := by
  rw [HoldsAllOf, sameBefore, sameAfter]
  exact holds

/-- If conflicts are errors, a statement inserts a row for each given one. -/
theorem completes_of_admitRows
    {stored pending inserted : List StoredRow}
    {given : List (List FieldValue)}
    (admitted : admitRows table now .error stored pending given = .ok inserted) :
    ∃ rows, inserted = pending ++ rows ∧ Completes table now (stored ++ pending) given rows := by
  induction given generalizing pending with
  | nil =>
      rw [admitRows] at admitted
      cases admitted
      exact ⟨[], (List.append_nil _).symm, .nil⟩
  | cons first given inductionHypothesis =>
      rw [admitRows, bind_eq_ok] at admitted
      obtain ⟨row, completed, rest⟩ := admitted
      split at rest
      · obtain ⟨rows, same, others⟩ := inductionHypothesis rest
        rw [← List.append_assoc] at others
        rw [List.append_assoc] at same
        exact ⟨row :: rows, same, .cons completed others⟩
      · contradiction
      · cases rest

theorem loadTable_eq_ok
    {name : String}
    {document : Json}
    {count : Nat}
    (loaded : store.loadTable schema now name document = .ok (count, after)) :
    HoldsAllOf schema now store after name document ∧
      ∀ other, other ≠ name -> after.rows other = store.rows other := by
  simp only [loadTable, insertRows, bind_eq_ok, pure_eq_ok, mapError_eq_ok, Prod.exists,
    Prod.mk.injEq] at loaded
  obtain ⟨table, isTable, columns, mapped, given, read, result, _, inserted, rfl, rfl⟩ := loaded
  have found : schema.table? name = some table := by
    rw [Schema.table] at isTable
    split at isTable
    · rename_i found
      cases isTable
      exact found
    · cases isTable
  obtain ⟨_, rows, foundAgain, admitted, _, rfl⟩ := insert_eq_ok.1 inserted
  rw [found] at foundAgain
  cases foundAgain
  obtain ⟨_, rfl, completes⟩ := completes_of_admitRows admitted
  rw [List.append_nil, Schema.name_of_table? found] at completes
  refine ⟨⟨table, columns, given, _, found, mapped, read, completes, ?_⟩, ?_⟩
  · rw [Schema.name_of_table? found, rows_setRows]
  · intro other different
    rw [Schema.name_of_table? found, rows_setRows_of_ne _ _ different]

/-- Tables that are filled without fail hold all that the fixture gives to them, and all other
tables are as they were. -/
theorem loadTables_eq_ok
    {entries : JsonEntries}
    {loaded count : Nat}
    (distinct : entries.keys.Nodup)
    (succeeded : store.loadTables schema now loaded entries = (.ok count, after)) :
    (∀ entry ∈ entries, HoldsAllOf schema now store after entry.1 entry.2) ∧
      ∀ other, other ∉ entries.keys -> after.rows other = store.rows other := by
  induction entries generalizing store loaded with
  | nil =>
      rw [loadTables] at succeeded
      cases succeeded
      exact ⟨by simp, fun _ _ => rfl⟩
  | cons entry entries inductionHypothesis =>
      obtain ⟨name, document⟩ := entry
      obtain ⟨notLater, distinctLater⟩ := List.nodup_cons.1 distinct
      rw [loadTables] at succeeded
      split at succeeded
      · rename_i filledCount filled loadedTable
        obtain ⟨holds, others⟩ := loadTable_eq_ok loadedTable
        obtain ⟨laterHold, laterOthers⟩ := inductionHypothesis distinctLater succeeded
        refine ⟨List.forall_mem_cons.2 ⟨?_, ?_⟩, ?_⟩
        · exact holds.of_same rfl (laterOthers name notLater)
        · intro later member
          have isLater : later.1 ∈ JsonEntries.keys entries := List.mem_map_of_mem member
          have different : later.1 ≠ name := fun same => notLater (same ▸ isLater)
          exact (laterHold later member).of_same (others later.1 different).symm rfl
        · intro other absent
          rw [JsonEntries.keys, List.map_cons, List.mem_cons, not_or] at absent
          rw [laterOthers other absent.2, others other absent.1]
      · cases succeeded

/-- Loading that fails has filled the tables before the first that cannot be filled. -/
theorem loadTables_eq_error
    {entries : JsonEntries}
    {loaded : Nat}
    {fault : EngineError}
    (failed : store.loadTables schema now loaded entries = (.error fault, after)) :
    ∃ earlier name document later count,
      entries = earlier ++ (name, document) :: later ∧
        store.loadTables schema now loaded earlier = (.ok count, after) ∧
        after.loadTable schema now name document = .error fault := by
  induction entries generalizing store loaded with
  | nil =>
      rw [loadTables] at failed
      cases failed
  | cons entry entries inductionHypothesis =>
      obtain ⟨name, document⟩ := entry
      rw [loadTables] at failed
      split at failed
      · rename_i filledCount filled loadedTable
        obtain ⟨earlier, failing, failingDocument, later, count, rfl, succeeded, failedThere⟩ :=
          inductionHypothesis failed
        refine ⟨(name, document) :: earlier, failing, failingDocument, later, count, rfl, ?_,
          failedThere⟩
        rw [loadTables, loadedTable]
        exact succeeded
      · rename_i failedHere
        cases failed
        exact ⟨[], name, document, entries, loaded, rfl, rfl, failedHere⟩

theorem stopsAt_of_load
    {entries : JsonEntries}
    {fault : EngineError}
    (distinct : entries.keys.Nodup)
    (failed : store.load schema now (.object entries) = (.error fault, after)) :
    StopsAt schema now store entries fault after := by
  obtain ⟨earlier, name, document, later, count, rfl, succeeded, failedThere⟩ :=
    loadTables_eq_error failed
  have apart : (earlier.keys ++ JsonEntries.keys ((name, document) :: later)).Nodup := by
    rw [JsonEntries.keys, JsonEntries.keys, ← List.map_append]
    exact distinct
  obtain ⟨earlierDistinct, _, disjoint⟩ := List.nodup_append.1 apart
  obtain ⟨hold, others⟩ := loadTables_eq_ok earlierDistinct succeeded
  refine ⟨earlier, name, document, later, rfl, hold, failedThere, ?_, ?_⟩
  · intro entry member
    refine others entry.1 fun inEarlier => ?_
    exact disjoint _ inEarlier _ (List.mem_map_of_mem member) rfl
  · intro other absent
    refine others other fun inEarlier => absent ?_
    rw [JsonEntries.keys, List.map_append]
    exact List.mem_append_left _ inEarlier

/-- Statements succeed or leave every table as it was, also when they are carried out in place, and
touch only the table that they name; loading a fixture does so table by table. -/
theorem statements_are_atomic
    (schema : Schema)
    (now : Timestamp)
    (store : Store) :
    (∀ mutation,
      AllOrNothing mutation store (store.apply schema now mutation) ∧
        AllOrNothing mutation store ((mutateInPlace schema now mutation).run store)) ∧
      ∀ (entries : JsonEntries) (fault : EngineError) (after : Store), entries.keys.Nodup ->
        store.load schema now (.object entries) = (.error fault, after) ->
          StopsAt schema now store entries fault after := by
  constructor
  · intro mutation
    have atOnce := allOrNothing_apply schema now mutation store
    obtain ⟨sameAnswer, sameRows⟩ := mutateInPlace_endsLike schema now mutation store
    refine ⟨atOnce, ?_, ?_⟩
    · intro fault failed name
      rw [sameRows, atOnce.unchanged_of_error fault (sameAnswer ▸ failed) name]
    · intro name different
      rw [sameRows, atOnce.others_unchanged name different]
  · intro entries fault after distinct failed
    exact stopsAt_of_load distinct failed

/-- An archive whose books are numbered from one on. -/
def archive : Schema :=
  let number : Column := { name := "id", kind := .integer 32 false, primaryKey := true }
  ((Schema.empty.withTable { name := "authors", columns := [number] }).withTable
    { name := "books", columns := [number] }).withTable { name := "covers", columns := [number] }

/-- A fixture for the archive, the second book of which has the number of the first one. -/
def twiceNumbered : JsonEntries :=
  [ ("authors", .array [.object [("id", .int 1)], .object [("id", .int 2)]]),
    ("books", .array [.object [("id", .int 7)], .object [("id", .int 7)]]),
    ("covers", .array [.object [("id", .int 7)]]) ]

/-- The authors are loaded, and neither the first book nor the cover is. -/
theorem statements_are_atomic_archive :
    ∃ fault after,
      Store.empty.load archive default (.object twiceNumbered) = (.error fault, after) ∧
        StopsAt archive default Store.empty twiceNumbered fault after ∧
        ["authors", "books", "covers"].map (fun name => (after.rows name).length) = [2, 0, 0] := by
  have lengths : ["authors", "books", "covers"].map (fun name =>
      ((Store.empty.load archive default (.object twiceNumbered)).2.rows name).length)
        = [2, 0, 0] := by
    decide +kernel
  have fails : (Store.empty.load archive default (.object twiceNumbered)).1.isOk = false := by
    decide +kernel
  rcases loaded : Store.empty.load archive default (.object twiceNumbered) with ⟨outcome, after⟩
  rw [loaded] at lengths fails
  cases outcome with
  | ok count => cases fails
  | error fault =>
      exact ⟨fault, after, rfl,
        (statements_are_atomic archive default Store.empty).2 twiceNumbered fault after
          (by decide) loaded, lengths⟩

end Store
end RelationalApi
