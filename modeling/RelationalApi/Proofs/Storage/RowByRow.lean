import Mathlib.Algebra.Ring.Nat
import RelationalApi.Proofs.Storage.Constraints

/-!
# Inserts row by row

An insert completes each of its rows from the rows that are stored by then, those of the statement
included, and skips or refuses it by them.  It therefore does what inserts of single rows do, one
for each row, in their order.
-/

namespace RelationalApi

open Outcome

namespace MutationResult

/-- What two statements did, one after the other. -/
def followedBy (result next : MutationResult) : MutationResult where
  affected := result.affected + next.affected
  rows := do
    let rows ← result.rows
    let later ← next.rows
    return rows ++ later

/-- What several statements did. -/
def joined (results : List MutationResult) : MutationResult where
  affected := (results.map (·.affected)).sum
  rows := (results.mapM rows).map List.flatten

theorem joined_singleton (result : MutationResult) : joined [result] = result := by
  obtain ⟨affected, rows⟩ := result
  cases rows <;> simp [joined]

theorem joined_cons (result : MutationResult) (results : List MutationResult) :
    joined (result :: results) = result.followedBy (joined results) := by
  rw [joined, followedBy, List.map_cons, List.sum_cons, List.mapM_cons]
  cases result.rows with
  | none => rfl
  | some rows => cases later : results.mapM MutationResult.rows <;> simp [joined, later]

end MutationResult

namespace Store

variable {schema : Schema} {table : Table} {now : Timestamp} {store : Store}

theorem replaceRows_replaceRows
    (name : String)
    (rows last : List StoredRow)
    (tables : List (String × List StoredRow)) :
    replaceRows name last (replaceRows name rows tables) = replaceRows name last tables := by
  induction tables with
  | nil => simp [replaceRows]
  | cons entry tables inductionHypothesis =>
      rw [replaceRows]
      split <;> simp_all [replaceRows]

/-- Of two replacements of the rows of a table the last one counts. -/
theorem setRows_setRows (store : Store) (name : String) (rows last : List StoredRow) :
    (store.setRows name rows).setRows name last = store.setRows name last := by
  rw [setRows, setRows, setRows, replaceRows_replaceRows]

theorem answer_append (returning : Option (List String)) (inserted later : List StoredRow) :
    answer returning (inserted ++ later) =
      (answer returning inserted).followedBy (answer returning later) := by
  cases returning <;> simp [answer, MutationResult.followedBy]

theorem admitRows_append
    (action : ConflictAction)
    (stored pending : List StoredRow)
    (rows others : List (List FieldValue)) :
    admitRows table now action stored pending (rows ++ others) =
      admitRows table now action stored pending rows >>= fun admitted =>
        admitRows table now action stored admitted others := by
  induction rows generalizing pending with
  | nil => rfl
  | cons given rows inductionHypothesis =>
      rw [List.cons_append, admitRows, admitRows, bind_assoc]
      refine bind_congr fun row => ?_
      split
      · exact inductionHypothesis (pending ++ [row])
      · exact inductionHypothesis pending
      · rfl

/-- To later rows of a statement its earlier ones are like stored ones. -/
theorem admitRows_pending
    (action : ConflictAction)
    (stored pending : List StoredRow)
    (rows : List (List FieldValue)) :
    admitRows table now action stored pending rows =
      (admitRows table now action (stored ++ pending) [] rows).map (pending ++ ·) := by
  induction rows generalizing stored pending with
  | nil => simp [admitRows, Except.map]
  | cons given rows inductionHypothesis =>
      rw [admitRows, admitRows, List.append_nil]
      cases completeRow table now (stored ++ pending) given with
      | error fault => rfl
      | ok row =>
          dsimp only [bind, Except.bind]
          cases conflict? table row (stored ++ pending) with
          | none =>
              dsimp only
              rw [inductionHypothesis, inductionHypothesis (stored ++ pending), List.nil_append,
                List.append_assoc]
              cases admitRows table now action (stored ++ (pending ++ [row])) [] rows <;>
                simp [Except.map]
          | some column =>
              cases action with
              | doNothing => exact inductionHypothesis stored pending
              | error => rfl

/-- An insert does what an insert of its first row does, followed by an insert of the others. -/
theorem insert_cons
    (statement : InsertStatement)
    (given : List FieldValue)
    (rows : List (List FieldValue)) :
    store.insert schema now { statement with rows := given :: rows } = do
      let (result, changed) ← store.insert schema now { statement with rows := [given] }
      let (next, final) ← changed.insert schema now { statement with rows := rows }
      return (result.followedBy next, final) := by
  rw [insert, insert]
  cases found : target schema statement.table with
  | error fault => rfl
  | ok table =>
      dsimp only [bind, Except.bind]
      rw [← List.singleton_append, admitRows_append]
      cases admitRows table now statement.onConflict (store.rows table.name) [] [given] with
      | error fault => rfl
      | ok inserted =>
          dsimp only [bind, Except.bind, pure, Except.pure]
          rw [insert, found, admitRows_pending]
          dsimp only [bind, Except.bind]
          rw [rows_setRows]
          cases admitRows table now statement.onConflict (store.rows table.name ++ inserted) []
              rows with
          | error fault => rfl
          | ok later =>
              dsimp only [Except.map, pure, Except.pure]
              rw [answer_append, setRows_setRows, List.append_assoc]

/-- Inserts the given rows one after another, each by a statement of its own that is otherwise the
given one. -/
def insertEach (schema : Schema) (now : Timestamp) (statement : InsertStatement) :
    List (List FieldValue) -> Store -> Except ExecutionError (List MutationResult × Store)
  | [], store => .ok ([], store)
  | given :: rows, store => do
    let (result, changed) ← store.insert schema now { statement with rows := [given] }
    let (results, final) ← changed.insertEach schema now statement rows
    return (result :: results, final)

/-- An insert of rows succeeds exactly where inserts of its rows one by one all do, and then it
tells what they tell together and leaves the store as they do. -/
theorem insert_eq_insertEach
    (schema : Schema)
    (now : Timestamp)
    (statement : InsertStatement)
    (store : Store)
    (nonEmpty : statement.rows ≠ []) :
    store.insert schema now statement = do
      let (results, final) ← store.insertEach schema now statement statement.rows
      return (.joined results, final) := by
  have general : ∀ rows ≠ [], ∀ store : Store,
      store.insert schema now { statement with rows := rows } = do
        let (results, final) ← store.insertEach schema now statement rows
        return (.joined results, final) := by
    intro rows isNonEmpty
    induction rows with
    | nil => exact absurd rfl isNonEmpty
    | cons given rows inductionHypothesis =>
        intro store
        rw [insertEach, bind_assoc]
        cases rows with
        | nil =>
            cases inserted : store.insert schema now { statement with rows := [given] } with
            | error fault => rfl
            | ok done =>
                change .ok done = Except.ok (MutationResult.joined [done.1], done.2)
                rw [MutationResult.joined_singleton]
        | cons second rows =>
            rw [insert_cons]
            refine bind_congr fun ⟨result, changed⟩ => ?_
            dsimp only
            rw [inductionHypothesis (List.cons_ne_nil _ _)]
            cases insertEach schema now statement (second :: rows) changed with
            | error fault => rfl
            | ok others =>
                change Except.ok (result.followedBy (.joined others.1), others.2) =
                  .ok (.joined (result :: others.1), others.2)
                rw [MutationResult.joined_cons]
  exact general statement.rows nonEmpty store

/-- Two accounts of one address and one of another. -/
def newAccounts : InsertStatement where
  table := "accounts"
  rows := [[⟨"address", .string "a"⟩], [⟨"address", .string "a"⟩], [⟨"address", .string "b"⟩]]
  returning := some ["id"]

theorem insert_newAccounts :
    newAccounts.rows ≠ [] ∧
      ((empty.insert (Schema.empty.withTable accounts) default newAccounts).toOption.map
        (·.1.affected)) = some 2 ∧
      empty.insert (Schema.empty.withTable accounts) default newAccounts = do
        let (results, final) ←
          empty.insertEach (Schema.empty.withTable accounts) default newAccounts newAccounts.rows
        return (.joined results, final) :=
  ⟨nofun, rfl, insert_eq_insertEach _ _ newAccounts empty nofun⟩

end Store
end RelationalApi
