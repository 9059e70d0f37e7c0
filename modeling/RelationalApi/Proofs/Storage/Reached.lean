import RelationalApi.Proofs.Storage.Statements
import RelationalApi.Storage.Executor

/-!
# Reached stores

Every way to use a store comes down to statements that succeed, one after another.  A store is
reached when such statements lead to it from the empty store; what is kept by each statement
therefore holds of every reached store.
-/

namespace RelationalApi

open Outcome

/-- The columns of the affected rows that a statement asks for, if it asks for rows. -/
def Mutation.returning : Mutation -> Option (List String)
  | insert statement => statement.returning
  | update statement => statement.returning
  | delete statement => statement.returning

namespace Store

/-- A store to which successful statements lead from the empty store, all of which are allowed. -/
inductive Reached (schema : Schema) (allowed : Mutation -> Prop) : Store -> Prop
  | empty : Reached schema allowed Store.empty
  | mutate
      {store changed : Store}
      {now : Timestamp}
      {mutation : Mutation}
      {result : MutationResult}
      (reached : Reached schema allowed store)
      (isAllowed : allowed mutation)
      (mutated : store.mutate schema now mutation = .ok (result, changed)) :
      Reached schema allowed changed

variable {schema : Schema} {table : Table} {now : Timestamp} {store changed : Store}
variable {mutation : Mutation} {result : MutationResult} {allowed : Mutation -> Prop}

/-- Where all statements that were allowed are still allowed, a reached store stays reached. -/
theorem Reached.mono
    {weaker : Mutation -> Prop}
    (reached : Reached schema allowed store)
    (weakens : ∀ mutation, allowed mutation -> weaker mutation) :
    Reached schema weaker store := by
  induction reached with
  | empty => exact .empty
  | mutate _ isAllowed mutated inductionHypothesis =>
      exact .mutate inductionHypothesis (weakens _ isAllowed) mutated

/-- A statement leaves the rows of tables of other names as they are. -/
theorem rows_mutate_of_ne
    {name : String}
    (mutated : store.mutate schema now mutation = .ok (result, changed))
    (different : name ≠ mutation.table) :
    changed.rows name = store.rows name := by
  cases mutation with
  | insert statement =>
      obtain ⟨table, inserted, found, _, _, rfl⟩ := insert_eq_ok.1 mutated
      refine rows_setRows_of_ne store _ ?_
      rw [Schema.name_of_table? found]
      exact different
  | update statement =>
      obtain ⟨table, found, _, _, _, _, rfl⟩ := update_eq_ok.1 mutated
      refine rows_setRows_of_ne store _ ?_
      rw [Schema.name_of_table? found]
      exact different
  | delete statement =>
      obtain ⟨table, found, _, rfl⟩ := delete_eq_ok.1 mutated
      refine rows_setRows_of_ne store _ ?_
      rw [Schema.name_of_table? found]
      exact different

/-- The rows of the named table after a statement. -/
inductive RowsChange (table : Table) (now : Timestamp) (before : List StoredRow) :
    Mutation -> List StoredRow -> Prop
  | insert
      {statement : InsertStatement}
      {inserted : List StoredRow}
      (admitted : admitRows table now statement.onConflict before [] statement.rows
        = .ok inserted) :
      RowsChange table now before (.insert statement) (before ++ inserted)
  | update
      {statement : UpdateStatement}
      (known : checkColumns table (statement.assignments.map (·.field)) = .ok ())
      (notNull : ∀ row ∈ affectedRows statement before, checkNotNull table row = .ok ())
      (apart : checkConflicts table [] (updateMatched statement before) = .ok ()) :
      RowsChange table now before (.update statement) ((updateMatched statement before).map (·.2))
  | delete {statement : DeleteStatement} :
      RowsChange table now before (.delete statement)
        (before.filter (!Filter.accepts statement.filter ·))

/-- A statement that succeeds is one for a table of the schema, whose rows it changes. -/
theorem rowsChange_of_mutate
    (mutated : store.mutate schema now mutation = .ok (result, changed)) :
    ∃ table, schema.table? mutation.table = some table ∧
      RowsChange table now (store.rows table.name) mutation (changed.rows table.name) := by
  cases mutation with
  | insert statement =>
      obtain ⟨table, inserted, found, admitted, _, rfl⟩ := insert_eq_ok.1 mutated
      refine ⟨table, found, ?_⟩
      rw [rows_setRows]
      exact .insert admitted
  | update statement =>
      obtain ⟨table, found, known, notNull, apart, _, rfl⟩ := update_eq_ok.1 mutated
      refine ⟨table, found, ?_⟩
      rw [rows_setRows]
      exact .update known notNull apart
  | delete statement =>
      obtain ⟨table, found, _, rfl⟩ := delete_eq_ok.1 mutated
      refine ⟨table, found, ?_⟩
      rw [rows_setRows]
      exact .delete

/-- The rows of a table of the schema stay as they are, or change as the statement says. -/
theorem rows_mutate
    (member : table ∈ schema.tables)
    (mutated : store.mutate schema now mutation = .ok (result, changed)) :
    changed.rows table.name = store.rows table.name ∨
      schema.table? mutation.table = some table ∧
        RowsChange table now (store.rows table.name) mutation (changed.rows table.name) := by
  obtain ⟨target, found, change⟩ := rowsChange_of_mutate mutated
  by_cases sameName : table.name = mutation.table
  · have same : table = target :=
      Schema.eq_of_name_eq member (Schema.mem_of_table? found)
        (sameName.trans (Schema.name_of_table? found).symm)
    subst same
    exact .inr ⟨found, change⟩
  · exact .inl (rows_mutate_of_ne mutated sameName)

/-- The affected rows that a statement answers stood in the named table before or stand there
after. -/
theorem answer_of_mutate
    (mutated : store.mutate schema now mutation = .ok (result, changed)) :
    ∃ table affected, schema.table? mutation.table = some table ∧
      answer mutation.returning affected = result ∧
      ∀ row ∈ affected, row ∈ store.rows table.name ∨ row ∈ changed.rows table.name := by
  cases mutation with
  | insert statement =>
      obtain ⟨table, inserted, found, _, answered, rfl⟩ := insert_eq_ok.1 mutated
      refine ⟨table, inserted, found, answered, ?_⟩
      intro row member
      rw [rows_setRows]
      exact .inr (List.mem_append_right _ member)
  | update statement =>
      obtain ⟨table, found, _, _, _, answered, rfl⟩ := update_eq_ok.1 mutated
      refine ⟨table, _, found, answered, ?_⟩
      intro row member
      obtain ⟨entry, entryMember, rfl⟩ := List.mem_map.1 member
      rw [rows_setRows]
      exact .inr (List.mem_map_of_mem (List.mem_of_mem_filter entryMember))
  | delete statement =>
      obtain ⟨table, found, answered, rfl⟩ := delete_eq_ok.1 mutated
      refine ⟨table, _, found, answered, ?_⟩
      intro row member
      exact .inl (List.mem_of_mem_filter member)

/-- What holds of every inserted row and is kept by every update holds of every row of a reached
store. -/
theorem Reached.forall_rows
    (good : Table -> StoredRow -> Prop)
    (inserted : ∀ statement table now rows given row, allowed (.insert statement) ->
      schema.table? statement.table = some table -> given ∈ statement.rows ->
        completeRow table now rows given = .ok row -> good table row)
    (updated : ∀ statement table row, allowed (.update statement) ->
      schema.table? statement.table = some table -> good table row ->
        checkColumns table (statement.assignments.map (·.field)) = .ok () ->
          checkNotNull table (statement.assignments.foldl assign row) = .ok () ->
            good table (statement.assignments.foldl assign row))
    (reached : Reached schema allowed store)
    (member : table ∈ schema.tables) :
    ∀ row ∈ store.rows table.name, good table row := by
  induction reached with
  | empty => intro row rowMember; simp [Store.rows, Store.empty] at rowMember
  | @mutate store changed now mutation result _ isAllowed mutated inductionHypothesis =>
      rcases rows_mutate member mutated with same | ⟨found, change⟩
      · rw [same]
        exact inductionHypothesis
      · generalize changed.rows table.name = after at change
        cases change with
        | @insert statement added admitted =>
            have addedGood : ∀ row ∈ added, good table row := by
              refine admitRows_induction (fun pending => ∀ row ∈ pending, good table row)
                (by simp) ?_ admitted
              intro pending row given givenMember pendingGood completed _
              refine List.forall_mem_append.2 ⟨pendingGood, ?_⟩
              exact List.forall_mem_singleton.2
                (inserted statement table now _ given row isAllowed found givenMember completed)
            exact List.forall_mem_append.2 ⟨inductionHypothesis, addedGood⟩
        | @update statement known notNull apart =>
            intro row rowMember
            simp only [updateMatched, List.map_map, List.mem_map, Function.comp_apply] at rowMember
            obtain ⟨before, beforeMember, rfl⟩ := rowMember
            split
            · rename_i matched
              refine updated statement table before isAllowed found
                (inductionHypothesis before beforeMember) known (notNull _ ?_)
              simp only [affectedRows, updateMatched, List.mem_map, List.mem_filter]
              exact ⟨_, ⟨⟨before, beforeMember, by rw [if_pos matched]⟩, rfl⟩, rfl⟩
            · exact inductionHypothesis before beforeMember
        | delete =>
            intro row rowMember
            exact inductionHypothesis row (List.mem_of_mem_filter rowMember)

/-- A mutation that is carried out leads to a reached store, whether or not it succeeds. -/
theorem Reached.apply
    (reached : Reached schema allowed store)
    (isAllowed : allowed mutation) :
    Reached schema allowed (store.apply schema now mutation).2 := by
  rw [Store.apply]
  cases mutated : store.mutate schema now mutation with
  | error fault => exact reached
  | ok outcome => exact .mutate reached isAllowed mutated

end Store
end RelationalApi
