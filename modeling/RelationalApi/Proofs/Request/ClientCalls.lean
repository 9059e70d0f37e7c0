import RelationalApi.Proofs.Answer.Items
import RelationalApi.Proofs.Request.Mutations
import RelationalApi.Request.Execution

/-!
# Calls of clients

Clients load fixtures and ask for operations.  Whatever they do comes down to statements which give
rows only values that the columns of their tables have read.  An operation changes rows only by a
mutation that succeeds, so it can fail after that only where its answer cannot be made.

An operation on a store succeeds when it compiles, its one request succeeds, and an answer is made
from what the request returns.  A select keeps the store.
-/

namespace RelationalApi

open Outcome

/-- A call of a client that may change a store. -/
inductive ClientCall where
  | load (fixture : Json)
  | operate (name : String) (arguments : JsonEntries) (selection : Selection)

/-- The document that a call carries is well-formed. -/
def ClientCall.WellFormed : ClientCall -> Prop
  | load fixture => fixture.isWellFormed = true
  | operate _ arguments _ => (Json.object arguments).isWellFormed = true

namespace Interface

variable {interface : Interface} {schema : Schema} {config : EngineConfig} {now : Timestamp}
variable {store : Store} {name : String} {arguments : JsonEntries} {selection : Selection}

/-- Asks for an operation on a store of the schema that the interface is derived from. -/
def executeOn (interface : Interface) (now : Timestamp) (name : String) (arguments : JsonEntries)
    (selection : Selection) (store : Store) : Except EngineError Json × Store :=
  interface.execute (Store.executor interface.schema now) name arguments selection store

/-- The store after a call, whether or not it succeeds. -/
def afterCall (interface : Interface) (store : Store) : Timestamp × ClientCall -> Store
  | (now, .load fixture) => (store.load interface.schema now fixture).2
  | (now, .operate name arguments selection) =>
      (interface.executeOn now name arguments selection store).2

/-- The store after a sequence of calls, each made at a time of its own, on the empty store. -/
def afterCalls (interface : Interface) (calls : List (Timestamp × ClientCall)) : Store :=
  calls.foldl interface.afterCall Store.empty

/-- What became of an operation that was asked for. -/
inductive Executed (interface : Interface) (now : Timestamp) (name : String)
    (arguments : JsonEntries) (selection : Selection) (store : Store) :
    Except EngineError Json -> Store -> Prop
  /-- Nothing was changed. -/
  | unchanged {answer : Except EngineError Json} :
      Executed interface now name arguments selection store answer store
  /-- A mutation succeeded and was answered, or could not be answered. -/
  | mutated
      {compiled : CompiledOperation}
      {mutation : Mutation}
      {result : MutationResult}
      {changed : Store}
      (compiles : interface.compile name arguments selection = .ok compiled)
      (requested : compiled.request = .mutate mutation)
      (succeeded : store.mutate interface.schema now mutation = .ok (result, changed)) :
      Executed interface now name arguments selection store
        ((compiled.response.ofResult interface compiled.operation.name result).mapError
          EngineError.execution) changed

theorem executed
    (interface : Interface)
    (now : Timestamp)
    (name : String)
    (arguments : JsonEntries)
    (selection : Selection)
    (store : Store) :
    interface.Executed now name arguments selection store
      (interface.executeOn now name arguments selection store).1
      (interface.executeOn now name arguments selection store).2 := by
  rw [executeOn, execute]
  cases compiles : interface.compile name arguments selection with
  | error fault => exact .unchanged
  | ok compiled =>
      dsimp only [run]
      cases requested : compiled.request with
      | select query => exact .unchanged
      | mutate mutation =>
          simp only [Store.executor, Store.apply, bind, StateT.bind, pure, StateT.pure]
          cases succeeded : store.mutate interface.schema now mutation with
          | error fault => exact .unchanged
          | ok outcome => exact .mutated compiles requested succeeded

/-- The types of the table that a compiled mutation changes. -/
theorem Represents.types_of_table
    (represents : interface.Represents schema config)
    {types : TableTypes}
    {table : Table}
    (found : interface.table? name = some types)
    (named : schema.table? types.name = some table) :
    TableTypes.ofTable table = .ok types := by
  obtain ⟨other, foundOther, mapped⟩ := represents.table?_eq_some.1 found
  rw [TableTypes.name_ofTable mapped, Schema.table?_name (Schema.mem_of_table? foundOther)] at named
  cases named
  exact mapped

/-- A compiled mutation gives only values which were read for its table. -/
theorem Represents.read_of_compile
    (represents : interface.Represents schema config)
    {compiled : CompiledOperation}
    {mutation : Mutation}
    (wellFormed : (Json.object arguments).isWellFormed = true)
    (compiles : interface.compile name arguments selection = .ok compiled)
    (requested : compiled.request = .mutate mutation) :
    mutation.Read schema := by
  obtain ⟨types, found, sameName, read, _⟩ := compile_mutate compiles requested
  intro table otherTypes named mapped
  rw [sameName] at named
  have sameTypes := represents.types_of_table found named
  rw [mapped] at sameTypes
  cases sameTypes
  exact read (entriesWellFormed_of_object wellFormed)

/-- A call of a client comes down to statements whose values were read for their tables. -/
theorem Represents.reached_afterCall
    (represents : interface.Represents schema config)
    {call : Timestamp × ClientCall}
    (wellFormed : call.2.WellFormed)
    (reached : Store.Reached schema (Mutation.Read schema) store) :
    Store.Reached schema (Mutation.Read schema) (interface.afterCall store call) := by
  obtain ⟨now, call⟩ := call
  cases call with
  | load fixture =>
      rw [afterCall, represents.schema_eq]
      refine reached.load ?_
      intro entries name document table columns rows same member found mapped read
      rw [ClientCall.WellFormed, same] at wellFormed
      intro named types foundNamed mappedNamed
      change schema.table? name = some named at foundNamed
      rw [found] at foundNamed
      cases foundNamed
      have sameColumns := (TableTypes.ofTable_eq_ok mappedNamed).2.1
      rw [mapped] at sameColumns
      cases sameColumns
      exact Fixture.rowsOf_readBy (entriesWellFormed_of_object wellFormed _ member) read
  | operate name arguments selection =>
      rw [afterCall]
      have outcome := interface.executed now name arguments selection store
      generalize (interface.executeOn now name arguments selection store).1 = answer at outcome
      generalize (interface.executeOn now name arguments selection store).2 = changed at outcome ⊢
      cases outcome with
      | unchanged => exact reached
      | mutated compiles requested succeeded =>
          rw [represents.schema_eq] at succeeded
          exact .mutate reached (represents.read_of_compile wellFormed compiles requested) succeeded

theorem Represents.showsDefaults_of_all
    (represents : interface.Represents schema config)
    (shows : ∀ types ∈ interface.tables, types.showsDefaults = true) :
    ∀ table ∈ schema.tables, ∀ types, TableTypes.ofTable table = .ok types ->
      types.showsDefaults = true := by
  intro table member types mapped
  obtain ⟨other, otherMember, mappedOther, _⟩ := represents.exists_table? member
  rw [mapped] at mappedOther
  cases mappedOther
  exact shows types otherMember

theorem Represents.reached_afterCalls
    (represents : interface.Represents schema config)
    {calls : List (Timestamp × ClientCall)}
    (wellFormed : ∀ call ∈ calls, call.2.WellFormed) :
    Store.Reached schema (Mutation.Read schema) (interface.afterCalls calls) := by
  apply List.foldlRecOn
  · exact .empty
  · intro store reached call member
    exact represents.reached_afterCall (wellFormed call member) reached

/-- An answer is made without fail where it only says that the operation succeeded, and where the
columns of the table show all rows that the operation affected. -/
theorem ofResult_answer
    {operation : Operation}
    {returning : Option (List String)}
    {response : ResponsePlan}
    {types : TableTypes}
    {affected : List StoredRow}
    (found : interface.table? operation.table = some types)
    (answers : interface.Answers operation selection returning response)
    (shown : interface.config.mutationResponse = .success ∨ ∀ row ∈ affected, types.Shows row) :
    ∃ answer, response.ofResult interface operation.name (Store.answer returning affected)
      = .ok answer := by
  cases answers with
  | success => exact ⟨_, rfl⟩
  | @returning plan response configured pruned form =>
      have rowsShown : ∀ row ∈ affected, types.Shows row := by
        refine shown.resolve_left ?_
        rw [configured]
        exact MutationResponse.noConfusion
      have flat := pruneItem_flat found pruned
      rw [← name_of_table? found] at found
      split at form <;> subst form
      · change ∃ answer, fillFirst interface plan.output (affected.map _) = .ok answer
        cases affected with
        | nil => exact ⟨_, rfl⟩
        | cons row affected =>
            exact fillObject_project found flat (rowsShown row List.mem_cons_self)
      · change ∃ answer, fillRows interface plan.output (affected.map _) = .ok answer
        obtain ⟨objects, filled⟩ := @exists_mapM_eq_ok _ _ _ (fillObject interface plan.output)
          (affected.map fun row => ⟨Store.project plan.columns row, []⟩) (by
            intro row member
            obtain ⟨stored, storedMember, rfl⟩ := List.mem_map.1 member
            exact fillObject_project found flat (rowsShown stored storedMember))
        exact ⟨.array objects, by rw [fillRows, filled]; rfl⟩

/-- Where answers only say that an operation succeeded, or all columns show their defaults, an
operation that fails leaves a reached store as it was. -/
theorem Represents.unchanged_of_failure
    (represents : interface.Represents schema config)
    (shows : config.mutationResponse = .success ∨
      ∀ types ∈ interface.tables, types.showsDefaults = true)
    (reached : Store.Reached schema (Mutation.Read schema) store)
    (wellFormed : (Json.object arguments).isWellFormed = true)
    {fault : EngineError}
    {changed : Store}
    (failed : interface.executeOn now name arguments selection store = (.error fault, changed)) :
    changed = store := by
  have outcome := interface.executed now name arguments selection store
  rw [failed] at outcome
  generalize same : Except.error fault = answer at outcome
  cases outcome with
  | unchanged => rfl
  | @mutated compiled mutation result changed compiles requested succeeded =>
      obtain ⟨types, found, sameName, _, answers⟩ := compile_mutate compiles requested
      rw [represents.schema_eq] at succeeded
      obtain ⟨table, affected, named, answered, stood⟩ := Store.answer_of_mutate succeeded
      rw [sameName] at named
      have mapped := represents.types_of_table found named
      have shown : interface.config.mutationResponse = .success ∨
          ∀ row ∈ affected, types.Shows row := by
        rw [represents.config_eq]
        refine shows.imp_right ?_
        intro allShow row member
        have tableMember := Schema.mem_of_table? named
        have defaults := represents.showsDefaults_of_all allShow
        have reachedAfter : Store.Reached schema (Mutation.Read schema) changed :=
          .mutate reached (represents.read_of_compile wellFormed compiles requested) succeeded
        rcases stood row member with before | after
        · exact reached.shows defaults tableMember mapped row before
        · exact reachedAfter.shows defaults tableMember mapped row after
      obtain ⟨answer, made⟩ := ofResult_answer found answers shown
      rw [← answered, made] at same
      cases same

end Interface

/-! ## Operations that succeed -/

namespace Interface

variable {interface : Interface} {storage : Schema} {now : Timestamp} {store changed : Store}
variable {name : String} {arguments : JsonEntries} {selection : Selection} {answer : Json}
variable {compiled : CompiledOperation}

theorem execute_eq_ok :
    interface.execute (Store.executor storage now) name arguments selection store
        = (.ok answer, changed) ↔
      ∃ compiled, interface.compile name arguments selection = .ok compiled ∧
        interface.run (Store.executor storage now) compiled store = (.ok answer, changed) := by
  rw [execute]
  cases interface.compile name arguments selection with
  | error fault =>
      change (Except.error (EngineError.argument fault), store) = (Except.ok answer, changed) ↔ _
      simp
  | ok compiled =>
      have unfolded : (do
          let made ← interface.run (Store.executor storage now) compiled
          return made.mapError EngineError.execution) store =
          ((interface.run (Store.executor storage now) compiled store).1.mapError
            EngineError.execution,
          (interface.run (Store.executor storage now) compiled store).2) := rfl
      simp only [Except.ok.injEq, exists_eq_left', unfolded]
      rw [Prod.mk.injEq, mapError_eq_ok, Prod.ext_iff]

theorem run_select
    {query : SelectQuery}
    (requested : compiled.request = .select query) :
    interface.run (Store.executor storage now) compiled store = (.ok answer, changed) ↔
      store = changed ∧ ∃ rows, store.select storage query = .ok rows ∧
        compiled.response.ofRows interface rows = .ok answer := by
  rw [run, requested, and_comm]
  change (((store.select storage query).bind fun rows =>
    compiled.response.ofRows interface rows), store) = (.ok answer, changed) ↔ _
  rw [Prod.mk.injEq]
  exact and_congr_left fun _ => bind_eq_ok

theorem run_mutate
    {mutation : Mutation}
    (requested : compiled.request = .mutate mutation) :
    interface.run (Store.executor storage now) compiled store = (.ok answer, changed) ↔
      ∃ result, store.mutate storage now mutation = .ok (result, changed) ∧
        compiled.response.ofResult interface compiled.operation.name result = .ok answer := by
  rw [run, requested]
  change ((store.apply storage now mutation).1.bind fun result =>
      compiled.response.ofResult interface compiled.operation.name result,
    (store.apply storage now mutation).2) = (Except.ok answer, changed) ↔ _
  rw [Store.apply, Prod.mk.injEq]
  cases store.mutate storage now mutation with
  | error fault => simp [Except.bind]
  | ok outcome =>
      obtain ⟨result, after⟩ := outcome
      simp only [Except.bind, Except.ok.injEq, Prod.mk.injEq]
      constructor
      · rintro ⟨answered, rfl⟩
        exact ⟨result, ⟨rfl, rfl⟩, answered⟩
      · rintro ⟨_, ⟨rfl, rfl⟩, answered⟩
        exact ⟨answered, rfl⟩

end Interface
end RelationalApi
