import RelationalApi.Storage.Store

/-!
# Executors

An executor carries out requests in a monad of its own, so the engine does not depend on where rows
are kept.  A store in memory is the state of one executor.
-/

namespace RelationalApi

/-- What carries out selects and mutations. -/
structure Executor (m : Type → Type) where
  select : SelectQuery → m (Except ExecutionError (List Row))
  mutate : Mutation → m (Except ExecutionError MutationResult)

namespace Store

/-- Carries out a mutation; the store stays as it was if the mutation fails. -/
def apply (schema : Schema) (now : Timestamp) (mutation : Mutation) (store : Store) :
    Except ExecutionError MutationResult × Store :=
  match store.mutate schema now mutation with
  | .ok (result, changed) => (.ok result, changed)
  | .error error => (.error error, store)

/-- The executor whose state is a store. -/
def executor (schema : Schema) (now : Timestamp) : Executor (StateM Store) where
  select query := fun store => (store.select schema query, store)
  mutate mutation := fun store => store.apply schema now mutation

end Store
end RelationalApi
