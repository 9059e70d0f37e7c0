import RelationalApi.Answer.Filling
import RelationalApi.Error.Engine
import RelationalApi.Request.Compilation
import RelationalApi.Storage.Executor

/-!
# Execution of operations

A compiled operation asks its executor once, and the answer is laid out as planned.  An operation
that does not compile does not reach the executor.
-/

namespace RelationalApi
namespace ResponsePlan

/-- The answer for selected rows. -/
def ofRows (interface : Interface) (rows : List Row) :
    ResponsePlan → Except ExecutionError Json
  | list plan => fillRows interface plan.output rows
  | single plan => fillFirst interface plan.output rows
  | success output => .ok (fillSuccess output)

/-- The answer for the result of a mutation, which must have rows where the plan shows rows. -/
def ofResult (interface : Interface) (operation : String) (result : MutationResult) :
    ResponsePlan → Except ExecutionError Json
  | success output => .ok (fillSuccess output)
  | plan =>
    match result.rows with
    | some rows => plan.ofRows interface rows
    | none => .error (.rowsNotReturned operation)

end ResponsePlan

namespace Interface

variable {m : Type → Type} [Monad m]

/-- Carries out a compiled operation. -/
def run (interface : Interface) (executor : Executor m) (compiled : CompiledOperation) :
    m (Except ExecutionError Json) :=
  match compiled.request with
  | .select query => do
    let rows ← executor.select query
    return rows.bind fun rows => compiled.response.ofRows interface rows
  | .mutate mutation => do
    let result ← executor.mutate mutation
    return result.bind fun result =>
      compiled.response.ofResult interface compiled.operation.name result

/-- Compiles an operation and carries it out. -/
def execute (interface : Interface) (executor : Executor m) (name : String)
    (arguments : JsonEntries) (selection : Selection) : m (Except EngineError Json) :=
  match interface.compile name arguments selection with
  | .error error => return .error (.argument error)
  | .ok compiled => do
    let answer ← interface.run executor compiled
    return answer.mapError EngineError.execution

end Interface
end RelationalApi
