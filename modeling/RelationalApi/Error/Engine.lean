import RelationalApi.Error.Argument
import RelationalApi.Error.Execution
import RelationalApi.Error.Schema

/-!
# Engine errors

The errors of schemas, arguments and executions together, with the codes that clients see.
-/

namespace RelationalApi

/-- Any error of the engine. -/
inductive EngineError where
  | schema (error : SchemaError)
  | argument (error : ArgumentError)
  | execution (error : ExecutionError)

namespace EngineError

/-- The code in the extensions of a response error. -/
def code : EngineError → String
  | schema _ => "SCHEMA_ERROR"
  | argument _ => "ARGUMENT_ERROR"
  | execution _ => "EXECUTION_ERROR"

/-- The wording of the cause. -/
def causeMessage : EngineError → String
  | schema error => error.message
  | argument error => error.message
  | execution error => error.message

def message : EngineError → String
  | schema error => "schema error: " ++ error.message
  | argument error => "argument error: " ++ error.message
  | execution error => "execution error: " ++ error.message

end EngineError

instance : Coe SchemaError EngineError := ⟨.schema⟩
instance : Coe ArgumentError EngineError := ⟨.argument⟩
instance : Coe ExecutionError EngineError := ⟨.execution⟩

end RelationalApi
