import RelationalApi.Error.Schema
import RelationalApi.Json.Fields
import RelationalApi.Json.Record
import RelationalApi.Text.Case

/-!
# Engine configuration

The configuration says how deep relations are followed, what mutations answer, and what happens to
inserted rows that conflict with stored ones.  Presets exist for the dialects of storage systems.
-/

namespace RelationalApi

/-- What mutations answer. -/
inductive MutationResponse where
  /-- The affected rows. -/
  | returning
  /-- Only that the mutation succeeded. -/
  | success
  deriving Repr, DecidableEq, Inhabited

/-- What happens to an inserted row that conflicts with a stored one. -/
inductive ConflictPolicy where
  /-- The row is left out. -/
  | skip
  /-- The insert fails. -/
  | error
  deriving Repr, DecidableEq, Inhabited

/-- Storage dialects with presets. -/
inductive Dialect where
  | postgres
  | sqlite
  | mysql
  deriving Repr, DecidableEq

namespace Dialect

/-- What mutations can answer in a dialect. -/
def mutationResponse : Dialect → MutationResponse
  | postgres => .returning
  | sqlite => .returning
  | mysql => .success

/-- The dialect of a name without regard to ASCII case, or the lower case name that is unknown. -/
def ofName (name : String) : Except String Dialect :=
  match Text.lowercaseAscii name with
  | "postgres" => .ok postgres
  | "postgresql" => .ok postgres
  | "pg" => .ok postgres
  | "sqlite" => .ok sqlite
  | "mysql" => .ok mysql
  | other => .error other

/-- The message for a name that is no dialect. -/
def unknownMessage (name : String) : String :=
  "unknown dialect '" ++ name ++ "'"

end Dialect

/-- The settings of an engine. -/
structure EngineConfig where
  /-- The most relations followed one after another; without a limit only cycles end the
  descent. -/
  depthLimit : Option Nat := none
  mutationResponse : MutationResponse := .returning
  conflictPolicy : ConflictPolicy := .skip
  tablePolicies : List (String × ConflictPolicy) := []
  deriving Repr, DecidableEq, Inhabited

namespace EngineConfig

/-- The preset of a dialect. -/
def ofDialect (dialect : Dialect) : EngineConfig :=
  { mutationResponse := dialect.mutationResponse }

/-- Sets the policy of one table. -/
def withTablePolicy (config : EngineConfig) (table : String) (policy : ConflictPolicy) :
    EngineConfig :=
  { config with tablePolicies := (table, policy) :: config.tablePolicies }

/-- The policy for a table: its own, or else the general one. -/
def policyFor (config : EngineConfig) (table : String) : ConflictPolicy :=
  (config.tablePolicies.lookup table).getD config.conflictPolicy

end EngineConfig

namespace MutationResponse

def word : MutationResponse → String
  | returning => "returning"
  | success => "success"

def ofWord? : String → Option MutationResponse
  | "returning" => some returning
  | "success" => some success
  | _ => none

end MutationResponse

namespace ConflictPolicy

def word : ConflictPolicy → String
  | skip => "skip"
  | error => "error"

def ofWord? : String → Option ConflictPolicy
  | "skip" => some skip
  | "error" => some error
  | _ => none

/-- The policy that a document is. -/
def ofJson? (document : Json) : Option ConflictPolicy :=
  (document.word? Json.isNull).bind ofWord?

end ConflictPolicy

namespace EngineConfig

/-- The policies of an object from tables to policies; of a repeated table the last one. -/
def policies? : Json → Option (List (String × ConflictPolicy))
  | .object entries => do
    let policies ← entries.mapM fun (table, document) => do
      let policy ← ConflictPolicy.ofJson? document
      return (table, policy)
    return policies.reverse
  | _ => none

/-- The names of the settings in documents. -/
def fieldNames : List String :=
  ["relationsDepthLimit", "mutationResponse", "conflictPolicy", "tableConflictPolicies"]

/-- The configuration that a document is. -/
def ofJson? (document : Json) : Option EngineConfig := do
  let fields ← document.fields? fieldNames
  match fields with
  | [limit, response, policy, policies] =>
    let depthLimit ← Json.absent? Json.nat? limit
    let mutationResponse ← Json.defaulted? .returning
      (fun document => (document.word? Json.isNull).bind MutationResponse.ofWord?) response
    let conflictPolicy ← Json.defaulted? .skip ConflictPolicy.ofJson? policy
    let tablePolicies ← Json.defaulted? [] policies? policies
    return { depthLimit, mutationResponse, conflictPolicy, tablePolicies }
  | _ => none

/-- The configuration that a text is. -/
def ofText (text : String) : Except SchemaError EngineConfig :=
  match (Json.readRecord? fieldNames text).bind ofJson? with
  | some config => .ok config
  | none => .error (.invalidDocument .malformedConfig)

end EngineConfig
end RelationalApi
