import RelationalApi.Config
import RelationalApi.Interface.Names

/-!
# Root operations

Every table has six operations.  Selects are fields of the query root, the others of the mutation
root.
-/

namespace RelationalApi

/-- The kinds of operations. -/
inductive OperationKind where
  | selectMany
  | selectOne
  | insertMany
  | insertOne
  | update
  | delete
  deriving Repr, DecidableEq, Inhabited

namespace OperationKind

/-- All kinds in the order of generation. -/
def all : List OperationKind :=
  [selectMany, selectOne, insertMany, insertOne, update, delete]

def isMutation : OperationKind → Bool
  | selectMany => false
  | selectOne => false
  | _ => true

/-- The name of the operation of a kind on a table. -/
def operationName (table : String) : OperationKind → String
  | selectMany => Text.lowerCamel table
  | selectOne => Text.lowerCamel table ++ "Single"
  | insertMany => "insertInto" ++ typePrefix table
  | insertOne => "insertInto" ++ typePrefix table ++ "Single"
  | update => "update" ++ typePrefix table
  | delete => "deleteFrom" ++ typePrefix table

/-- The names of the arguments of a kind. -/
def argumentNames : OperationKind → List String
  | selectMany => ["offset", "limit", "orderBy", "where"]
  | selectOne => ["offset", "orderBy", "where"]
  | insertMany => ["values"]
  | insertOne => ["values"]
  | update => ["set", "where"]
  | delete => ["where"]

/-- The word for a kind. -/
def word : OperationKind → String
  | selectMany => "SelectMany"
  | selectOne => "SelectOne"
  | insertMany => "InsertMany"
  | insertOne => "InsertOne"
  | update => "Update"
  | delete => "Delete"

end OperationKind

/-- An operation on a table. -/
structure Operation where
  kind : OperationKind
  table : String
  deriving Repr, DecidableEq, Inhabited

namespace Operation

/-- The name of the root field. -/
def name (operation : Operation) : String :=
  operation.kind.operationName operation.table

/-- The operations on a table, in the order of generation. -/
def ofTable (table : String) : List Operation :=
  OperationKind.all.map fun kind => ⟨kind, table⟩

end Operation

/-- A list type that is never null and has no null items. -/
def requiredListOf (name : String) : TypeRef :=
  .nonNull (.list (.nonNull (.named name)))

/-- The arguments of the root field of an operation. -/
def Operation.arguments (operation : Operation) : List InputField :=
  let table := operation.table
  let offset : InputField := ⟨"offset", .named "Int", none⟩
  let limit : InputField := ⟨"limit", .named "Int", none⟩
  let orderBy : InputField := ⟨"orderBy", .named (orderByName table), none⟩
  let filter : InputField := ⟨"where", .named (filtersName table), none⟩
  match operation.kind with
  | .selectMany => [offset, limit, orderBy, filter]
  | .selectOne => [offset, orderBy, filter]
  | .insertMany => [⟨"values", requiredListOf (insertInputName table), none⟩]
  | .insertOne => [⟨"values", .nonNull (.named (insertInputName table)), none⟩]
  | .update => [⟨"set", .nonNull (.named (updateInputName table)), none⟩, filter]
  | .delete => [filter]

/-- The type of the root field of an operation, given the type of selected rows. -/
def Operation.answerType (operation : Operation) (selectType : String)
    (response : MutationResponse) : TypeRef :=
  let item := itemTypeName operation.table
  match operation.kind, response with
  | .selectMany, _ => requiredListOf selectType
  | .selectOne, _ => .named selectType
  | _, .success => .nonNull (.named mutationSuccessType)
  | .insertOne, .returning => .named item
  | _, .returning => requiredListOf item

/-- The root field of an operation. -/
def Operation.rootField (operation : Operation) (selectType : String)
    (response : MutationResponse) : OutputField :=
  { name := operation.name
    type := operation.answerType selectType response
    arguments := operation.arguments }

end RelationalApi
