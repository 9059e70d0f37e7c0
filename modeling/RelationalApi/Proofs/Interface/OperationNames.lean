import RelationalApi.Graphql.Response
import RelationalApi.Proofs.Interface.ClosedTypes

/-!
# Names of operations

The name of an operation is put together from the name of its table in one of two casings.  Two
tables, or two kinds of operations, may therefore give one name, and then there is no interface.  In
an interface every name belongs to one operation, the operations are all those of the tables, and
the two roots share them out as their fields.  Nothing is said here about how names are cased.
-/

namespace RelationalApi

open Outcome

/-- The operations of an interface have names of their own, which lead to them and to nothing else,
and each is a field of the root that admits its kind. -/
structure Interface.NamesOperations (interface : Interface) (schema : Schema)
    (config : EngineConfig) : Prop where
  names_nodup : (interface.operations.map Operation.name).Nodup
  mem_operations_iff : ∀ operation, operation ∈ interface.operations ↔
    ∃ table ∈ schema.tables, table.name = operation.table
  distinct : ∀ table ∈ schema.tables, ∀ other ∈ schema.tables, ∀ kind otherKind : OperationKind,
    kind.operationName table.name = otherKind.operationName other.name ->
      kind = otherKind ∧ table = other
  resolves : ∀ table ∈ schema.tables, ∀ kind : OperationKind,
    interface.operation? (kind.operationName table.name) = some ⟨kind, table.name⟩
  unknown : ∀ name,
    (∀ table ∈ schema.tables, ∀ kind : OperationKind, kind.operationName table.name ≠ name) ->
      interface.operation? name = none
  rootFields : schema.tables ≠ [] -> ∀ root : Graphql.RootKind,
    interface.registry.objectFields? root.typeName =
      some ((interface.operations.filter fun operation => root.admits operation.kind).map
        (rootFieldOf config))
  noRoots : schema.tables = [] -> ∀ root : Graphql.RootKind,
    interface.registry.get? root.typeName = none
  prefixes_distinct : ∀ table ∈ schema.tables, ∀ other ∈ schema.tables,
    typePrefix table.name = typePrefix other.name -> table = other

/-- Tables of some names, each with nothing but an identity column. -/
def Schema.ofNames (names : List String) : Schema :=
  names.foldl (fun schema name => schema.withTable
    { name := name
      columns := [{ name := "id", kind := .integer 32 false, primaryKey := true }] }) empty

namespace Interface

variable {interface : Interface} {schema : Schema} {config : EngineConfig}

/-- The check of names passes exactly where no two operations have one name. -/
theorem checkOperationNames_iff_nodup {operations : List Operation} :
    checkOperationNames [] operations = .ok () ↔ (operations.map Operation.name).Nodup := by
  rw [checkOperationNames_eq_ok, List.Nodup, List.pairwise_map]
  exact and_iff_right fun _ _ _ => (nomatch ·)

/-- Operations of one name are of one kind and one table, as the name leads to both. -/
theorem Represents.eq_of_operationName_eq
    (represents : interface.Represents schema config)
    {table other : Table}
    {kind otherKind : OperationKind}
    (member : table ∈ schema.tables)
    (otherMember : other ∈ schema.tables)
    (sameName : kind.operationName table.name = otherKind.operationName other.name) :
    kind = otherKind ∧ table = other := by
  have found := represents.operation?_name member kind
  rw [sameName, represents.operation?_name otherMember otherKind] at found
  obtain ⟨sameKind, sameTable⟩ := Operation.mk.inj (Option.some.inj found)
  exact ⟨sameKind.symm, Schema.eq_of_name_eq member otherMember sameTable.symm⟩

/-- A name that no table gives to an operation leads to none. -/
theorem Represents.operation?_eq_none
    (represents : interface.Represents schema config)
    {name : String}
    (isNoName : ∀ table ∈ schema.tables, ∀ kind : OperationKind,
      kind.operationName table.name ≠ name) :
    interface.operation? name = none := by
  rw [operation?, List.find?_eq_none]
  intro operation member isNamed
  obtain ⟨table, tableMember, sameTable⟩ := represents.mem_operations.1 member
  refine isNoName table tableMember operation.kind ?_
  rw [sameTable]
  exact beq_iff_eq.1 isNamed

/-- The definition of each root, if it has fields, is among those of the roots. -/
theorem rootDefinitions_subset_rootsOf
    (config : EngineConfig)
    (operations : List Operation)
    (root : Graphql.RootKind) :
    rootDefinitions root.typeName
        ((operations.filter fun operation => root.admits operation.kind).map
          (rootFieldOf config)) ⊆
      rootsOf config operations := by
  cases root with
  | query =>
      have sameKinds : (fun operation : Operation => Graphql.RootKind.query.admits operation.kind) =
          fun operation => !operation.kind.isMutation := by
        funext operation
        cases operation.kind <;> rfl
      rw [sameKinds]
      exact List.subset_append_left _ _
  | mutation =>
      have sameKinds : (fun operation : Operation =>
          Graphql.RootKind.mutation.admits operation.kind) =
          fun operation => operation.kind.isMutation := by
        funext operation
        cases operation.kind <;> rfl
      rw [sameKinds]
      exact List.subset_append_right _ _

/-- Every root admits operations of some kind. -/
theorem exists_admitted (root : Graphql.RootKind) :
    ∃ kind : OperationKind, root.admits kind = true := by
  cases root with
  | query => exact ⟨.selectMany, rfl⟩
  | mutation => exact ⟨.insertMany, rfl⟩

/-- Where there are tables, each root has the operations that it admits as its fields. -/
theorem objectFields?_rootKind
    (generated : generate schema config = .ok interface)
    (hasTables : schema.tables ≠ [])
    (root : Graphql.RootKind) :
    interface.registry.objectFields? root.typeName =
      some ((interface.operations.filter fun operation => root.admits operation.kind).map
        (rootFieldOf config)) := by
  have represents := represents_of_generate generated
  obtain ⟨table, member⟩ := List.exists_mem_of_ne_nil _ hasTables
  obtain ⟨kind, admitted⟩ := exists_admitted root
  have isOperation : (⟨kind, table.name⟩ : Operation) ∈ interface.operations :=
    represents.mem_operations.2 ⟨table, member, rfl⟩
  have hasFields : (interface.operations.filter fun operation => root.admits operation.kind).map
      (rootFieldOf config) ≠ [] :=
    List.ne_nil_of_mem (List.mem_map_of_mem (List.mem_filter.2 ⟨isOperation, admitted⟩))
  rw [← represents.config_eq] at hasFields ⊢
  exact (registers_of_generate generated).objectFields?_root
    (rootDefinitions_subset_rootsOf _ _ root) hasFields

/-- Without tables there are no roots: only the order of rows and the answer of mutations are
defined. -/
theorem get?_root_eq_none
    (generated : generate schema config = .ok interface)
    (noTables : schema.tables = [])
    (root : Graphql.RootKind) :
    interface.registry.get? root.typeName = none := by
  have represents := represents_of_generate generated
  have noTypes : interface.tables = [] := by
    have mapped := represents.tables_eq
    rw [noTables] at mapped
    exact (pure_eq_ok.1 mapped).symm
  have noShapes : schema.shapes config.depthLimit = [] := by
    rw [Schema.shapes, Schema.topShapes, noTables]
    rfl
  have noOperations : interface.operations = [] := by
    rw [represents.operations_eq, noTables]
    rfl
  rw [Option.eq_none_iff_forall_ne_some]
  intro definition found
  obtain ⟨member, sameName⟩ := (inStep_of_generate generated).get?_eq_some.1 found
  rcases exists_origin_of_generate generated member with
    isDirection | ⟨types, isTable, _⟩ | ⟨shape, isShape, _⟩ | isSuccess | isRoot
  · rw [isDirection] at sameName
    cases root <;> exact absurd sameName (by decide)
  · rw [noTypes] at isTable
    cases isTable
  · rw [noShapes] at isShape
    cases isShape
  · unfold successDefinitions at isSuccess
    split at isSuccess
    · cases isSuccess
    · rw [List.mem_singleton.1 isSuccess] at sameName
      cases root <;> exact absurd sameName (by decide)
  · rw [noOperations] at isRoot
    cases isRoot

theorem namesOperations_of_generate (generated : generate schema config = .ok interface) :
    interface.NamesOperations schema config := by
  have represents := represents_of_generate generated
  constructor
  · exact checkOperationNames_iff_nodup.1 represents.operationNames
  · exact fun _ => represents.mem_operations
  · exact fun _ member _ otherMember _ _ => represents.eq_of_operationName_eq member otherMember
  · exact fun _ member kind => represents.operation?_name member kind
  · exact fun _ => represents.operation?_eq_none
  · exact objectFields?_rootKind generated
  · exact get?_root_eq_none generated
  · intro table member other otherMember samePrefix
    -- The names of deletes are the prefixes behind a fixed word.
    have sameName : OperationKind.delete.operationName table.name =
        OperationKind.delete.operationName other.name := congrArg ("deleteFrom" ++ ·) samePrefix
    exact (represents.eq_of_operationName_eq member otherMember sameName).2

/-- A generated interface names its operations, and there is none where two operations of the
tables would have one name.  The names of operations themselves are refused for nothing else. -/
theorem operation_names_resolve (schema : Schema) (config : EngineConfig) :
    (∀ interface, generate schema config = .ok interface ->
      interface.NamesOperations schema config) ∧
    (∀ table ∈ schema.tables, ∀ other ∈ schema.tables, ∀ kind otherKind : OperationKind,
      kind.operationName table.name = otherKind.operationName other.name ->
        ¬(kind = otherKind ∧ table = other) ->
          ∃ fault, generate schema config = .error fault) ∧
    (checkOperationNames [] (schema.tables.flatMap fun table => Operation.ofTable table.name)
        = .ok () ↔
      ((schema.tables.flatMap fun table => Operation.ofTable table.name).map
        Operation.name).Nodup) := by
  refine ⟨fun _ => namesOperations_of_generate, ?_, checkOperationNames_iff_nodup⟩
  intro table member other otherMember kind otherKind sameName different
  cases generated : generate schema config with
  | error fault => exact ⟨fault, rfl⟩
  | ok interface =>
      exact absurd ((namesOperations_of_generate generated).distinct table member other otherMember
        kind otherKind sameName) different

theorem operation_names_resolve_users :
    (∃ interface, generate (Schema.ofNames ["users", "posts"]) {} = .ok interface ∧
      interface.NamesOperations (Schema.ofNames ["users", "posts"]) {}) ∧
    ∃ fault, generate (Schema.ofNames ["users", "users_single"]) {} = .error fault := by
  constructor
  · have succeeds : (generate (Schema.ofNames ["users", "posts"]) {}).toOption.isSome = true := by
      decide +kernel
    obtain ⟨interface, generated⟩ := Option.isSome_iff_exists.1 succeeds
    rw [toOption_eq_some] at generated
    exact ⟨interface, generated, (operation_names_resolve _ _).1 interface generated⟩
  · have names : (Schema.ofNames ["users", "users_single"]).tables.map (·.name) =
        ["users", "users_single"] := by
      decide +kernel
    have isTable : ∀ name ∈ ["users", "users_single"],
        ∃ table ∈ (Schema.ofNames ["users", "users_single"]).tables, table.name = name := by
      intro name member
      rw [← names] at member
      exact List.mem_map.1 member
    obtain ⟨users, member, isUsers⟩ := isTable "users" (by decide)
    obtain ⟨single, singleMember, isSingle⟩ := isTable "users_single" (by decide)
    have sameName : OperationKind.selectOne.operationName users.name =
        OperationKind.selectMany.operationName single.name := by
      rw [isUsers, isSingle]
      decide +kernel
    exact (operation_names_resolve _ _).2.1 users member single singleMember .selectOne .selectMany
      sameName fun same => absurd same.1 (by decide)

end Interface
end RelationalApi
