import RelationalApi.Interface.Generation
import RelationalApi.Proofs.Catalog.Validity
import RelationalApi.Proofs.Outcome

/-!
# Parts of a generated interface

A generated interface keeps its schema and configuration.  Its tables and operations follow from the
schema alone, whatever is registered on the way.
-/

namespace RelationalApi

open Outcome

namespace TypeRegistry

theorem registerTables_tables
    {registry extended : TypeRegistry}
    {tables : List Table}
    {types : List TableTypes}
    (registered : registry.registerTables tables = .ok (extended, types)) :
    tables.mapM TableTypes.ofTable = .ok types := by
  induction tables generalizing registry extended types with
  | nil =>
      rw [registerTables] at registered
      cases registered
      rfl
  | cons table tables inductionHypothesis =>
      simp only [registerTables, bind_eq_ok, pure_eq_ok, Prod.exists, Prod.mk.injEq] at registered
      obtain ⟨first, mapped, _, _, _, others, registeredOthers, _, rfl⟩ := registered
      simp only [List.mapM_cons, bind_eq_ok, pure_eq_ok]
      exact ⟨first, mapped, others, inductionHypothesis registeredOthers, rfl⟩

end TypeRegistry

namespace TableTypes

variable {table : Table} {types : TableTypes}

/-- The types of a table keep it, and give its columns the codecs of their kinds. -/
theorem ofTable_eq_ok (mapped : ofTable table = .ok types) :
    types.table = table ∧ ColumnCodec.ofTable table = .ok types.columns ∧
      ∃ identity, table.identityColumn? = some identity ∧ identity.name = types.identity := by
  rw [ofTable, bind_eq_ok] at mapped
  obtain ⟨columns, codecs, chosen⟩ := mapped
  split at chosen
  · rename_i identity found
    cases chosen
    exact ⟨rfl, codecs, identity, found, rfl⟩
  · cases chosen

theorem name_ofTable (mapped : ofTable table = .ok types) : types.name = table.name := by
  rw [name, (ofTable_eq_ok mapped).1]

/-- The codec of a name is that of the first column of the name. -/
theorem column?_eq_some
    (mapped : ofTable table = .ok types)
    {name : String}
    {codec : ColumnCodec} :
    types.column? name = some codec ↔
      ∃ column, table.column? name = some column ∧
        ColumnCodec.ofColumn table.name column = .ok codec := by
  refine find?_eq_some_iff ?_ (mapM_eq_ok.1 (ofTable_eq_ok mapped).2.1)
  intro column codec mappedColumn
  obtain ⟨_, _, same⟩ := bind_eq_ok.1 mappedColumn
  rw [pure_eq_ok] at same
  rw [← same]

/-- Every column of a table is read and shown by the codec of a declared column. -/
theorem exists_column?
    (mapped : ofTable table = .ok types)
    {name : String}
    (member : name ∈ table.columnNames) :
    ∃ declared column, ColumnCodec.ofColumn table.name declared = .ok column ∧
      types.column? name = some column := by
  rw [← Table.hasColumn_iff, Table.hasColumn, List.any_eq_true, ← List.find?_isSome] at member
  obtain ⟨declared, found⟩ := Option.isSome_iff_exists.1 member
  obtain ⟨column, _, mappedColumn⟩ := exists_result (mapM_eq_ok.1 (ofTable_eq_ok mapped).2.1)
    declared (List.mem_of_find?_eq_some found)
  exact ⟨declared, column, mappedColumn, (column?_eq_some mapped).2 ⟨declared, found, mappedColumn⟩⟩

/-- The types of a name are those of the table of the name. -/
theorem find?_eq_some
    {tables : List Table}
    {mapped : List TableTypes}
    {name : String}
    (pairs : List.Forall₂ (fun table types => ofTable table = .ok types) tables mapped) :
    mapped.find? (fun types => types.name == name) = some types ↔
      ∃ table, tables.find? (fun table => table.name == name) = some table ∧
        ofTable table = .ok types :=
  find?_eq_some_iff (fun _ _ => name_ofTable) pairs

end TableTypes

/-- Operations pass the check of their names exactly where they have names of their own. -/
theorem checkOperationNames_eq_ok {seen operations : List Operation} :
    checkOperationNames seen operations = .ok () ↔
      (∀ operation ∈ operations, ∀ other ∈ seen, other.name ≠ operation.name) ∧
        operations.Pairwise fun first second => first.name ≠ second.name := by
  induction operations generalizing seen with
  | nil => simp [checkOperationNames]
  | cons operation operations inductionHypothesis =>
      rw [checkOperationNames, List.forall_mem_cons, List.pairwise_cons]
      split
      · rename_i other taken
        have sameName := List.find?_some taken
        constructor
        · intro impossible
          cases impossible
        · rintro ⟨⟨free, _⟩, _⟩
          exact absurd (beq_iff_eq.1 sameName) (free other (List.mem_of_find?_eq_some taken))
      · rename_i free
        simp only [List.find?_eq_none, beq_iff_eq] at free
        simp only [inductionHypothesis, List.forall_mem_append, List.forall_mem_singleton,
          forall_and]
        constructor
        · rintro ⟨⟨laterFree, apart⟩, laterApart⟩
          exact ⟨⟨free, laterFree⟩, apart, laterApart⟩
        · rintro ⟨⟨_, laterFree⟩, apart, laterApart⟩
          exact ⟨⟨laterFree, apart⟩, laterApart⟩

namespace Interface

variable {schema : Schema} {config : EngineConfig} {interface : Interface}

/-- What a generated interface consists of, apart from its definitions. -/
structure Represents (interface : Interface) (schema : Schema) (config : EngineConfig) : Prop where
  schema_eq : interface.schema = schema
  config_eq : interface.config = config
  tables_eq : schema.tables.mapM TableTypes.ofTable = .ok interface.tables
  operations_eq : interface.operations =
    schema.tables.flatMap fun table => Operation.ofTable table.name
  operationNames : checkOperationNames [] interface.operations = .ok ()

theorem represents_of_generate (generated : generate schema config = .ok interface) :
    interface.Represents schema config := by
  simp only [generate, bind_eq_ok, pure_eq_ok, Prod.exists] at generated
  obtain ⟨_, _, _, _, _, tables, registered, _, _, _, _, _, checked, _, _, rfl⟩ := generated
  exact ⟨rfl, rfl, TypeRegistry.registerTables_tables registered, rfl, checked⟩

theorem Represents.table?_eq_some
    (represents : interface.Represents schema config)
    {name : String}
    {types : TableTypes} :
    interface.table? name = some types ↔
      ∃ table, schema.table? name = some table ∧ TableTypes.ofTable table = .ok types :=
  TableTypes.find?_eq_some (mapM_eq_ok.1 represents.tables_eq)

theorem name_of_table?
    {name : String}
    {types : TableTypes}
    (found : interface.table? name = some types) :
    types.name = name := by
  have same := List.find?_some found
  exact beq_iff_eq.1 same

/-- Every table of the schema has types in the interface. -/
theorem Represents.exists_table?
    (represents : interface.Represents schema config)
    {table : Table}
    (member : table ∈ schema.tables) :
    ∃ types ∈ interface.tables, TableTypes.ofTable table = .ok types ∧
      interface.table? table.name = some types := by
  obtain ⟨types, typesMember, mapped⟩ :=
    exists_result (mapM_eq_ok.1 represents.tables_eq) table member
  exact ⟨types, typesMember, mapped,
    represents.table?_eq_some.2 ⟨table, Schema.table?_name member, mapped⟩⟩

/-- The identity column of a table is one of its columns. -/
theorem Represents.identity_mem
    (represents : interface.Represents schema config)
    {name : String}
    {types : TableTypes}
    (found : interface.table? name = some types)
    {table : Table}
    (isTable : schema.table? name = some table) :
    types.identity ∈ table.columnNames := by
  obtain ⟨_, isTableAgain, mapped⟩ := represents.table?_eq_some.1 found
  rw [isTable] at isTableAgain
  cases isTableAgain
  obtain ⟨_, _, column, isIdentity, isNamed⟩ := TableTypes.ofTable_eq_ok mapped
  rw [← isNamed]
  refine List.mem_map_of_mem ?_
  rw [Table.identityColumn?, Option.or_eq_some_iff, Option.or_eq_some_iff] at isIdentity
  rcases isIdentity with first | ⟨_, unique | ⟨_, head⟩⟩
  · exact List.mem_of_find?_eq_some first
  · exact List.mem_of_find?_eq_some unique
  · exact List.mem_of_head? head

/-- Every operation on a table of the schema is found under its name. -/
theorem Represents.operation?_name
    (represents : interface.Represents schema config)
    {table : Table}
    (member : table ∈ schema.tables)
    (kind : OperationKind) :
    interface.operation? (kind.operationName table.name) = some ⟨kind, table.name⟩ := by
  have isOperation : (⟨kind, table.name⟩ : Operation) ∈ interface.operations := by
    rw [represents.operations_eq, List.mem_flatMap]
    refine ⟨table, member, List.mem_map.2 ⟨kind, ?_, rfl⟩⟩
    cases kind <;> decide
  have apart := (checkOperationNames_eq_ok.1 represents.operationNames).2
  rw [operation?]
  generalize interface.operations = operations at isOperation apart
  induction operations with
  | nil => simp at isOperation
  | cons first operations inductionHypothesis =>
      rw [List.pairwise_cons] at apart
      rw [List.find?_cons]
      rcases List.mem_cons.1 isOperation with rfl | later
      · rw [Operation.name, beq_self_eq_true]
      · have different : first.name ≠ kind.operationName table.name := apart.1 _ later
        rw [beq_eq_false_iff_ne.2 different]
        exact inductionHypothesis later apart.2

/-- The operations are those of every kind on every table. -/
theorem Represents.mem_operations
    (represents : interface.Represents schema config)
    {operation : Operation} :
    operation ∈ interface.operations ↔ ∃ table ∈ schema.tables, table.name = operation.table := by
  rw [represents.operations_eq, List.mem_flatMap]
  refine exists_congr fun table => and_congr_right fun _ => ?_
  obtain ⟨kind, name⟩ := operation
  rw [Operation.ofTable, List.mem_map]
  simp only [Operation.mk.injEq]
  constructor
  · rintro ⟨_, _, _, same⟩
    exact same
  · intro same
    exact ⟨kind, by cases kind <;> decide, rfl, same⟩

/-- Every operation is found under its name. -/
theorem Represents.operation?_of_mem
    (represents : interface.Represents schema config)
    {operation : Operation}
    (member : operation ∈ interface.operations) :
    interface.operation? operation.name = some operation := by
  obtain ⟨table, isTable, isNamed⟩ := represents.mem_operations.1 member
  have found := represents.operation?_name isTable operation.kind
  rw [isNamed] at found
  exact found

end Interface
end RelationalApi
