import RelationalApi.Proofs.Interface.InputKeys
import RelationalApi.Proofs.Interface.Paths

/-!
# Input types of a generated interface

A generated interface finds the definitions of all its tables and of its roots, and no definition of
a built-in scalar.  So each input type of a table declares the names that the table gives it, while
the types of columns, being scalars, enums and lists of them, declare none.
-/

namespace RelationalApi

open Outcome

/-- The names for conditions on a column, with the type of its `OR` list. -/
def columnFilterFields (table : String) (column : ColumnCodec) : List InputField :=
  operatorFields column ++
    [⟨"OR", .list (.nonNull (.named (columnAlternativesName table column.column))), none⟩]

/-- The names for conditions on the rows of a table: its columns and the combinators. -/
def filterFields (table : String) (columns : List ColumnCodec) : List InputField :=
  (columns.map fun column =>
    ⟨column.column, .named (columnFiltersName table column.column), none⟩) ++
    ["AND", "OR", "NOT"].map fun name =>
      ⟨name, .list (.nonNull (.named (filtersName table))), none⟩

/-- The names for orders of the rows of a table. -/
def orderFields (columns : List ColumnCodec) : List InputField :=
  columns.map fun column => ⟨column.column, .named orderDirectionType, none⟩

/-- The types of values admit null. -/
theorem ScalarKind.isNonNull_type (kind : ScalarKind) : kind.type.isNonNull = false := by
  cases kind <;> rfl

theorem TypeRef.isNonNull_required (type : TypeRef) : type.required.isNonNull = true := by
  cases type <;> rfl

theorem TypeRef.baseName_required (type : TypeRef) : type.required.baseName = type.baseName := by
  cases type <;> rfl

/-- The name inside the type of a column is that of a built-in scalar, of documents or of the enum
of the column. -/
theorem Codec.baseName_type (codec : Codec) :
    builtInScalars.contains codec.kind.type.baseName = true ∨
      (codec.kind.usesJson = true ∧ codec.kind.type.baseName = jsonScalar) ∨
        ∃ members, codec.innermost = .enumeration codec.kind.type.baseName members := by
  induction codec with
  | integer bits unsigned =>
      rw [kind]
      cases integerForm bits unsigned <;> exact .inl (by decide)
  | json => exact .inr (.inl ⟨rfl, rfl⟩)
  | enumeration typeName members => exact .inr (.inr ⟨members, rfl⟩)
  | list element inductionHypothesis =>
      rw [kind, ScalarKind.type, TypeRef.baseName, TypeRef.baseName_required]
      exact inductionHypothesis
  | _ => exact .inl rfl

namespace TypeRegistry

variable {registry : TypeRegistry} {name : String}

theorem namesOf?_of_get?
    {definition : TypeDefinition}
    (found : registry.get? name = some definition) :
    registry.namesOf? name =
      match definition.content with
      | .input fields => some fields
      | _ => none := by
  obtain ⟨name, content, description⟩ := definition
  rw [namesOf?, found]
  cases content <;> rfl

theorem objectFields?_of_get?
    {definition : TypeDefinition}
    (found : registry.get? name = some definition) :
    registry.objectFields? name =
      match definition.content with
      | .object fields => some fields
      | _ => none := by
  obtain ⟨name, content, description⟩ := definition
  rw [objectFields?, found]
  cases content <;> rfl

/-- The registered input types of a table declare its columns with their operators, and the types
of values declare nothing. -/
structure DeclaresInputs (registry : TypeRegistry) (types : TableTypes) : Prop where
  filters : registry.namesOf? (filtersName types.name) =
    some (filterFields types.name types.columns)
  columnFilters : ∀ column ∈ types.columns,
    registry.namesOf? (columnFiltersName types.name column.column) =
      some (columnFilterFields types.name column)
  alternatives : ∀ column ∈ types.columns,
    registry.namesOf? (columnAlternativesName types.name column.column) =
      some (operatorFields column)
  orders : registry.namesOf? (orderByName types.name) = some (orderFields types.columns)
  inserts : registry.namesOf? (insertInputName types.name) =
    some (insertFields types.table types.columns)
  updates : registry.namesOf? (updateInputName types.name) =
    some (updateFields types.table types.columns)
  values : ∀ column ∈ types.columns, registry.namesOf? column.kind.type.baseName = none
  direction : registry.namesOf? orderDirectionType = none
  builtIn : ∀ name, builtInScalars.contains name = true -> registry.namesOf? name = none

end TypeRegistry

namespace Interface

variable {interface : Interface} {schema : Schema} {config : EngineConfig} {types : TableTypes}

/-- What a generated interface finds in its registry. -/
structure Registers (interface : Interface) : Prop where
  tables : ∀ types ∈ interface.tables, ∀ definition ∈ tableDefinitions types.table types.columns,
    interface.registry.get? definition.name = some definition
  direction : interface.registry.get? orderDirectionType = some orderDirectionDefinition
  success : ∀ definition ∈ successDefinitions interface.config.mutationResponse,
    interface.registry.get? definition.name = some definition
  roots : ∀ definition ∈ rootsOf interface.config interface.operations,
    interface.registry.get? definition.name = some definition
  builtIn : ∀ name, builtInScalars.contains name = true -> interface.registry.get? name = none

theorem registers_of_generate (generated : generate schema config = .ok interface) :
    interface.Registers := by
  simp only [generate, bind_eq_ok, pure_eq_ok, Prod.exists] at generated
  obtain ⟨_, _, first, registeredFirst, second, tables, registeredTables, third, registeredShapes,
    fourth, registeredSuccess, _, _, last, registeredRoots, rfl⟩ := generated
  open TypeRegistry in
  constructor
  · intro types member definition isDefinition
    have found := get?_registeredTables registeredTables types member definition isDefinition
    exact get?_of_registerAll registeredRoots (get?_of_registerAll registeredSuccess
      (get?_of_registerAll registeredShapes found))
  · have found := get?_of_registerTables registeredTables (get?_registered registeredFirst)
    exact get?_of_registerAll registeredRoots (get?_of_registerAll registeredSuccess
      (get?_of_registerAll registeredShapes found))
  · intro definition isDefinition
    exact get?_of_registerAll registeredRoots
      (get?_registeredAll registeredSuccess definition isDefinition)
  · exact get?_registeredAll registeredRoots
  · intro name isBuiltIn
    have step := fun registry extended definition registered =>
      @position?_eq_none_of_register registry extended definition name registered isBuiltIn
    refine get?_eq_none_of_position? ?_
    exact keeps_registerAll step registeredRoots (keeps_registerAll step registeredSuccess
      (keeps_registerAll step registeredShapes (keeps_registerTables step registeredTables
        (step _ _ _ registeredFirst rfl))))

theorem inStep_of_generate (generated : generate schema config = .ok interface) :
    interface.registry.InStep := by
  simp only [generate, bind_eq_ok, pure_eq_ok, Prod.exists] at generated
  obtain ⟨_, _, _, registeredFirst, _, _, registeredTables, _, registeredShapes,
    _, registeredSuccess, _, _, _, registeredRoots, rfl⟩ := generated
  open TypeRegistry in
  exact keeps_registerAll (fun _ _ _ => InStep.register) registeredRoots
    (keeps_registerAll (fun _ _ _ => InStep.register) registeredSuccess
      (keeps_registerAll (fun _ _ _ => InStep.register) registeredShapes
        (keeps_registerTables (fun _ _ _ => InStep.register) registeredTables
          (InStep.register registeredFirst .empty))))

theorem Registers.namesOf?_builtIn
    (registers : interface.Registers)
    (name : String)
    (isBuiltIn : builtInScalars.contains name = true) :
    interface.registry.namesOf? name = none := by
  rw [TypeRegistry.namesOf?, registers.builtIn name isBuiltIn]
  exact if_pos isBuiltIn

/-- The values of columns are built-in scalars, or scalars and enums that are registered, or lists
of them. -/
theorem Registers.exists_valueDefinition
    (registers : interface.Registers)
    (member : types ∈ interface.tables)
    {column : ColumnCodec}
    (isColumn : column ∈ types.columns) :
    builtInScalars.contains column.kind.type.baseName = true ∨
      ∃ definition, interface.registry.get? column.kind.type.baseName = some definition ∧
        (definition.content = .scalar ∨ ∃ values, definition.content = .enumeration values) := by
  have found : ∀ definition ∈ columnDefinitions column,
      interface.registry.get? definition.name = some definition := by
    intro definition isDefinition
    refine registers.tables types member definition ?_
    refine List.mem_append_left _ (List.mem_append_left _ ?_)
    exact List.mem_flatMap.2 ⟨column, isColumn, isDefinition⟩
  rcases column.codec.baseName_type with isBuiltIn | ⟨usesJson, isJson⟩ | ⟨members, isEnum⟩
  · exact .inl isBuiltIn
  · have isScalar : ({ name := jsonScalar, content := .scalar } : TypeDefinition) ∈
        columnDefinitions column := by
      rw [columnDefinitions, ColumnCodec.kind, usesJson]
      simp
    rw [ColumnCodec.kind, isJson]
    exact .inr ⟨_, found _ isScalar, .inl rfl⟩
  · have isEnumeration : ({ name := column.kind.type.baseName
                            content := .enumeration (members.map (·.name)) } : TypeDefinition) ∈
        columnDefinitions column := by
      rw [columnDefinitions, ColumnCodec.enumDefinition?, isEnum]
      simp [ColumnCodec.kind]
    exact .inr ⟨_, found _ isEnumeration, .inr ⟨_, rfl⟩⟩

/-- The values of columns are read as scalars or enums, or as lists of them. -/
theorem Registers.namesOf?_value
    (registers : interface.Registers)
    (member : types ∈ interface.tables)
    {column : ColumnCodec}
    (isColumn : column ∈ types.columns) :
    interface.registry.namesOf? column.kind.type.baseName = none := by
  rcases registers.exists_valueDefinition member isColumn with
    isBuiltIn | ⟨_, found, isScalar | ⟨_, isEnumeration⟩⟩
  · exact registers.namesOf?_builtIn _ isBuiltIn
  · rw [TypeRegistry.namesOf?_of_get? found, isScalar]
  · rw [TypeRegistry.namesOf?_of_get? found, isEnumeration]

/-- The values of columns have no fields. -/
theorem Registers.field?_value
    (registers : interface.Registers)
    (member : types ∈ interface.tables)
    {column : ColumnCodec}
    (isColumn : column ∈ types.columns)
    (name : String) :
    interface.registry.field? column.kind.type.baseName name = none := by
  rw [TypeRegistry.field?]
  rcases registers.exists_valueDefinition member isColumn with
    isBuiltIn | ⟨_, found, isScalar | ⟨_, isEnumeration⟩⟩
  · rw [TypeRegistry.objectFields?, registers.builtIn _ isBuiltIn]
    rfl
  · rw [TypeRegistry.objectFields?_of_get? found, isScalar]
    rfl
  · rw [TypeRegistry.objectFields?_of_get? found, isEnumeration]
    rfl

theorem Registers.declaresInputs
    (registers : interface.Registers)
    (member : types ∈ interface.tables) :
    interface.registry.DeclaresInputs types := by
  have isDefined : ∀ name fields,
      { name := name, content := .input fields } ∈ tableDefinitions types.table types.columns ->
        interface.registry.namesOf? name = some fields := by
    intro name fields isDefinition
    exact TypeRegistry.namesOf?_of_get? (registers.tables types member _ isDefinition)
  have ofColumn : ∀ column ∈ types.columns,
      ∀ definition ∈ columnFilterTypes types.name column,
        definition ∈ tableDefinitions types.table types.columns := by
    intro column isColumn definition isDefinition
    refine List.mem_append_left _ (List.mem_append_right _ ?_)
    exact List.mem_flatMap.2 ⟨column, isColumn, isDefinition⟩
  constructor
  · exact isDefined _ _ (List.mem_append_right _ (by simp [tableFilterType, filterFields,
      TableTypes.name]))
  · intro column isColumn
    exact isDefined _ _ (ofColumn column isColumn _ (by simp [columnFilterTypes,
      columnFilterFields]))
  · intro column isColumn
    exact isDefined _ _ (ofColumn column isColumn _ (by simp [columnFilterTypes]))
  · exact isDefined _ _ (List.mem_append_right _ (by simp [orderByType, orderFields,
      TableTypes.name]))
  · exact isDefined _ _ (List.mem_append_right _ (by simp [TableTypes.name]))
  · exact isDefined _ _ (List.mem_append_right _ (by simp [TableTypes.name]))
  · exact fun column isColumn => registers.namesOf?_value member isColumn
  · exact TypeRegistry.namesOf?_of_get? registers.direction
  · exact registers.namesOf?_builtIn

/-- A root with fields is registered with them. -/
theorem Registers.objectFields?_root
    (registers : interface.Registers)
    {name : String}
    {fields : List OutputField}
    (isRoot : ∀ definition ∈ rootDefinitions name fields,
      definition ∈ rootsOf interface.config interface.operations)
    (hasFields : fields ≠ []) :
    interface.registry.objectFields? name = some fields := by
  refine TypeRegistry.objectFields?_of_get? (registers.roots ⟨name, .object fields, none⟩ ?_)
  refine isRoot _ ?_
  rw [rootDefinitions, if_neg (by simpa using hasFields)]
  exact List.mem_singleton_self _

/-- The first operation of a name is the first one among the operations of its root. -/
theorem find?_rootFields
    {operations : List Operation}
    {operation : Operation}
    {name : String}
    (isOfRoot : Operation -> Bool)
    (found : operations.find? (fun operation => operation.name == name) = some operation)
    (ofRoot : isOfRoot operation = true) :
    ((operations.filter isOfRoot).map (rootFieldOf config)).find? (fun field => field.name == name)
      = some (rootFieldOf config operation) := by
  induction operations with
  | nil => cases found
  | cons first operations inductionHypothesis =>
      have sameName : (rootFieldOf config first).name = first.name := rfl
      rw [List.find?_cons] at found
      rw [List.filter_cons]
      cases isNamed : first.name == name with
      | true =>
          rw [isNamed] at found
          cases found
          rw [if_pos ofRoot, List.map_cons, List.find?_cons, sameName, isNamed]
      | false =>
          rw [isNamed] at found
          split
          · rw [List.map_cons, List.find?_cons, sameName, isNamed]
            exact inductionHypothesis found
          · exact inductionHypothesis found

/-- No query has the name of a mutation. -/
theorem find?_queries_eq_none
    (represents : interface.Represents schema config)
    {name : String}
    {operation : Operation}
    (found : interface.operation? name = some operation)
    (isMutation : operation.kind.isMutation = true) :
    ((interface.operations.filter fun operation => !operation.kind.isMutation).map
      (rootFieldOf interface.config)).find? (fun field => field.name == name) = none := by
  rw [List.find?_eq_none]
  intro field isField isNamed
  obtain ⟨query, isQuery, rfl⟩ := List.mem_map.1 isField
  rw [List.mem_filter] at isQuery
  have foundQuery := represents.operation?_of_mem isQuery.1
  have sameName : query.name = name := beq_iff_eq.1 isNamed
  rw [sameName, found] at foundQuery
  cases foundQuery
  simp [isMutation] at isQuery

/-- The root field of the name of an operation is that of the operation. -/
theorem rootField?_eq
    (generated : generate schema config = .ok interface)
    {name : String}
    {operation : Operation}
    (found : interface.operation? name = some operation) :
    interface.registry.rootField? name = some (rootFieldOf interface.config operation) := by
  have registers := registers_of_generate generated
  have represents := represents_of_generate generated
  have member := List.mem_of_find?_eq_some found
  have queries := registers.objectFields?_root fun _ => List.mem_append_left _
  have mutations := registers.objectFields?_root fun _ => List.mem_append_right _
  rw [TypeRegistry.rootField?, TypeRegistry.field?, TypeRegistry.field?]
  cases isMutation : operation.kind.isMutation with
  | false =>
      have isQuery : (!operation.kind.isMutation) = true := by rw [isMutation]; rfl
      have rootField := @find?_rootFields interface.config _ _ _
        (fun operation => !operation.kind.isMutation) found isQuery
      have notEmpty := List.ne_nil_of_mem (List.mem_of_find?_eq_some rootField)
      rw [queries notEmpty, Option.bind_some, rootField, Option.some_or]
  | true =>
      have rootField := @find?_rootFields interface.config _ _ _
        (fun operation => operation.kind.isMutation) found isMutation
      have notEmpty := List.ne_nil_of_mem (List.mem_of_find?_eq_some rootField)
      obtain ⟨table, isTable, _⟩ := represents.mem_operations.1 member
      have isSelect : (⟨.selectMany, table.name⟩ : Operation) ∈
          interface.operations.filter fun operation => !operation.kind.isMutation :=
        List.mem_filter.2 ⟨represents.mem_operations.2 ⟨table, isTable, rfl⟩, rfl⟩
      have noQuery := find?_queries_eq_none represents found isMutation
      rw [queries (List.ne_nil_of_mem (List.mem_map_of_mem isSelect)), mutations notEmpty,
        Option.bind_some, Option.bind_some, noQuery, rootField, Option.none_or]

/-- The type of the rows that mutations return has the columns of their table. -/
theorem Registers.objectFields?_item
    (registers : interface.Registers)
    (member : types ∈ interface.tables) :
    interface.registry.objectFields? (itemTypeName types.name) =
      some (columnFields types.columns) :=
  TypeRegistry.objectFields?_of_get? (registers.tables types member
    ⟨itemTypeName types.table.name, .object (columnFields types.columns), none⟩
    (List.mem_append_right _ (by simp)))

/-- A mutation that returns rows answers with the columns of its table. -/
theorem Registers.objectFields?_returning
    (registers : interface.Registers)
    {operation : Operation}
    (isMutation : operation.kind.isMutation = true)
    (isReturning : interface.config.mutationResponse = .returning)
    (found : interface.table? operation.table = some types) :
    interface.registry.objectFields? (rootFieldOf interface.config operation).type.baseName =
      some (columnFields types.columns) := by
  have isItem := registers.objectFields?_item (List.mem_of_find?_eq_some found)
  rw [name_of_table? found] at isItem
  rw [rootFieldOf, isReturning]
  obtain ⟨kind, table⟩ := operation
  cases kind with
  | selectMany | selectOne => cases isMutation
  | _ => exact isItem

/-- A mutation that returns no rows answers with a field for its success. -/
theorem Registers.objectFields?_success
    (registers : interface.Registers)
    {operation : Operation}
    (isMutation : operation.kind.isMutation = true)
    (isSuccess : interface.config.mutationResponse = .success) :
    interface.registry.objectFields? (rootFieldOf interface.config operation).type.baseName =
      some [{ name := successField, type := .nonNull (.named "Boolean") }] := by
  have isSuccessType := TypeRegistry.objectFields?_of_get? (registers.success _
    (by rw [isSuccess]; exact List.mem_singleton_self _))
  rw [rootFieldOf, isSuccess]
  obtain ⟨kind, table⟩ := operation
  cases kind with
  | selectMany | selectOne => cases isMutation
  | _ => exact isSuccessType

end Interface
end RelationalApi
