import RelationalApi.Proofs.Interface.InputTypes

/-!
# References between types

Definitions refer to types by their names, which are put together apart from the definitions that
bear them.  In a generated interface every name leads to a definition, and to one that fits the
place of the reference: what a field takes is made of scalars, enums and input types, and what it
answers of scalars, enums and object types.
-/

namespace RelationalApi

open Outcome

/-- The two places where definitions refer to types: what fields take and what they answer. -/
inductive TypePosition where
  | input
  | output

/-- Scalars and enums stand at both places, input types where values are taken and object types
where they are answered. -/
def TypeContent.MayStandAt : TypeContent -> TypePosition -> Prop
  | .scalar, _ => True
  | .enumeration _, _ => True
  | .input _, position => position = .input
  | .object _, position => position = .output

/-- A definition mentions the names in the types of its fields and of their arguments. -/
inductive TypeContent.Mentions : TypeContent -> TypePosition -> String -> Prop
  | inputField
      {fields : List InputField}
      {field : InputField}
      (member : field ∈ fields) :
      Mentions (.input fields) .input field.type.baseName
  | outputField
      {fields : List OutputField}
      {field : OutputField}
      (member : field ∈ fields) :
      Mentions (.object fields) .output field.type.baseName
  | argument
      {fields : List OutputField}
      {field : OutputField}
      {argument : InputField}
      (member : field ∈ fields)
      (isArgument : argument ∈ field.arguments) :
      Mentions (.object fields) .input argument.type.baseName

namespace TypeRegistry

/-- A name may be used at a place: it is that of a built-in scalar or of a registered definition
that may stand there. -/
def Admits (registry : TypeRegistry) (position : TypePosition) (name : String) : Prop :=
  builtInScalars.contains name = true ∨
    ∃ definition, registry.get? name = some definition ∧ definition.content.MayStandAt position

/-- All names that a definition mentions may be used where it mentions them. -/
def Supports (registry : TypeRegistry) (definition : TypeDefinition) : Prop :=
  ∀ position name, definition.content.Mentions position name -> registry.Admits position name

/-- All names that the registered definitions mention may be used where they mention them. -/
def IsClosed (registry : TypeRegistry) : Prop :=
  ∀ definition ∈ registry.definitions, registry.Supports definition

variable {registry : TypeRegistry}

theorem supports_input
    {name : String}
    {fields : List InputField}
    {description : Option String}
    (admitted : ∀ field ∈ fields, registry.Admits .input field.type.baseName) :
    registry.Supports ⟨name, .input fields, description⟩ := by
  intro position mentioned mentions
  cases mentions with
  | inputField member => exact admitted _ member

theorem supports_object
    {name : String}
    {fields : List OutputField}
    {description : Option String}
    (answers : ∀ field ∈ fields, registry.Admits .output field.type.baseName)
    (arguments : ∀ field ∈ fields, ∀ argument ∈ field.arguments,
      registry.Admits .input argument.type.baseName) :
    registry.Supports ⟨name, .object fields, description⟩ := by
  intro position mentioned mentions
  cases mentions with
  | outputField member => exact answers _ member
  | argument member isArgument => exact arguments _ member _ isArgument

theorem inputFields?_of_get?
    {name : String}
    {fields : List InputField}
    {description : Option String}
    (found : registry.get? name = some ⟨name, .input fields, description⟩) :
    registry.inputFields? name = some fields := by
  rw [inputFields?, found]

/-- An input type may be used where values are taken. -/
theorem admits_of_inputFields?
    {name : String}
    {fields : List InputField}
    (found : registry.inputFields? name = some fields) :
    registry.Admits .input name := by
  rw [inputFields?] at found
  split at found
  · rename_i registered
    exact .inr ⟨_, registered, rfl⟩
  · cases found

/-- An object type may be used where values are answered. -/
theorem admits_of_objectFields?
    {name : String}
    {fields : List OutputField}
    (found : registry.objectFields? name = some fields) :
    registry.Admits .output name := by
  rw [objectFields?] at found
  split at found
  · rename_i registered
    exact .inr ⟨_, registered, rfl⟩
  · cases found

/-- The enum and the scalar of a column mention no types. -/
theorem supports_columnDefinitions
    (registry : TypeRegistry)
    (column : ColumnCodec) :
    ∀ definition ∈ columnDefinitions column, registry.Supports definition := by
  intro definition isDefinition position name mentions
  rw [columnDefinitions, List.mem_append, Option.mem_toList] at isDefinition
  rcases isDefinition with isEnum | isScalar
  · rw [ColumnCodec.enumDefinition?] at isEnum
    split at isEnum
    · cases isEnum
      cases mentions
    · cases isEnum
  · split at isScalar
    · cases List.mem_singleton.1 isScalar
      cases mentions
    · cases isScalar

end TypeRegistry

theorem ColumnCodec.baseName_outputType (column : ColumnCodec) :
    column.outputType.baseName = column.kind.type.baseName := by
  rw [outputType]
  split
  · rfl
  · exact TypeRef.baseName_required _

theorem baseName_insertField (column : Column) (codec : ColumnCodec) :
    (insertField column codec).type.baseName = codec.kind.type.baseName := by
  rw [insertField]
  split
  · exact TypeRef.baseName_required _
  · rfl

/-- The writable columns have codecs of their table. -/
theorem mem_of_mem_writablePairs
    {table : Table}
    {columns : List ColumnCodec}
    {pair : Column × ColumnCodec}
    (member : pair ∈ writablePairs table columns) :
    pair.2 ∈ columns :=
  (List.of_mem_zip (List.mem_of_mem_filter member)).2

namespace Interface

open TypeRegistry

variable {interface : Interface} {schema : Schema} {config : EngineConfig} {types : TableTypes}

/-- The names that a table gives to its types lead to object types for its rows and to input types
for the arguments of its operations. -/
structure RegistersTypes (interface : Interface) (types : TableTypes) : Prop where
  item : interface.registry.objectFields? (itemTypeName types.name) =
    some (columnFields types.columns)
  selectItem : (interface.registry.objectFields?
    (interface.shapeTypeName (interface.topShape types.name))).isSome = true
  insertInput : interface.registry.inputFields? (insertInputName types.name) =
    some (insertFields types.table types.columns)
  updateInput : interface.registry.inputFields? (updateInputName types.name) =
    some (updateFields types.table types.columns)
  filters : interface.registry.inputFields? (filtersName types.name) =
    some (filterFields types.name types.columns)
  orderBy : interface.registry.inputFields? (orderByName types.name) =
    some (orderFields types.columns)

theorem admits_builtIn
    {position : TypePosition}
    {name : String}
    (isBuiltIn : builtInScalars.contains name = true) :
    interface.registry.Admits position name :=
  .inl isBuiltIn

/-- The names of the types of a table are registered. -/
theorem registersTypes_of_generate
    (generated : generate schema config = .ok interface)
    (member : types ∈ interface.tables) :
    interface.RegistersTypes types := by
  have registers := registers_of_generate generated
  have represents := represents_of_generate generated
  have isInput : ∀ name fields,
      ⟨name, .input fields, none⟩ ∈ tableDefinitions types.table types.columns ->
        interface.registry.inputFields? name = some fields := by
    intro name fields isDefinition
    exact inputFields?_of_get? (registers.tables types member _ isDefinition)
  constructor
  · exact registers.objectFields?_item member
  · obtain ⟨table, tableMember, mapped⟩ :=
      exists_item (mapM_eq_ok.1 represents.tables_eq) types member
    have isShape := Schema.topShape_mem_shapes (validate_of_generate generated) config.depthLimit
      tableMember
    rw [topShape, represents.config_eq, TableTypes.name_ofTable mapped,
      objectFields?_shape generated isShape]
    rfl
  · exact isInput _ _ (List.mem_append_right _ (by simp [TableTypes.name]))
  · exact isInput _ _ (List.mem_append_right _ (by simp [TableTypes.name]))
  · exact isInput _ _ (List.mem_append_right _ (by simp [tableFilterType, filterFields,
      TableTypes.name]))
  · exact isInput _ _ (List.mem_append_right _ (by simp [orderByType, orderFields,
      TableTypes.name]))

/-- The definitions of a generated interface are those of its tables, shapes and operations. -/
theorem exists_origin_of_generate
    (generated : generate schema config = .ok interface)
    {definition : TypeDefinition}
    (member : definition ∈ interface.registry.definitions) :
    definition = orderDirectionDefinition ∨
      (∃ types ∈ interface.tables, definition ∈ tableDefinitions types.table types.columns) ∨
      (∃ shape ∈ schema.shapes config.depthLimit,
        shapeDefinition schema config.depthLimit (columnsOf interface.tables shape.table) shape =
          definition) ∨
      definition ∈ successDefinitions config.mutationResponse ∨
      definition ∈ rootsOf config interface.operations := by
  simp only [generate, bind_eq_ok, pure_eq_ok, Prod.exists] at generated
  obtain ⟨_, _, first, registeredFirst, second, tables, registeredTables, third, registeredShapes,
    fourth, registeredSuccess, _, _, last, registeredRoots, rfl⟩ := generated
  rcases mem_of_registerAll registeredRoots member with member | isRoot
  · rcases mem_of_registerAll registeredSuccess member with member | isSuccess
    · rcases mem_of_registerAll registeredShapes member with member | isShape
      · rcases mem_of_registerTables registeredTables member with member | ofTable
        · rcases mem_of_register registeredFirst member with member | isDirection
          · cases member
          · exact .inl isDirection
        · exact .inr (.inl ofTable)
      · exact .inr (.inr (.inl (List.mem_map.1 isShape)))
    · exact .inr (.inr (.inr (.inl isSuccess)))
  · exact .inr (.inr (.inr (.inr isRoot)))

namespace Registers

variable (registers : interface.Registers)
include registers

/-- The types of values may be used everywhere. -/
theorem admits_value
    (member : types ∈ interface.tables)
    {column : ColumnCodec}
    (isColumn : column ∈ types.columns)
    (position : TypePosition) :
    interface.registry.Admits position column.kind.type.baseName := by
  rcases registers.exists_valueDefinition member isColumn with
    isBuiltIn | ⟨definition, found, isScalar | ⟨_, isEnumeration⟩⟩
  · exact .inl isBuiltIn
  · exact .inr ⟨definition, found, by rw [isScalar]; trivial⟩
  · exact .inr ⟨definition, found, by rw [isEnumeration]; trivial⟩

/-- The types for conditions on a column may be used where values are taken. -/
theorem admits_columnFilter
    (member : types ∈ interface.tables)
    {column : ColumnCodec}
    (isColumn : column ∈ types.columns)
    {name : String}
    {fields : List InputField}
    (isFilter : ⟨name, .input fields, none⟩ ∈ columnFilterTypes types.name column) :
    interface.registry.Admits .input name := by
  refine .inr ⟨_, registers.tables types member ⟨name, .input fields, none⟩ ?_, rfl⟩
  refine List.mem_append_left _ (List.mem_append_right _ ?_)
  exact List.mem_flatMap.2 ⟨column, isColumn, isFilter⟩

theorem admits_operatorFields
    (member : types ∈ interface.tables)
    {column : ColumnCodec}
    (isColumn : column ∈ types.columns) :
    ∀ field ∈ operatorFields column, interface.registry.Admits .input field.type.baseName := by
  have value := registers.admits_value member isColumn .input
  intro field isField
  rw [operatorFields, List.mem_append, List.mem_append, List.mem_map] at isField
  rcases isField with (⟨_, _, rfl⟩ | isPattern) | isRest
  · exact value
  · split at isPattern
    · obtain ⟨_, _, rfl⟩ := List.mem_map.1 isPattern
      exact admits_builtIn rfl
    · cases isPattern
  · simp only [List.mem_cons, List.not_mem_nil, or_false] at isRest
    rcases isRest with rfl | rfl | rfl | rfl
    · rw [TypeRef.baseName, TypeRef.baseName_required]
      exact value
    · rw [TypeRef.baseName, TypeRef.baseName_required]
      exact value
    · exact admits_builtIn rfl
    · exact admits_builtIn rfl

theorem admits_columnFields
    (member : types ∈ interface.tables) :
    ∀ field ∈ columnFields types.columns,
      interface.registry.Admits .output field.type.baseName := by
  intro field isField
  obtain ⟨column, isColumn, rfl⟩ := List.mem_map.1 isField
  rw [column.baseName_outputType]
  exact registers.admits_value member isColumn .output

/-- The types for conditions on a column mention the type of its values and the one for the items
of its `OR` list. -/
theorem supports_columnFilterTypes
    (member : types ∈ interface.tables)
    {column : ColumnCodec}
    (isColumn : column ∈ types.columns) :
    ∀ definition ∈ columnFilterTypes types.name column,
      interface.registry.Supports definition := by
  have operators := registers.admits_operatorFields member isColumn
  have alternatives : interface.registry.Admits .input
      (columnAlternativesName types.name column.column) :=
    registers.admits_columnFilter member isColumn List.mem_cons_self
  intro definition isDefinition
  simp only [columnFilterTypes, List.mem_cons, List.not_mem_nil, or_false] at isDefinition
  rcases isDefinition with rfl | rfl
  · exact supports_input operators
  · refine supports_input (List.forall_mem_append.2 ⟨operators, ?_⟩)
    exact List.forall_mem_singleton.2 alternatives

theorem supports_tableFilterType
    (member : types ∈ interface.tables)
    (registered : interface.RegistersTypes types) :
    interface.registry.Supports (tableFilterType types.name types.columns) := by
  refine supports_input (List.forall_mem_append.2 ⟨?_, ?_⟩)
  · intro field isField
    obtain ⟨column, isColumn, rfl⟩ := List.mem_map.1 isField
    exact registers.admits_columnFilter member isColumn (List.mem_cons_of_mem _ List.mem_cons_self)
  · intro field isField
    obtain ⟨_, _, rfl⟩ := List.mem_map.1 isField
    exact admits_of_inputFields? registered.filters

/-- The definitions of a table mention built-in scalars and the enums and input types of the
table. -/
theorem supports_tableDefinitions
    (member : types ∈ interface.tables)
    (registered : interface.RegistersTypes types) :
    ∀ definition ∈ tableDefinitions types.table types.columns,
      interface.registry.Supports definition := by
  intro definition isDefinition
  rw [tableDefinitions, List.mem_append, List.mem_append, List.mem_flatMap,
    List.mem_flatMap] at isDefinition
  rcases isDefinition with (⟨column, isColumn, isLeaf⟩ | ⟨column, isColumn, isFilter⟩) | ofTable
  · exact supports_columnDefinitions _ column _ isLeaf
  · exact registers.supports_columnFilterTypes member isColumn _ isFilter
  · simp only [List.mem_cons, List.not_mem_nil, or_false] at ofTable
    rcases ofTable with rfl | rfl | rfl | rfl | rfl
    · exact registers.supports_tableFilterType member registered
    · refine supports_input fun field isField => ?_
      obtain ⟨_, _, rfl⟩ := List.mem_map.1 isField
      exact .inr ⟨_, registers.direction, trivial⟩
    · refine supports_input fun field isField => ?_
      obtain ⟨pair, isPair, rfl⟩ := List.mem_map.1 isField
      rw [baseName_insertField]
      exact registers.admits_value member (mem_of_mem_writablePairs isPair) .input
    · refine supports_input fun field isField => ?_
      obtain ⟨pair, isPair, rfl⟩ := List.mem_map.1 isField
      exact registers.admits_value member (mem_of_mem_writablePairs isPair) .input
    · refine supports_object (registers.admits_columnFields member) fun field isField => ?_
      obtain ⟨_, _, rfl⟩ := List.mem_map.1 isField
      simp

end Registers

/-- Every shape of the schema is for a table of the interface. -/
theorem exists_types_of_shape
    (generated : generate schema config = .ok interface)
    {shape : Shape}
    (member : shape ∈ schema.shapes config.depthLimit) :
    ∃ types ∈ interface.tables, types.name = shape.table := by
  obtain ⟨⟨table, tableMember, sameName⟩, _⟩ := Schema.mem_possibleShapes.1
    (Schema.mem_possibleShapes_of_mem_shapes (validate_of_generate generated) member)
  obtain ⟨types, typesMember, mapped, _⟩ :=
    (represents_of_generate generated).exists_table? tableMember
  exact ⟨types, typesMember, (TableTypes.name_ofTable mapped).trans sameName⟩

theorem mem_of_mem_columnsOf
    {tables : List TableTypes}
    {name : String}
    {column : ColumnCodec}
    (member : column ∈ columnsOf tables name) :
    ∃ types ∈ tables, column ∈ types.columns := by
  rw [columnsOf] at member
  split at member
  · rename_i types found
    exact ⟨types, List.mem_of_find?_eq_some found, member⟩
  · cases member

/-- The type of a shape mentions the types of its columns, the types of the shapes that its
relations lead to, and the conditions and orders of their tables. -/
theorem supports_shapeDefinition
    (generated : generate schema config = .ok interface)
    {shape : Shape}
    (member : shape ∈ schema.shapes config.depthLimit) :
    interface.registry.Supports (shapeDefinition schema config.depthLimit
      (columnsOf interface.tables shape.table) shape) := by
  have registers := registers_of_generate generated
  have represents := represents_of_generate generated
  have valid := validate_of_generate generated
  refine supports_object (List.forall_mem_append.2 ⟨?_, ?_⟩) (List.forall_mem_append.2 ⟨?_, ?_⟩)
  · intro field isField
    obtain ⟨column, isColumn, rfl⟩ := List.mem_map.1 isField
    obtain ⟨types, typesMember, isColumn⟩ := mem_of_mem_columnsOf isColumn
    exact registers.admits_columnFields typesMember _ (List.mem_map_of_mem isColumn)
  · intro field isField
    obtain ⟨relation, isRelation, rfl⟩ := List.mem_map.1 isField
    have isShape := Schema.child_mem_shapes valid member (List.mem_map_of_mem isRelation)
    rw [baseName_relationField, ← represents.config_eq]
    exact admits_of_objectFields? (objectFields?_shape generated isShape)
  · intro field isField
    obtain ⟨_, _, rfl⟩ := List.mem_map.1 isField
    simp
  · intro field isField argument isArgument
    obtain ⟨relation, isRelation, rfl⟩ := List.mem_map.1 isField
    obtain ⟨types, typesMember, isTarget⟩ := exists_types_of_shape generated
      (Schema.child_mem_shapes valid member (List.mem_map_of_mem isRelation))
    have registered := registersTypes_of_generate generated typesMember
    have filters := admits_of_inputFields? registered.filters
    have orderBy := admits_of_inputFields? registered.orderBy
    rw [isTarget] at filters orderBy
    rw [relationField] at isArgument
    split at isArgument <;> simp only [List.mem_cons, List.not_mem_nil, or_false] at isArgument
    · rcases isArgument with rfl | rfl
      · exact filters
      · exact orderBy
    · rcases isArgument with rfl | rfl | rfl | rfl
      · exact filters
      · exact orderBy
      · exact admits_builtIn rfl
      · exact admits_builtIn rfl

theorem supports_successDefinitions (response : MutationResponse) :
    ∀ definition ∈ successDefinitions response, interface.registry.Supports definition := by
  intro definition isDefinition
  cases response with
  | returning => cases isDefinition
  | success =>
      cases List.mem_singleton.1 isDefinition
      exact supports_object (List.forall_mem_singleton.2 (admits_builtIn rfl)) (by simp)

/-- The root field of an operation takes the inputs of its table and answers its rows or its
success. -/
theorem admits_rootField
    (generated : generate schema config = .ok interface)
    {operation : Operation}
    (member : operation ∈ interface.operations) :
    interface.registry.Admits .output (rootFieldOf config operation).type.baseName ∧
      ∀ argument ∈ (rootFieldOf config operation).arguments,
        interface.registry.Admits .input argument.type.baseName := by
  have represents := represents_of_generate generated
  obtain ⟨table, tableMember, sameName⟩ := represents.mem_operations.1 member
  obtain ⟨types, typesMember, mapped, _⟩ := represents.exists_table? tableMember
  have isTable : types.name = operation.table := (TableTypes.name_ofTable mapped).trans sameName
  have registered := registersTypes_of_generate generated typesMember
  have item := admits_of_objectFields? registered.item
  obtain ⟨_, isSelectItem⟩ := Option.isSome_iff_exists.1 registered.selectItem
  have selectItem := admits_of_objectFields? isSelectItem
  have insertInput := admits_of_inputFields? registered.insertInput
  have updateInput := admits_of_inputFields? registered.updateInput
  have filters := admits_of_inputFields? registered.filters
  have orderBy := admits_of_inputFields? registered.orderBy
  rw [shapeTypeName, topShape, represents.config_eq] at selectItem
  rw [isTable] at item selectItem insertInput updateInput filters orderBy
  obtain ⟨kind, name⟩ := operation
  constructor
  · cases isMutation : kind.isMutation with
    | false =>
        cases kind with
        | selectMany | selectOne => exact selectItem
        | _ => cases isMutation
    | true =>
        cases response : config.mutationResponse with
        | returning =>
            rw [rootFieldOf, response]
            cases kind with
            | selectMany | selectOne => cases isMutation
            | _ => exact item
        | success =>
            have registers := registers_of_generate generated
            rw [← represents.config_eq] at response ⊢
            exact admits_of_objectFields? (registers.objectFields?_success isMutation response)
  · rw [rootFieldOf, Operation.rootField, Operation.arguments]
    cases kind <;>
      simp only [List.forall_mem_cons, List.not_mem_nil, false_imp_iff, implies_true, and_true]
    · exact ⟨admits_builtIn rfl, admits_builtIn rfl, orderBy, filters⟩
    · exact ⟨admits_builtIn rfl, orderBy, filters⟩
    · exact insertInput
    · exact insertInput
    · exact ⟨updateInput, filters⟩
    · exact filters

theorem supports_rootDefinitions
    (generated : generate schema config = .ok interface)
    {name : String}
    {operations : List Operation}
    (members : ∀ operation ∈ operations, operation ∈ interface.operations) :
    ∀ definition ∈ rootDefinitions name (operations.map (rootFieldOf config)),
      interface.registry.Supports definition := by
  have admitted : ∀ operation ∈ operations, _ :=
    fun operation member => admits_rootField generated (members operation member)
  intro definition isDefinition
  rw [rootDefinitions] at isDefinition
  split at isDefinition
  · cases isDefinition
  · cases List.mem_singleton.1 isDefinition
    refine supports_object ?_ ?_
    · exact List.forall_mem_map.2 fun operation member => (admitted operation member).1
    · exact List.forall_mem_map.2 fun operation member => (admitted operation member).2

/-- In a generated interface every name that a definition mentions is that of a built-in scalar or
of a registered definition of a kind that fits its place, and the names that a table gives to its
types are registered with the kinds that the operations on the table expect. -/
theorem isClosed_of_generate
    (generated : generate schema config = .ok interface) :
    interface.registry.IsClosed ∧ ∀ types ∈ interface.tables, interface.RegistersTypes types := by
  have registers := registers_of_generate generated
  have represents := represents_of_generate generated
  constructor
  · intro definition member
    rcases exists_origin_of_generate generated member with
      rfl | ⟨types, typesMember, ofTable⟩ | ⟨shape, isShape, rfl⟩ | isSuccess | isRoot
    · rintro _ _ ⟨⟩
    · exact registers.supports_tableDefinitions typesMember
        (registersTypes_of_generate generated typesMember) _ ofTable
    · exact supports_shapeDefinition generated isShape
    · exact supports_successDefinitions config.mutationResponse _ isSuccess
    · rcases List.mem_append.1 isRoot with isQuery | isMutation
      · exact supports_rootDefinitions generated (fun _ => List.mem_of_mem_filter) _ isQuery
      · exact supports_rootDefinitions generated (fun _ => List.mem_of_mem_filter) _ isMutation
  · exact fun types member => registersTypes_of_generate generated member

/-- Products with enums and documents inside lists, and with products as their parts. -/
def shop : Schema :=
  (Schema.empty.withTable
    { name := "products"
      columns :=
        [ { name := "id", kind := .integer 64 true, primaryKey := true },
          { name := "sizes", kind := .array (.array (.enumeration "size" ["small", "large"])) },
          { name := "notes", kind := .array .json, nullable := true } ] }).withRelation
    { name := "parts", source := "products", target := "products", cardinality := .many }

theorem isClosed_shop :
    ∃ interface, generate shop { depthLimit := some 1, mutationResponse := .success } =
        .ok interface ∧
      interface.registry.IsClosed ∧
      (∃ types ∈ interface.tables, types.name = "products" ∧ interface.RegistersTypes types) ∧
      interface.registry.enumValues? "SizeEnum" = some ["small", "large"] := by
  have generates :
      ((generate shop { depthLimit := some 1, mutationResponse := .success }).toOption.map
        fun interface =>
          (interface.tables.map (·.name), interface.registry.enumValues? "SizeEnum")) =
        some (["products"], some ["small", "large"]) := by
    decide +kernel
  obtain ⟨interface, generated, isShop⟩ := Option.map_eq_some_iff.1 generates
  rw [toOption_eq_some] at generated
  rw [Prod.mk.injEq] at isShop
  obtain ⟨isClosed, registersTypes⟩ := isClosed_of_generate generated
  have isName : "products" ∈ interface.tables.map (·.name) := by
    rw [isShop.1]
    exact List.mem_singleton_self _
  obtain ⟨types, member, isProducts⟩ := List.mem_map.1 isName
  exact ⟨interface, generated, isClosed, ⟨types, member, isProducts, registersTypes types member⟩,
    isShop.2⟩

end Interface
end RelationalApi
