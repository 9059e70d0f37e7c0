import RelationalApi.Proofs.Interface.OperationNames
import RelationalApi.Proofs.Request.WrittenFields

/-!
# Members of types

The fields of the types of a table are named for its columns, for its relations, and for operators,
combinators and arguments whose names are fixed.  A valid schema keeps its relations apart from
columns and from each other.  It does not keep columns from each other, and it does not keep them
from the combinators of conditions; in an interface these are the only names that can meet.
-/

namespace RelationalApi

open Outcome

/-- The fields of a definition have names of their own, and so have the arguments of each field. -/
def TypeContent.HasDistinctMembers : TypeContent -> Prop
  | .scalar => True
  | .enumeration _ => True
  | .input fields => (fields.map (·.name)).Nodup
  | .object fields =>
      (fields.map (·.name)).Nodup ∧ ∀ field ∈ fields, (field.arguments.map (·.name)).Nodup

/-- All registered definitions have distinct members. -/
def TypeRegistry.HasDistinctMembers (registry : TypeRegistry) : Prop :=
  ∀ definition ∈ registry.definitions, definition.content.HasDistinctMembers

/-- The columns of a table have names of their own, none of which combines conditions. -/
structure Table.SeparatesMembers (table : Table) : Prop where
  columns : table.columnNames.Nodup
  combinators : ∀ name ∈ table.columnNames, Combinator.ofKey? name = none

/-- A field is the only one of its name. -/
def IsOnlyField {Field : Type} (name : Field -> String) (fields : List Field) (field : Field) :
    Prop :=
  fields.filter (fun other => name other == name field) = [field]

/-- A column has a field of its own in every type of its table: in conditions and orders, in the
rows that mutations return, and in the rows of every shape.  If the column is not generated, it also
has one in the inputs of inserts and updates. -/
structure Interface.GivesOwnFields (interface : Interface) (table : Table) (column : Column)
    (codec : ColumnCodec) : Prop where
  filters : ∃ fields, interface.registry.inputFields? (filtersName table.name) = some fields ∧
    IsOnlyField (·.name) fields
      ⟨column.name, .named (columnFiltersName table.name column.name), none⟩
  orderBy : ∃ fields, interface.registry.inputFields? (orderByName table.name) = some fields ∧
    IsOnlyField (·.name) fields ⟨column.name, .named orderDirectionType, none⟩
  insert : column.isWritable = true ->
    ∃ fields, interface.registry.inputFields? (insertInputName table.name) = some fields ∧
      IsOnlyField (·.name) fields (insertField column codec)
  update : column.isWritable = true ->
    ∃ fields, interface.registry.inputFields? (updateInputName table.name) = some fields ∧
      IsOnlyField (·.name) fields ⟨column.name, codec.kind.type, none⟩
  item : ∃ fields, interface.registry.objectFields? (itemTypeName table.name) = some fields ∧
    IsOnlyField (·.name) fields { name := column.name, type := codec.outputType }
  shapes : ∀ shape ∈ interface.schema.shapes interface.config.depthLimit,
    shape.table = table.name ->
      ∃ fields, interface.registry.objectFields? (interface.shapeTypeName shape) = some fields ∧
        IsOnlyField (·.name) fields { name := column.name, type := codec.outputType }

/-- Among fields with distinct names every field is the only one of its name. -/
theorem isOnlyField_of_nodup
    {Field : Type}
    {name : Field -> String}
    {fields : List Field}
    {field : Field}
    (distinct : (fields.map name).Nodup)
    (member : field ∈ fields) :
    IsOnlyField name fields field := by
  rw [IsOnlyField]
  induction fields with
  | nil => cases member
  | cons first fields inductionHypothesis =>
      rw [List.map_cons, List.nodup_cons] at distinct
      rcases List.mem_cons.1 member with rfl | later
      · have noOther : fields.filter (fun other => name other == name field) = [] := by
          rw [List.filter_eq_nil_iff]
          intro other isOther isNamed
          exact distinct.1 (beq_iff_eq.1 isNamed ▸ List.mem_map_of_mem isOther)
        rw [List.filter_cons, if_pos (beq_self_eq_true _), noOther]
      · have different : (name first == name field) = false := by
          rw [beq_eq_false_iff_ne]
          intro same
          exact distinct.1 (same ▸ List.mem_map_of_mem later)
        rw [List.filter_cons, different, if_neg Bool.false_ne_true]
        exact inductionHypothesis distinct.2 later

section Names

variable {column : ColumnCodec} {columns : List ColumnCodec} {table : Table} {types : TableTypes}

theorem mem_combinatorNames_iff {name : String} :
    name ∈ ["AND", "OR", "NOT"] ↔ Combinator.ofKey? name ≠ none := by
  simp only [List.mem_cons, List.not_mem_nil, or_false, Combinator.ofKey?]
  split_ifs <;> simp_all

theorem columnFilterFields_nodup (table : String) (column : ColumnCodec) :
    ((columnFilterFields table column).map (·.name)).Nodup := by
  rw [columnFilterFields, operatorFields]
  cases column.isText <;>
    simp [comparisonOperators, patternOperators]

theorem operatorFields_nodup (column : ColumnCodec) :
    ((operatorFields column).map (·.name)).Nodup := by
  have distinct := columnFilterFields_nodup "" column
  rw [columnFilterFields, List.map_append] at distinct
  exact distinct.of_append_left

/-- The fields for conditions have distinct names exactly where the columns are apart from each
other and from the combinators. -/
theorem filterFields_nodup_iff (table : String) (columns : List ColumnCodec) :
    ((filterFields table columns).map (·.name)).Nodup ↔
      (columns.map (·.column)).Nodup ∧
        ∀ name ∈ columns.map (·.column), Combinator.ofKey? name = none := by
  have names : (filterFields table columns).map (·.name) =
      columns.map (·.column) ++ ["AND", "OR", "NOT"] := by
    simp [filterFields]
  have combinatorsApart : ["AND", "OR", "NOT"].Nodup := by decide
  rw [names, List.nodup_append']
  refine and_congr_right fun _ => ?_
  simp only [List.Disjoint, mem_combinatorNames_iff, combinatorsApart, true_and]
  exact forall_congr' fun name => imp_congr_right fun _ => not_not

theorem orderFields_names (columns : List ColumnCodec) :
    (orderFields columns).map (·.name) = columns.map (·.column) := by
  rw [orderFields, List.map_map]
  rfl

theorem columnFields_names (columns : List ColumnCodec) :
    (columnFields columns).map (·.name) = columns.map (·.column) := by
  rw [columnFields, List.map_map]
  rfl

/-- Inputs of rows have a field for each writable column. -/
theorem inputFields_nodup
    (mapped : TableTypes.ofTable table = .ok types)
    (distinct : table.columnNames.Nodup)
    {field : Column × ColumnCodec -> InputField}
    (named : ∀ pair, (field pair).name = pair.1.name) :
    (((writablePairs types.table types.columns).map field).map (·.name)).Nodup := by
  rw [← (TableTypes.ofTable_eq_ok mapped).1] at distinct
  rw [List.map_map]
  change (List.map (fun pair => (field pair).name) _).Nodup
  rw [List.map_congr_left fun pair _ => named pair]
  exact (writableNames_sublist mapped).nodup distinct

/-- Every column of a table stands next to its codec. -/
theorem exists_codec
    (mapped : TableTypes.ofTable table = .ok types)
    {column : Column}
    (isColumn : column ∈ table.columns) :
    ∃ codec, (column, codec) ∈ types.table.columns.zip types.columns ∧
      ColumnCodec.ofColumn table.name column = .ok codec := by
  obtain ⟨sameTable, codecs, _⟩ := TableTypes.ofTable_eq_ok mapped
  rw [← sameTable] at codecs isColumn ⊢
  rw [← map_fst_zip_columns mapped] at isColumn
  obtain ⟨⟨_, codec⟩, isPair, rfl⟩ := List.mem_map.1 isColumn
  exact ⟨codec, isPair, (List.forall₂_iff_zip.1 (mapM_eq_ok.1 codecs)).2 isPair⟩

theorem hasDistinctMembers_columnDefinitions (column : ColumnCodec) :
    ∀ definition ∈ columnDefinitions column, definition.content.HasDistinctMembers := by
  intro definition isDefinition
  rw [columnDefinitions, List.mem_append, Option.mem_toList] at isDefinition
  rcases isDefinition with isEnum | isScalar
  · rw [ColumnCodec.enumDefinition?] at isEnum
    split at isEnum
    · cases isEnum
      trivial
    · cases isEnum
  · split at isScalar
    · cases List.mem_singleton.1 isScalar
      trivial
    · cases isScalar

theorem hasDistinctMembers_columnFilterTypes (table : String) (column : ColumnCodec) :
    ∀ definition ∈ columnFilterTypes table column, definition.content.HasDistinctMembers := by
  rw [columnFilterTypes, List.forall_mem_cons, List.forall_mem_singleton]
  exact ⟨operatorFields_nodup column, columnFilterFields_nodup table column⟩

/-- The types of a table that separates its members have distinct members. -/
theorem hasDistinctMembers_tableDefinitions
    (mapped : TableTypes.ofTable table = .ok types)
    (apart : table.SeparatesMembers) :
    ∀ definition ∈ tableDefinitions types.table types.columns,
      definition.content.HasDistinctMembers := by
  have names := ColumnCodec.map_column_ofTable (TableTypes.ofTable_eq_ok mapped).2.1
  have distinct : (types.columns.map (·.column)).Nodup := names ▸ apart.columns
  intro definition isDefinition
  rw [tableDefinitions, List.mem_append, List.mem_append, List.mem_flatMap,
    List.mem_flatMap] at isDefinition
  rcases isDefinition with (⟨column, _, isLeaf⟩ | ⟨column, _, isFilter⟩) | ofTable
  · exact hasDistinctMembers_columnDefinitions column _ isLeaf
  · exact hasDistinctMembers_columnFilterTypes _ column _ isFilter
  · simp only [List.mem_cons, List.not_mem_nil, or_false] at ofTable
    rcases ofTable with rfl | rfl | rfl | rfl | rfl
    · exact (filterFields_nodup_iff _ _).2 ⟨distinct, names ▸ apart.combinators⟩
    · have own : ((orderFields types.columns).map (·.name)).Nodup := by rwa [orderFields_names]
      exact own
    · exact inputFields_nodup mapped apart.columns fun _ => rfl
    · exact inputFields_nodup mapped apart.columns fun _ => rfl
    · have own : ((columnFields types.columns).map (·.name)).Nodup := by rwa [columnFields_names]
      exact ⟨own, List.forall_mem_map.2 fun _ _ => List.nodup_nil⟩

theorem relationField_arguments_nodup
    (limit : Option Nat)
    (shape : Shape)
    (relation : Relation) :
    ((relationField limit shape relation).arguments.map (·.name)).Nodup := by
  rw [relationField]
  cases relation.cardinality <;> simp

/-- The arguments of an operation are named by its kind. -/
theorem Operation.arguments_nodup (operation : Operation) :
    (operation.arguments.map (·.name)).Nodup := by
  have named : operation.arguments.map (·.name) = operation.kind.argumentNames := by
    obtain ⟨kind, table⟩ := operation
    cases kind <;> rfl
  rw [named]
  cases operation.kind <;> decide

end Names

namespace Interface

variable {interface : Interface} {schema : Schema} {config : EngineConfig} {shape : Shape}
variable {table : Table} {types : TableTypes}

/-- The fields of a shape are columns and relations, which a valid schema keeps apart. -/
theorem shapeFields_nodup
    (valid : schema.validate = .ok ())
    (member : table ∈ schema.tables)
    (isShape : shape.table = table.name)
    (mapped : TableTypes.ofTable table = .ok types)
    (distinct : table.columnNames.Nodup)
    (limit : Option Nat) :
    ((columnFields types.columns ++ (shape.relations schema).map (relationField limit shape)).map
      (·.name)).Nodup := by
  have names := ColumnCodec.map_column_ofTable (TableTypes.ofTable_eq_ok mapped).2.1
  have relations : (shape.relations schema).Sublist (schema.relationsOf table.name) := by
    rw [Shape.relations, isShape]
    split
    · exact List.nil_sublist _
    · exact List.Sublist.refl _
  have relationNames : (fun field : OutputField => field.name) ∘ relationField limit shape =
      fun relation => relation.name :=
    funext (name_relationField limit shape)
  rw [List.map_append, columnFields_names, names, List.map_map, relationNames,
    List.nodup_append']
  refine ⟨distinct, (relations.map _).nodup (Schema.relationNames_nodup_of_valid valid member),
    fun name isColumn isRelation => ?_⟩
  obtain ⟨relation, related, rfl⟩ := List.mem_map.1 isRelation
  exact (Schema.relation_of_valid valid member (relations.subset related)).1 isColumn

theorem hasDistinctMembers_shapeDefinition
    (valid : schema.validate = .ok ())
    (member : table ∈ schema.tables)
    (isShape : shape.table = table.name)
    (mapped : TableTypes.ofTable table = .ok types)
    (distinct : table.columnNames.Nodup)
    (limit : Option Nat) :
    (shapeDefinition schema limit types.columns shape).content.HasDistinctMembers := by
  refine ⟨shapeFields_nodup valid member isShape mapped distinct limit,
    List.forall_mem_append.2 ⟨?_, ?_⟩⟩
  · exact List.forall_mem_map.2 fun _ _ => List.nodup_nil
  · exact List.forall_mem_map.2 fun relation _ => relationField_arguments_nodup _ _ relation

theorem hasDistinctMembers_successDefinitions (response : MutationResponse) :
    ∀ definition ∈ successDefinitions response, definition.content.HasDistinctMembers := by
  cases response with
  | returning => exact fun _ isDefinition => (nomatch isDefinition)
  | success =>
      exact List.forall_mem_singleton.2
        ⟨List.nodup_singleton _, List.forall_mem_singleton.2 List.nodup_nil⟩

/-- The fields of a root are operations, which have names of their own. -/
theorem hasDistinctMembers_rootDefinitions
    (represents : interface.Represents schema config)
    (name : String)
    (isOfRoot : Operation -> Bool) :
    ∀ definition ∈ rootDefinitions name
        ((interface.operations.filter isOfRoot).map (rootFieldOf config)),
      definition.content.HasDistinctMembers := by
  have names := checkOperationNames_iff_nodup.1 represents.operationNames
  intro definition isDefinition
  rw [rootDefinitions] at isDefinition
  split at isDefinition
  · cases isDefinition
  · cases List.mem_singleton.1 isDefinition
    refine ⟨?_, List.forall_mem_map.2 fun operation _ => operation.arguments_nodup⟩
    rw [List.map_map]
    exact (List.filter_sublist.map _).nodup names

/-- The definitions of an interface whose tables separate their members have distinct members. -/
theorem hasDistinctMembers_of_separates
    (generated : generate schema config = .ok interface)
    (apart : ∀ table ∈ schema.tables, table.SeparatesMembers) :
    interface.registry.HasDistinctMembers := by
  have valid := validate_of_generate generated
  have represents := represents_of_generate generated
  intro definition member
  rcases exists_origin_of_generate generated member with
    rfl | ⟨types, typesMember, ofTable⟩ | ⟨shape, isShape, rfl⟩ | isSuccess | isRoot
  · trivial
  · obtain ⟨table, tableMember, mapped⟩ :=
      exists_item (mapM_eq_ok.1 represents.tables_eq) types typesMember
    exact hasDistinctMembers_tableDefinitions mapped (apart table tableMember) _ ofTable
  · obtain ⟨⟨table, tableMember, sameName⟩, _⟩ :=
      Schema.mem_possibleShapes.1 (Schema.mem_possibleShapes_of_mem_shapes valid isShape)
    obtain ⟨types, found, sameColumns, _⟩ := represents.columnsOf_eq tableMember
    obtain ⟨other, isOther, mapped⟩ := represents.table?_eq_some.1 found
    rw [Schema.table?_name tableMember, Option.some.injEq] at isOther
    subst isOther
    rw [← sameName, sameColumns]
    exact hasDistinctMembers_shapeDefinition valid tableMember sameName.symm mapped
      (apart table tableMember).columns _
  · exact hasDistinctMembers_successDefinitions _ _ isSuccess
  · rcases List.mem_append.1 isRoot with isQuery | isMutation
    · exact hasDistinctMembers_rootDefinitions represents _ _ _ isQuery
    · exact hasDistinctMembers_rootDefinitions represents _ _ _ isMutation

/-- Tables of an interface with distinct members separate theirs, as conditions have a field for
each column and each combinator. -/
theorem separates_of_hasDistinctMembers
    (generated : generate schema config = .ok interface)
    (distinct : interface.registry.HasDistinctMembers)
    (member : table ∈ schema.tables) :
    table.SeparatesMembers := by
  obtain ⟨types, typesMember, mapped, _⟩ :=
    (represents_of_generate generated).exists_table? member
  have names := ColumnCodec.map_column_ofTable (TableTypes.ofTable_eq_ok mapped).2.1
  have isFilters : tableFilterType types.table.name types.columns ∈
      tableDefinitions types.table types.columns :=
    List.mem_append_right _ List.mem_cons_self
  have registered := (registers_of_generate generated).tables types typesMember _ isFilters
  have own := distinct _ (TypeRegistry.mem_of_get? registered)
  obtain ⟨columns, combinators⟩ := (filterFields_nodup_iff types.table.name types.columns).1 own
  exact ⟨names ▸ columns, names ▸ combinators⟩

/-- A column of a table that separates its members has fields of its own. -/
theorem givesOwnFields_of_separates
    (generated : generate schema config = .ok interface)
    (member : table ∈ schema.tables)
    (apart : table.SeparatesMembers)
    {column : Column}
    (isColumn : column ∈ table.columns) :
    ∃ codec, ColumnCodec.ofColumn table.name column = .ok codec ∧
      interface.GivesOwnFields table column codec := by
  have represents := represents_of_generate generated
  obtain ⟨types, typesMember, mapped, found⟩ := represents.exists_table? member
  have registered := registersTypes_of_generate generated typesMember
  have sameName := TableTypes.name_ofTable mapped
  have names := ColumnCodec.map_column_ofTable (TableTypes.ofTable_eq_ok mapped).2.1
  have distinct : (types.columns.map (·.column)).Nodup := names ▸ apart.columns
  obtain ⟨codec, isPair, mappedColumn⟩ := exists_codec mapped isColumn
  have isCodec := (List.of_mem_zip isPair).2
  refine ⟨codec, mappedColumn, ?_⟩
  obtain ⟨kind, _, isBuilt⟩ := bind_eq_ok.1 mappedColumn
  cases isBuilt
  have isOutput : _ ∈ columnFields types.columns := List.mem_map_of_mem isCodec
  constructor
  · refine ⟨_, sameName ▸ registered.filters, isOnlyField_of_nodup ?_ ?_⟩
    · exact (filterFields_nodup_iff _ _).2 ⟨distinct, names ▸ apart.combinators⟩
    · exact List.mem_append_left _ (sameName ▸ List.mem_map_of_mem isCodec)
  · refine ⟨_, sameName ▸ registered.orderBy, isOnlyField_of_nodup ?_ ?_⟩
    · rwa [orderFields_names]
    · exact List.mem_map_of_mem isCodec
  · intro isWritable
    refine ⟨_, sameName ▸ registered.insertInput, isOnlyField_of_nodup ?_ ?_⟩
    · exact inputFields_nodup mapped apart.columns fun _ => rfl
    · exact List.mem_map_of_mem (List.mem_filter.2 ⟨isPair, isWritable⟩)
  · intro isWritable
    refine ⟨_, sameName ▸ registered.updateInput, isOnlyField_of_nodup ?_ ?_⟩
    · exact inputFields_nodup mapped apart.columns fun _ => rfl
    · exact List.mem_map_of_mem (List.mem_filter.2 ⟨isPair, isWritable⟩)
  · refine ⟨_, sameName ▸ registered.item, isOnlyField_of_nodup ?_ isOutput⟩
    rwa [columnFields_names]
  · intro shape isShape ofTable
    rw [represents.schema_eq, represents.config_eq] at isShape
    obtain ⟨other, foundAgain, sameColumns, _⟩ := represents.columnsOf_eq member
    rw [found, Option.some.injEq] at foundAgain
    subst foundAgain
    have registeredShape := objectFields?_shape generated isShape
    rw [ofTable, sameColumns] at registeredShape
    refine ⟨_, registeredShape, isOnlyField_of_nodup ?_ (List.mem_append_left _ isOutput)⟩
    exact shapeFields_nodup (validate_of_generate generated) member ofTable mapped apart.columns _

/-- A generated interface has distinct members exactly where the columns of every table have names
of their own, none of which combines conditions.  Every column of a table where they do has fields
of its own, whatever the other tables are. -/
theorem distinctMembers_iff_separates
    (generated : generate schema config = .ok interface) :
    (interface.registry.HasDistinctMembers ↔ ∀ table ∈ schema.tables, table.SeparatesMembers) ∧
      ∀ table ∈ schema.tables, table.SeparatesMembers -> ∀ column ∈ table.columns,
        ∃ codec, ColumnCodec.ofColumn table.name column = .ok codec ∧
          interface.GivesOwnFields table column codec := by
  refine ⟨⟨fun distinct table member => ?_, fun apart => ?_⟩, fun table member apart column => ?_⟩
  · exact separates_of_hasDistinctMembers generated distinct member
  · exact hasDistinctMembers_of_separates generated apart
  · exact givesOwnFields_of_separates generated member apart

/-- Notes with a column that the storage computes, and with notes as their parts. -/
def notebook : Schema :=
  (Schema.empty.withTable
    { name := "notes"
      columns :=
        [ { name := "id", kind := .integer 32 false, primaryKey := true },
          { name := "title", kind := .text none },
          { name := "slug", kind := .text none, generated := true } ] }).withRelation
    { name := "parts", source := "notes", target := "notes", cardinality := .many }

theorem distinctMembers_notebook :
    ∃ interface, generate notebook { depthLimit := some 1 } = .ok interface ∧
      interface.registry.HasDistinctMembers ∧
      ∀ table ∈ notebook.tables, ∀ column ∈ table.columns,
        ∃ codec, ColumnCodec.ofColumn table.name column = .ok codec ∧
          interface.GivesOwnFields table column codec := by
  have generates : (generate notebook { depthLimit := some 1 }).toOption.isSome = true := by
    decide +kernel
  obtain ⟨interface, generated⟩ := Option.isSome_iff_exists.1 generates
  rw [toOption_eq_some] at generated
  have apart : ∀ table ∈ notebook.tables, table.SeparatesMembers :=
    List.forall_mem_singleton.2 ⟨by decide, by decide⟩
  obtain ⟨members, ownFields⟩ := distinctMembers_iff_separates generated
  exact ⟨interface, generated, members.2 apart,
    fun table member => ownFields table member (apart table member)⟩

/-- Rules with a column that is named like the key for conjunctions. -/
def rules : Schema :=
  Schema.empty.withTable
    { name := "rules"
      columns :=
        [ { name := "id", kind := .integer 32 false, primaryKey := true },
          { name := "AND", kind := .text none } ] }

/-- The interface of the rules is generated, and some of its members share a name. -/
theorem not_distinctMembers_rules :
    ∃ interface, generate rules {} = .ok interface ∧ ¬interface.registry.HasDistinctMembers := by
  have generates : (generate rules {}).toOption.isSome = true := by
    decide +kernel
  obtain ⟨interface, generated⟩ := Option.isSome_iff_exists.1 generates
  rw [toOption_eq_some] at generated
  refine ⟨interface, generated, fun distinct => ?_⟩
  have apart := separates_of_hasDistinctMembers generated distinct List.mem_cons_self
  exact absurd (apart.combinators "AND" (by decide)) (by decide)

end Interface

end RelationalApi
