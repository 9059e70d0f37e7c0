import Mathlib.Logic.Relation
import RelationalApi.Proofs.Interface.Generation
import RelationalApi.Proofs.Interface.Shapes
import RelationalApi.Proofs.Types.Registry

/-!
# Paths of relations

A path of relation names that can be walked from a table of the schema can be walked from a shape
of the table exactly as far as the shape may still follow relations.  The types that are registered
for shapes can be walked just as their shapes: the type of a shape has the columns of its table, and
below them a field for each relation, which leads to the type of the next shape.
-/

namespace RelationalApi

open Outcome

/-- The table at the end of a path of relation names from a table, if there are such relations. -/
def Schema.tableAlong? (schema : Schema) (table : String) : List String -> Option String
  | [] => some table
  | name :: names =>
      (schema.relation? table name).bind fun relation => schema.tableAlong? relation.target names

/-- The shape at the end of a path of relation names, if the relations may be followed. -/
def Shape.along? (schema : Schema) (shape : Shape) : List String -> Option Shape
  | [] => some shape
  | name :: names =>
      (shape.relation? schema name).bind fun relation => (shape.follow relation).along? schema names

/-- The type at the end of a path of fields, if the types of the fields on it are object types. -/
def TypeRegistry.typeAlong? (registry : TypeRegistry) (type : String) : List String -> Option String
  | [] => (registry.objectFields? type).map fun _ => type
  | name :: names =>
      (registry.objectFields? type).bind fun fields =>
        (fields.find? fun field => field.name == name).bind fun field =>
          registry.typeAlong? field.type.baseName names

namespace Shape

variable {schema : Schema} {shape reached : Shape} {relation : Relation} {name : String}
variable {path : List String}

/-- A shape may follow a relation of its table unless none is left to follow. -/
theorem relation?_eq_some :
    shape.relation? schema name = some relation ↔
      shape.remaining ≠ some 0 ∧ schema.relation? shape.table name = some relation := by
  rw [relation?, relations, Schema.relation?]
  split <;> simp_all

/-- A path of the schema is walked from a shape as far as the shape may follow relations, and ends
at a shape of the last table that may follow as many relations fewer as the path has. -/
theorem along?_eq_some_iff
    {table : String}
    (walkable : schema.tableAlong? shape.table path = some table) :
    shape.along? schema path = some reached ↔
      Within shape.remaining path.length ∧
        (⟨table, shape.remaining.map (· - path.length)⟩ : Shape) = reached := by
  induction path generalizing shape with
  | nil =>
      obtain ⟨name, remaining⟩ := shape
      rw [Schema.tableAlong?, Option.some.injEq] at walkable
      rw [along?, Option.some.injEq, ← walkable]
      cases remaining <;> simp [within_none]
  | cons name path inductionHypothesis =>
      rw [Schema.tableAlong?, Option.bind_eq_some_iff] at walkable
      obtain ⟨relation, found, walkableOn⟩ := walkable
      have onward := @inductionHypothesis (shape.follow relation) walkableOn
      rw [along?, Option.bind_eq_some_iff]
      simp only [relation?_eq_some, found, Option.some.injEq]
      obtain ⟨source, remaining⟩ := shape
      cases remaining with
      | none =>
          simp only [follow, Option.map_none, within_none, true_and] at onward ⊢
          rw [← onward]
          simp
      | some left =>
          simp only [follow, Option.map_some, within_some, List.length_cons] at onward ⊢
          cases left with
          | zero => simp
          | succ left =>
              simp only [Nat.add_sub_cancel, Nat.add_le_add_iff_right,
                Nat.add_sub_add_right] at onward ⊢
              rw [← onward]
              simp

end Shape

namespace ColumnCodec

/-- The codecs of a table have the names of its columns. -/
theorem map_column_ofTable
    {table : Table}
    {columns : List ColumnCodec}
    (mapped : ofTable table = .ok columns) :
    columns.map (·.column) = table.columnNames := by
  rw [ofTable, mapM_eq_ok] at mapped
  rw [Table.columnNames]
  generalize table.columns = declared at mapped
  induction mapped with
  | nil => rfl
  | cons mappedColumn _ inductionHypothesis =>
      obtain ⟨codec, _, same⟩ := bind_eq_ok.1 mappedColumn
      rw [pure_eq_ok] at same
      rw [List.map_cons, List.map_cons, inductionHypothesis, ← same]

end ColumnCodec

/-- The field of a relation is named for it and leads to the type of the shape it leads to. -/
theorem name_relationField (limit : Option Nat) (shape : Shape) (relation : Relation) :
    (relationField limit shape relation).name = relation.name := by
  rw [relationField]
  cases relation.cardinality <;> rfl

theorem baseName_relationField (limit : Option Nat) (shape : Shape) (relation : Relation) :
    (relationField limit shape relation).type.baseName =
      (shape.follow relation).typeName limit := by
  rw [relationField]
  cases relation.cardinality <;> rfl

/-- Where no column has the name, the field of a name is that of the relation of the name. -/
theorem find?_shapeFields
    {schema : Schema}
    {limit : Option Nat}
    {shape : Shape}
    {columns : List ColumnCodec}
    {name : String}
    (notColumn : name ∉ columns.map (·.column)) :
    (columnFields columns ++ (shape.relations schema).map (relationField limit shape)).find?
        (fun field => field.name == name) =
      (shape.relation? schema name).map (relationField limit shape) := by
  have noColumn : (columnFields columns).find? (fun field => field.name == name) = none := by
    rw [List.find?_eq_none]
    intro field member isNamed
    obtain ⟨column, columnMember, rfl⟩ := List.mem_map.1 member
    exact notColumn (beq_iff_eq.1 isNamed ▸ List.mem_map_of_mem columnMember)
  rw [List.find?_append, noColumn, Option.none_or, List.find?_map, Shape.relation?]
  simp only [Function.comp_def, name_relationField]

namespace Interface

variable {interface : Interface} {schema : Schema} {config : EngineConfig} {shape : Shape}

theorem validate_of_generate (generated : generate schema config = .ok interface) :
    schema.validate = .ok () := by
  rw [generate, check_bind_eq_ok] at generated
  exact generated.1

/-- The type that is registered for a shape of the schema has the columns of the table of the
shape and its relations as fields. -/
theorem objectFields?_shape
    (generated : generate schema config = .ok interface)
    (member : shape ∈ schema.shapes config.depthLimit) :
    interface.registry.objectFields? (interface.shapeTypeName shape) =
      some (columnFields (columnsOf interface.tables shape.table) ++
        (shape.relations schema).map (relationField config.depthLimit shape)) := by
  simp only [generate, bind_eq_ok, pure_eq_ok, Prod.exists] at generated
  obtain ⟨_, _, _, _, _, tables, _, shapesRegistered, registered, responsesRegistered, registeredOn,
    _, _, _, registeredRoots, rfl⟩ := generated
  have found := TypeRegistry.get?_registeredAll registered _ (List.mem_map_of_mem member)
  have kept := TypeRegistry.get?_of_registerAll registeredRoots
    (TypeRegistry.get?_of_registerAll registeredOn found)
  rw [shapeTypeName, TypeRegistry.objectFields?]
  rw [shapeDefinition] at kept
  simp only at kept ⊢
  rw [kept]

/-- The columns of a table that the interface has types for are those of the table. -/
theorem Represents.columnsOf_eq
    (represents : interface.Represents schema config)
    {table : Table}
    (member : table ∈ schema.tables) :
    ∃ types, interface.table? table.name = some types ∧
      columnsOf interface.tables table.name = types.columns ∧
      types.columns.map (·.column) = table.columnNames := by
  obtain ⟨types, _, mapped, found⟩ := represents.exists_table? member
  refine ⟨types, found, ?_, ColumnCodec.map_column_ofTable (TableTypes.ofTable_eq_ok mapped).2.1⟩
  rw [table?] at found
  rw [columnsOf, found]

/-- The types of shapes are walked just as their shapes. -/
theorem typeAlong?_shape
    (generated : generate schema config = .ok interface)
    {path : List String}
    {last : String}
    (member : shape ∈ schema.shapes config.depthLimit)
    (walkable : schema.tableAlong? shape.table path = some last) :
    interface.registry.typeAlong? (interface.shapeTypeName shape) path =
      (shape.along? schema path).map interface.shapeTypeName := by
  have valid := validate_of_generate generated
  have represents := represents_of_generate generated
  induction path generalizing shape with
  | nil =>
      rw [TypeRegistry.typeAlong?, objectFields?_shape generated member]
      rfl
  | cons name path inductionHypothesis =>
      rw [Schema.tableAlong?, Option.bind_eq_some_iff] at walkable
      obtain ⟨relation, found, walkableOn⟩ := walkable
      obtain ⟨⟨table, tableMember, sameName⟩, _⟩ :=
        Schema.mem_possibleShapes.1 (Schema.mem_possibleShapes_of_mem_shapes valid member)
      obtain ⟨types, _, sameColumns, sameNames⟩ := represents.columnsOf_eq tableMember
      have notColumn :
          name ∉ (columnsOf interface.tables shape.table).map (·.column) := by
        obtain ⟨related, isNamed⟩ := Schema.mem_of_relation? found
        rw [← sameName] at related ⊢
        rw [sameColumns, sameNames, ← isNamed]
        exact (Schema.relation_of_valid valid tableMember related).1
      rw [TypeRegistry.typeAlong?, objectFields?_shape generated member, Option.bind_some,
        find?_shapeFields notColumn, Shape.along?]
      cases followed : shape.relation? schema name with
      | none => rfl
      | some other =>
          have sameRelation := (Shape.relation?_eq_some.1 followed).2
          rw [found] at sameRelation
          cases sameRelation
          rw [Option.map_some, Option.bind_some, Option.bind_some, baseName_relationField]
          have childMember := Schema.child_mem_shapes valid member
            (List.mem_map_of_mem (List.mem_of_find?_eq_some followed))
          have onward := inductionHypothesis childMember walkableOn
          rw [shapeTypeName, represents.config_eq] at onward
          exact onward

end Interface

/-!
## Shapes and their object types

Requests are pruned over shapes, and clients read object types.  Both describe one graph: the type
that is registered for a shape has the columns of the table of the shape and then the relations that
the shape may follow, and the type of a relation is that of the shape that the relation leads to.
-/

/-- A shape is reached from another one by following relations. -/
abbrev Shape.Reaches (schema : Schema) : Shape -> Shape -> Prop :=
  Relation.ReflTransGen fun shape child => child ∈ shape.children schema

/-- The type of the rows that a relation leads to: a list without null for many rows, and an object
or null for one. -/
def Cardinality.answerType (object : String) : Cardinality -> TypeRef
  | .many => .nonNull (.list (.nonNull (.named object)))
  | .one => .named object

namespace Interface

variable {interface : Interface} {schema : Schema} {config : EngineConfig} {shape : Shape}

/-- A field of the type of a shape leads where a relation of the shape does. -/
structure DeclaresRelation (interface : Interface) (shape : Shape) (relation : Relation)
    (field : OutputField) : Prop where
  name_eq : field.name = relation.name
  type_eq : field.type =
    relation.cardinality.answerType (interface.shapeTypeName (shape.follow relation))
  baseName_eq : field.type.baseName = interface.shapeTypeName (shape.follow relation)
  isShape : shape.follow relation ∈ interface.schema.shapes interface.config.depthLimit

/-- The fields of the type of a shape are the columns of the table of the shape, followed by the
relations of the shape. -/
structure DescribesShape (interface : Interface) (shape : Shape) (table : Table)
    (fields : List OutputField) : Prop where
  isShape : shape ∈ interface.schema.shapes interface.config.depthLimit
  isTable : interface.schema.table? shape.table = some table
  isRegistered : interface.registry.objectFields? (interface.shapeTypeName shape) = some fields
  names_eq : fields.map (·.name) =
    table.columnNames ++ (shape.relations interface.schema).map (·.name)
  relations : List.Forall₂ (interface.DeclaresRelation shape) (shape.relations interface.schema)
    (fields.drop table.columns.length)

theorem type_relationField (limit : Option Nat) (shape : Shape) (relation : Relation) :
    (relationField limit shape relation).type =
      relation.cardinality.answerType ((shape.follow relation).typeName limit) := by
  rw [relationField]
  cases relation.cardinality <;> rfl

/-- Shapes that are reached from whole selects are shapes of the schema. -/
theorem mem_shapes_of_reaches
    (valid : schema.validate = .ok ())
    {limit : Option Nat}
    {start : Shape}
    (member : start ∈ schema.shapes limit)
    (reaches : start.Reaches schema shape) :
    shape ∈ schema.shapes limit := by
  induction reaches with
  | refl => exact member
  | tail _ isChild inductionHypothesis =>
      exact Schema.child_mem_shapes valid inductionHypothesis isChild

/-- The type of a shape of the schema describes the shape. -/
theorem describesShape_of_mem_shapes
    (generated : generate schema config = .ok interface)
    (member : shape ∈ schema.shapes config.depthLimit) :
    ∃ table fields, interface.DescribesShape shape table fields := by
  have represents := represents_of_generate generated
  have valid := validate_of_generate generated
  obtain ⟨⟨table, tableMember, sameName⟩, _⟩ :=
    Schema.mem_possibleShapes.1 (Schema.mem_possibleShapes_of_mem_shapes valid member)
  obtain ⟨types, _, sameColumns, sameNames⟩ := represents.columnsOf_eq tableMember
  have registered := objectFields?_shape generated member
  rw [← sameName, sameColumns] at registered
  have width : (columnFields types.columns).length = table.columns.length := by
    have sameLength := congrArg List.length sameNames
    rw [List.length_map, Table.columnNames, List.length_map] at sameLength
    rw [columnFields, List.length_map, sameLength]
  refine ⟨table, _, ?_, ?_, registered, ?_, ?_⟩
  · rw [represents.schema_eq, represents.config_eq]
    exact member
  · rw [represents.schema_eq, ← sameName, Schema.table?_name tableMember]
  · rw [represents.schema_eq, List.map_append, List.map_map, ← sameNames, columnFields,
      List.map_map]
    simp only [Function.comp_def, name_relationField]
  · rw [represents.schema_eq, ← width, List.drop_left, List.forall₂_map_right_iff,
      List.forall₂_same]
    intro relation isRelation
    refine ⟨name_relationField _ _ _, ?_, ?_, ?_⟩
    · rw [type_relationField, shapeTypeName, represents.config_eq]
    · rw [baseName_relationField, shapeTypeName, represents.config_eq]
    · rw [represents.schema_eq, represents.config_eq]
      exact Schema.child_mem_shapes valid member (List.mem_map_of_mem isRelation)

end Interface

/-! ## Depth limits of interfaces

The shapes of every valid schema are found, however its relations run in circles.  In a generated
interface a path of relations can be followed from the shape of a whole select exactly when the
limit admits its length, and leads to a shape of the last table with all columns of that table. -/

namespace Interface

variable {interface : Interface} {schema : Schema} {config : EngineConfig}

/-- The type of a shape has the columns of the table of the shape as its first fields. -/
def CarriesColumns (interface : Interface) (shape : Shape) : Prop :=
  ∃ table types others, interface.schema.table? shape.table = some table ∧
    interface.table? shape.table = some types ∧
    types.columns.map (·.column) = table.columnNames ∧
    interface.registry.objectFields? (interface.shapeTypeName shape) =
      some (columnFields types.columns ++ others)

/-- A path of relations from one table to another is followed through the shapes of an interface,
and through the types of the shapes, as far as the limit admits. -/
structure FollowsPath (interface : Interface) (table : String) (path : List String)
    (last : String) : Prop where
  isSome_iff : ((interface.topShape table).along? interface.schema path).isSome = true ↔
    Within interface.config.depthLimit path.length
  types_eq : interface.registry.typeAlong? (interface.shapeTypeName (interface.topShape table)) path
    = ((interface.topShape table).along? interface.schema path).map interface.shapeTypeName
  table_eq : ∀ shape, (interface.topShape table).along? interface.schema path = some shape ->
    shape.table = last
  isShape : ∀ shape, (interface.topShape table).along? interface.schema path = some shape ->
    shape ∈ interface.schema.shapes interface.config.depthLimit
  carriesColumns : ∀ shape, (interface.topShape table).along? interface.schema path = some shape ->
    interface.CarriesColumns shape

theorem carriesColumns_of_mem_shapes
    (generated : generate schema config = .ok interface)
    {shape : Shape}
    (member : shape ∈ schema.shapes config.depthLimit) :
    interface.CarriesColumns shape := by
  have represents := represents_of_generate generated
  obtain ⟨⟨table, tableMember, sameName⟩, _⟩ := Schema.mem_possibleShapes.1
    (Schema.mem_possibleShapes_of_mem_shapes (validate_of_generate generated) member)
  obtain ⟨types, found, sameColumns, sameNames⟩ := represents.columnsOf_eq tableMember
  have fields := objectFields?_shape generated member
  rw [← sameName, sameColumns] at fields
  refine ⟨table, types, _, ?_, ?_, sameNames, fields⟩
  · rw [represents.schema_eq, ← sameName, Schema.table?_name tableMember]
  · rw [← sameName, found]

/-- Shapes that are reached from shapes are shapes. -/
theorem mem_shapes_of_along?
    (valid : schema.validate = .ok ())
    {limit : Option Nat}
    {shape reached : Shape}
    {path : List String}
    (member : shape ∈ schema.shapes limit)
    (walked : shape.along? schema path = some reached) :
    reached ∈ schema.shapes limit := by
  induction path generalizing shape with
  | nil =>
      rw [Shape.along?, Option.some.injEq] at walked
      exact walked ▸ member
  | cons name path inductionHypothesis =>
      rw [Shape.along?, Option.bind_eq_some_iff] at walked
      obtain ⟨relation, found, walkedOn⟩ := walked
      exact inductionHypothesis (Schema.child_mem_shapes valid member
        (List.mem_map_of_mem (List.mem_of_find?_eq_some found))) walkedOn

theorem followsPath_of_generate
    (generated : generate schema config = .ok interface)
    {table : Table}
    (member : table ∈ schema.tables)
    {path : List String}
    {last : String}
    (walkable : schema.tableAlong? table.name path = some last) :
    interface.FollowsPath table.name path last := by
  have represents := represents_of_generate generated
  have valid := validate_of_generate generated
  have topMember := Schema.topShape_mem_shapes valid config.depthLimit member
  have reaches := fun reached =>
    @Shape.along?_eq_some_iff schema ⟨table.name, config.depthLimit⟩ reached path last walkable
  have typesWalked := typeAlong?_shape generated topMember walkable
  constructor
  all_goals
    rw [represents.schema_eq, topShape, represents.config_eq]
  · simp only [Option.isSome_iff_exists, reaches]
    exact ⟨fun ⟨_, within, _⟩ => within, fun within => ⟨_, within, rfl⟩⟩
  · exact typesWalked
  · intro shape walked
    rw [← ((reaches shape).1 walked).2]
  · intro shape walked
    exact mem_shapes_of_along? valid topMember walked
  · intro shape walked
    exact carriesColumns_of_mem_shapes generated (mem_shapes_of_along? valid topMember walked)

/-- The walk that finds the shapes of a valid schema comes to its end.  In an interface that is
generated, paths of relations are followed exactly as far as the limit admits; no two shapes are for
the same table and the same number of relations left, and without a limit each table has one. -/
theorem generate_applies_depthLimit
    (schema : Schema)
    (config : EngineConfig)
    (valid : schema.validate = .ok ()) :
    (∃ marked, ShapeWalk.Visits schema ⟨[], []⟩ (schema.topShapes config.depthLimit)
      ⟨marked, schema.shapes config.depthLimit⟩) ∧
    ∀ interface, generate schema config = .ok interface ->
      (∀ table ∈ schema.tables, ∀ path last, schema.tableAlong? table.name path = some last ->
        interface.FollowsPath table.name path last) ∧
      (∀ shape, (schema.shapes config.depthLimit).count shape ≤ 1) ∧
      (config.depthLimit = none -> ∀ table ∈ schema.tables,
        (schema.shapes config.depthLimit).countP (·.table == table.name) = 1) := by
  refine ⟨Schema.visits_shapes valid config.depthLimit, ?_⟩
  intro interface generated
  refine ⟨fun table member path last walkable => followsPath_of_generate generated member walkable,
    List.nodup_iff_count_le_one.1 (Schema.nodup_shapes valid config.depthLimit), ?_⟩
  intro unlimited table member
  rw [unlimited]
  exact Schema.countP_shapes_none valid member

/-- Users and their posts, with relations in a circle. -/
def blog : Schema :=
  ((((Schema.empty.withTable
    { name := "users"
      columns :=
        [ { name := "id", kind := .integer 32 false, primaryKey := true },
          { name := "name", kind := .text none } ] }).withTable
    { name := "posts"
      columns :=
        [ { name := "id", kind := .integer 32 false, primaryKey := true },
          { name := "user_id", kind := .integer 32 false } ] }).withRelation
    { name := "posts", source := "users", target := "posts", cardinality := .many
      fromColumn := some "id", toColumn := some "user_id" }).withRelation
    { name := "author", source := "posts", target := "users", cardinality := .one
      fromColumn := some "user_id", toColumn := some "id" })

theorem depthLimit_blog :
    ∃ interface, generate blog { depthLimit := some 2 } = .ok interface ∧
      interface.FollowsPath "users" ["posts", "author"] "users" ∧
      (interface.topShape "users").along? interface.schema ["posts", "author", "posts"] = none := by
  have generates : (generate blog { depthLimit := some 2 }).toOption.isSome = true := by
    decide +kernel
  obtain ⟨interface, generated⟩ := Option.isSome_iff_exists.1 generates
  rw [toOption_eq_some] at generated
  obtain ⟨_, applies⟩ := generate_applies_depthLimit blog { depthLimit := some 2 }
    (validate_of_generate generated)
  obtain ⟨follows, _⟩ := applies interface generated
  obtain ⟨users, member, isUsers⟩ : ∃ users ∈ blog.tables, users.name = "users" := by
    exact ⟨_, List.mem_cons_of_mem _ List.mem_cons_self, rfl⟩
  have walks := follows users member ["posts", "author"] "users" (by rw [isUsers]; decide +kernel)
  have stops := follows users member ["posts", "author", "posts"] "posts"
    (by rw [isUsers]; decide +kernel)
  rw [isUsers] at walks stops
  refine ⟨interface, generated, walks, ?_⟩
  rw [← Option.not_isSome_iff_eq_none, stops.isSome_iff,
    (represents_of_generate generated).config_eq]
  decide

end Interface

end RelationalApi
