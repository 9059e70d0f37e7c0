import RelationalApi.Proofs.Interface.Paths
import RelationalApi.Proofs.Selection.Below
import RelationalApi.Proofs.Selection.Pruning

/-!
# Unknown fields

Pruning goes through a selection in order and ends at the first fault.  An unknown field is reported
for the object whose type does not declare it, and for nothing else: neither the checks of leaves
nor merging the plans of a relation that is selected again report one.
-/

namespace RelationalApi

open Outcome

section Merging

variable {path : String} {fault : ArgumentError}

-- The recursion follows the relation or plan that is added, as merging does.
mutual

/-- Adding a relation fails only where a relation is there with other arguments. -/
theorem addRelation_eq_error :
    (relation : RelationPlan SelectionPlan) -> ∀ {relations},
      addRelation path relations relation = .error fault ->
        ∃ name, fault = .invalid path (.differingArguments name)
  | ⟨name, target, cardinality, arguments, plan⟩, relations, refused => by
      rw [addRelation] at refused
      split at refused
      · cases refused
      · rename_i present found
        split at refused
        · rcases bind_eq_error.1 refused with merging | ⟨merged, _, kept⟩
          · exact mergePlan_eq_error plan merging
          · cases kept
        · cases refused
          exact ⟨name, rfl⟩

theorem mergePlan_eq_error :
    (other : SelectionPlan) -> ∀ {plan : SelectionPlan},
      mergePlan path plan other = .error fault ->
        ∃ name, fault = .invalid path (.differingArguments name)
  | ⟨columns, relations, output⟩, plan, refused => by
      rw [mergePlan] at refused
      rcases bind_eq_error.1 refused with adding | ⟨merged, _, kept⟩
      · exact addRelations_eq_error relations adding
      · cases kept

theorem addRelations_eq_error :
    (others : List (RelationPlan SelectionPlan)) -> ∀ {relations},
      addRelations path relations others = .error fault ->
        ∃ name, fault = .invalid path (.differingArguments name)
  | [], relations, refused => by
      rw [addRelations] at refused
      cases refused
  | ⟨name, target, cardinality, arguments, plan⟩ :: others, relations, refused => by
      rw [addRelations] at refused
      rcases bind_eq_error.1 refused with first | ⟨extended, _, later⟩
      · exact addRelation_eq_error ⟨name, target, cardinality, arguments, plan⟩ first
      · exact addRelations_eq_error others later

end

end Merging

theorem checkLeaf_ne_unknownField
    (path : String)
    (field : SelectedField)
    (place name : String) :
    checkLeaf path field ≠ .error (.unknownField place name) := by
  rw [checkLeaf]
  split
  · simp
  · split <;> simp

namespace Interface

variable {interface : Interface} {schema : Schema} {config : EngineConfig}
variable {types : TableTypes} {shape : Shape} {path place name : String}

theorem typesAt_ne_unknownField (table : String) :
    interface.typesAt table path ≠ .error (.unknownField place name) := by
  rw [typesAt]
  split <;> simp

theorem appendRelation_ne_unknownField
    {plan inner : SelectionPlan}
    {key : String}
    {relation : Relation}
    {arguments : JsonEntries} :
    plan.appendRelation path key relation arguments inner ≠
      .error (.unknownField place name) := by
  rw [SelectionPlan.appendRelation]
  intro refused
  rcases bind_eq_error.1 refused with adding | ⟨relations, _, kept⟩
  · obtain ⟨_, same⟩ := addRelation_eq_error _ adding
    cases same
  · cases kept

theorem relationAt_eq_error {fault : ArgumentError} :
    interface.relationAt (some shape) path name = .error fault ↔
      shape.relation? interface.schema name = none ∧ fault = .unknownField path name := by
  rw [relationAt, Option.bind_some]
  cases shape.relation? interface.schema name with
  | none => simp [eq_comm]
  | some relation => simp

/-- Pruning a shape reports what pruning its fields does. -/
theorem prune_eq_unknownField {selection : Selection} :
    interface.prune shape path selection = .error (.unknownField place name) ↔
      ∃ types, interface.typesAt shape.table path = .ok types ∧
        interface.pruneFields types (some shape) path
          (.empty (interface.shapeTypeName shape) types.name) selection =
            .error (.unknownField place name) := by
  rw [prune, bind_eq_error]
  simp only [bind_eq_error, typesAt_ne_unknownField, false_or]
  refine exists_congr fun types => and_congr_right fun _ => ?_
  refine or_iff_left ?_
  rintro ⟨_, _, kept⟩
  cases kept

theorem prune_eq_ok {selection : Selection} :
    (∃ plan, interface.prune shape path selection = .ok plan) ↔
      ∃ types plan, interface.typesAt shape.table path = .ok types ∧
        interface.pruneFields types (some shape) path
          (.empty (interface.shapeTypeName shape) types.name) selection = .ok plan := by
  simp only [prune, bind_eq_ok, pure_eq_ok]
  constructor
  · rintro ⟨_, types, found, plan, pruned, _⟩
    exact ⟨types, plan, found, pruned⟩
  · rintro ⟨types, plan, found, pruned⟩
    exact ⟨_, types, found, plan, pruned, rfl⟩

/-- A field is reported if it is neither a column nor a relation, and otherwise a report comes from
pruning the shape that its relation leads to. -/
theorem pruneField_eq_unknownField {plan : SelectionPlan} {field : SelectedField} :
    interface.pruneField types (some shape) path plan field = .error (.unknownField place name) ↔
      field.name ≠ typenameField ∧ (types.column? field.name).isSome = false ∧
        (shape.relation? interface.schema field.name = none ∧ path = place ∧ field.name = name ∨
          ∃ relation, shape.relation? interface.schema field.name = some relation ∧
            interface.prune (shape.follow relation) (joinPath path field.key) field.selection =
              .error (.unknownField place name)) := by
  obtain ⟨fieldName, label, arguments, selection⟩ := field
  rw [pruneField]
  by_cases isTypename : fieldName = typenameField
  · rw [if_pos isTypename, bind_eq_error]
    simp [isTypename, checkLeaf_ne_unknownField, pure, Except.pure]
  · rw [if_neg isTypename]
    cases isColumn : (types.column? fieldName).isSome with
    | true =>
        rw [if_pos rfl, bind_eq_error]
        simp [checkLeaf_ne_unknownField, pure, Except.pure]
    | false =>
        rw [if_neg Bool.false_ne_true, bind_eq_error, relationAt_eq_error]
        simp only [Prod.exists, relationAt_eq_ok, Option.some.injEq, ne_eq, isTypename,
          not_false_eq_true, true_and, ArgumentError.unknownField.injEq]
        refine or_congr (by simp [eq_comm]) ?_
        rw [exists_comm]
        refine exists_congr fun relation => ?_
        rw [prune_eq_unknownField]
        constructor
        · rintro ⟨_, ⟨rfl, leads⟩, refused⟩
          refine ⟨leads, ?_⟩
          split at refused
          · cases refused
          · simpa only [bind_eq_error, typesAt_ne_unknownField, appendRelation_ne_unknownField,
              false_or, exists_const, and_false, or_false] using refused
        · rintro ⟨leads, childTypes, found, refused⟩
          refine ⟨shape, ⟨rfl, leads⟩, ?_⟩
          cases selection with
          | nil => cases refused
          | cons first others =>
              rw [if_neg (by simp), found]
              exact bind_eq_error.2 (.inr ⟨_, rfl, bind_eq_error.2 (.inl refused)⟩)

theorem pruneFields_append
    {plan : SelectionPlan}
    {shape : Option Shape}
    (before after : Selection) :
    interface.pruneFields types shape path plan (before ++ after) =
      interface.pruneFields types shape path plan before >>= fun extended =>
        interface.pruneFields types shape path extended after := by
  induction before generalizing plan with
  | nil => rfl
  | cons field before inductionHypothesis =>
      rw [List.cons_append, pruneFields, pruneFields, bind_assoc]
      exact bind_congr fun extended => inductionHypothesis

/-- A report of pruning comes from a field before which everything passes. -/
theorem pruneFields_eq_unknownField {plan : SelectionPlan} {selection : Selection} :
    interface.pruneFields types (some shape) path plan selection =
        .error (.unknownField place name) ↔
      ∃ before field after extended, selection = before ++ field :: after ∧
        interface.pruneFields types (some shape) path plan before = .ok extended ∧
        interface.pruneField types (some shape) path extended field =
          .error (.unknownField place name) := by
  constructor
  · intro refused
    induction selection generalizing plan with
    | nil => cases refused
    | cons field selection inductionHypothesis =>
        rw [pruneFields] at refused
        rcases bind_eq_error.1 refused with first | ⟨extended, prunedFirst, later⟩
        · exact ⟨[], field, selection, plan, rfl, rfl, first⟩
        · obtain ⟨before, reported, after, reached, rfl, passed, last⟩ := inductionHypothesis later
          refine ⟨field :: before, reported, after, reached, rfl, ?_, last⟩
          rw [pruneFields, prunedFirst]
          exact passed
  · rintro ⟨before, field, after, extended, rfl, passed, refused⟩
    rw [pruneFields_append, passed]
    exact bind_eq_error.2 (.inr ⟨_, rfl, bind_eq_error.2 (.inl refused)⟩)

/-- The type that is registered for a shape has a field of a name. -/
def Declares (interface : Interface) (shape : Shape) (name : String) : Prop :=
  ∃ fields, interface.registry.objectFields? (interface.shapeTypeName shape) = some fields ∧
    name ∈ fields.map (·.name)

/-- The first fault of a selection is a field, other than that of the type name, that the type of
its object does not declare.  The selection is read in order and each field with all that is below
it; the path leads to the object. -/
inductive FindsUndeclared (interface : Interface) :
    Shape -> String -> Selection -> String -> String -> Prop
  | here
      {shape : Shape}
      {path : String}
      {before after : Selection}
      {field : SelectedField}
      (passed : ∃ plan, interface.prune shape path before = .ok plan)
      (notTypename : field.name ≠ typenameField)
      (undeclared : ¬interface.Declares shape field.name) :
      FindsUndeclared interface shape path (before ++ field :: after) path field.name
  | inside
      {shape : Shape}
      {path place name : String}
      {before after : Selection}
      {field : SelectedField}
      {relation : Relation}
      (passed : ∃ plan, interface.prune shape path before = .ok plan)
      (notTypename : field.name ≠ typenameField)
      (leads : shape.relation? interface.schema field.name = some relation)
      (inner : FindsUndeclared interface (shape.follow relation) (joinPath path field.key)
        field.selection place name) :
      FindsUndeclared interface shape path (before ++ field :: after) place name

/-- The objects of a selection, each with its shape and the fields that are selected of it. -/
inductive HasObject (interface : Interface) : Shape -> Selection -> Shape -> Selection -> Prop
  | here {shape : Shape} {selection : Selection} :
      HasObject interface shape selection shape selection
  | inside
      {shape reached : Shape}
      {selection fields : Selection}
      {field : SelectedField}
      {relation : Relation}
      (member : field ∈ selection)
      (notTypename : field.name ≠ typenameField)
      (leads : shape.relation? interface.schema field.name = some relation)
      (inner : HasObject interface (shape.follow relation) field.selection reached fields) :
      HasObject interface shape selection reached fields

/-- A relation of a shape does not have the name of a column. -/
theorem isSome_column?_eq_false
    (generated : generate schema config = .ok interface)
    {types : TableTypes}
    {relation : Relation}
    (found : interface.table? shape.table = some types)
    (leads : shape.relation? interface.schema name = some relation) :
    (types.column? name).isSome = false := by
  have represents := represents_of_generate generated
  obtain ⟨table, isTable, mapped⟩ := represents.table?_eq_some.1 found
  obtain ⟨related, isNamed⟩ := Schema.mem_of_relation? (Shape.relation?_eq_some.1 leads).2
  rw [represents.schema_eq, ← Schema.name_of_table? isTable] at related
  have notColumn := (Schema.relation_of_valid (validate_of_generate generated)
    (Schema.mem_of_table? isTable) related).1
  rw [isNamed, ← ColumnCodec.map_column_ofTable (TableTypes.ofTable_eq_ok mapped).2.1] at notColumn
  rw [Bool.eq_false_iff, TableTypes.column?, ne_eq, List.find?_isSome]
  simpa using notColumn

section Generated

variable (generated : generate schema config = .ok interface)
variable (member : shape ∈ schema.shapes config.depthLimit)
include generated member

/-- The names that pruning finds at a shape are those that the type of the shape declares. -/
theorem declares_iff
    {types : TableTypes}
    (found : interface.table? shape.table = some types) :
    interface.Declares shape name ↔
      (types.column? name).isSome = true ∨
        (shape.relation? interface.schema name).isSome = true := by
  obtain ⟨table, foundTypes, _, isTable, foundAgain, sameNames, _⟩ :=
    carriesColumns_of_mem_shapes generated member
  obtain ⟨described, fields, describes⟩ := describesShape_of_mem_shapes generated member
  rw [found] at foundAgain
  cases foundAgain
  have sameTable := describes.isTable
  rw [isTable] at sameTable
  cases sameTable
  have isColumn : (types.column? name).isSome = true ↔ name ∈ table.columnNames := by
    rw [← sameNames, TableTypes.column?, List.find?_isSome, List.mem_map]
    simp only [beq_iff_eq]
  have isRelation : (shape.relation? interface.schema name).isSome = true ↔
      name ∈ (shape.relations interface.schema).map (·.name) := by
    rw [Shape.relation?, List.find?_isSome, List.mem_map]
    simp only [beq_iff_eq]
  rw [Declares, describes.isRegistered, isColumn, isRelation, ← List.mem_append,
    ← describes.names_eq]
  simp

theorem follow_mem_shapes
    {relation : Relation}
    (leads : shape.relation? interface.schema name = some relation) :
    shape.follow relation ∈ schema.shapes config.depthLimit := by
  rw [(represents_of_generate generated).schema_eq] at leads
  exact Schema.child_mem_shapes (validate_of_generate generated) member
    (List.mem_map_of_mem (List.mem_of_find?_eq_some leads))

/-- The first report comes from a name that the type of the shape does not declare, or from below a
relation of the shape. -/
theorem prune_eq_unknownField_iff {selection : Selection} :
    interface.prune shape path selection = .error (.unknownField place name) ↔
      ∃ before field after, selection = before ++ field :: after ∧
        (∃ plan, interface.prune shape path before = .ok plan) ∧
        field.name ≠ typenameField ∧
        (¬interface.Declares shape field.name ∧ path = place ∧ field.name = name ∨
          ∃ relation, shape.relation? interface.schema field.name = some relation ∧
            interface.prune (shape.follow relation) (joinPath path field.key) field.selection =
              .error (.unknownField place name)) := by
  obtain ⟨_, types, _, _, found, _⟩ := carriesColumns_of_mem_shapes generated member
  rw [prune_eq_unknownField]
  simp only [prune_eq_ok, typesAt_eq_ok, found, Option.some.injEq, exists_eq_left',
    pruneFields_eq_unknownField, pruneField_eq_unknownField]
  have declares := @declares_iff interface schema config shape
  constructor
  · rintro ⟨before, field, after, plan, same, passed, notTypename, notColumn, reported⟩
    refine ⟨before, field, after, same, ⟨types, plan, rfl, passed⟩, notTypename, ?_⟩
    refine reported.imp_left ?_
    rintro ⟨noRelation, atPath, isNamed⟩
    refine ⟨?_, atPath, isNamed⟩
    rw [declares generated member found, notColumn, noRelation]
    simp
  · rintro ⟨before, field, after, same, ⟨_, plan, rfl, passed⟩, notTypename, reported⟩
    refine ⟨before, field, after, plan, same, passed, notTypename, ?_⟩
    rcases reported with ⟨undeclared, atPath, isNamed⟩ | ⟨relation, leads, inner⟩
    · rw [declares generated member found, not_or, Bool.not_eq_true, Bool.not_eq_true,
        @Option.isSome_eq_false_iff _ (shape.relation? _ _), Option.isNone_iff_eq_none]
        at undeclared
      exact ⟨undeclared.1, .inl ⟨undeclared.2, atPath, isNamed⟩⟩
    · exact ⟨isSome_column?_eq_false generated found leads, .inr ⟨relation, leads, inner⟩⟩

end Generated

/-- Pruning reports an unknown field exactly where the first fault is an undeclared name. -/
theorem prune_eq_unknownField_iff_findsUndeclared
    (generated : generate schema config = .ok interface)
    (member : shape ∈ schema.shapes config.depthLimit)
    (selection : Selection) :
    interface.prune shape path selection = .error (.unknownField place name) ↔
      interface.FindsUndeclared shape path selection place name := by
  constructor
  · induction selection using Selection.below_induction generalizing shape path with
    | step selection inductionHypothesis =>
        intro refused
        obtain ⟨before, field, after, rfl, passed, notTypename, reported⟩ :=
          (prune_eq_unknownField_iff generated member).1 refused
        rcases reported with ⟨undeclared, rfl, rfl⟩ | ⟨relation, leads, inner⟩
        · exact .here passed notTypename undeclared
        · exact .inside passed notTypename leads (inductionHypothesis field (by simp)
            (follow_mem_shapes generated member leads) inner)
  · intro finds
    induction finds with
    | here passed notTypename undeclared =>
        exact (prune_eq_unknownField_iff generated member).2
          ⟨_, _, _, rfl, passed, notTypename, .inl ⟨undeclared, rfl, rfl⟩⟩
    | inside passed notTypename leads _ inductionHypothesis =>
        exact (prune_eq_unknownField_iff generated member).2
          ⟨_, _, _, rfl, passed, notTypename,
            .inr ⟨_, leads, inductionHypothesis (follow_mem_shapes generated member leads)⟩⟩

/-- A selection is pruned only if the types of all objects in it declare the selected names. -/
theorem declares_of_prune
    (generated : generate schema config = .ok interface)
    (member : shape ∈ schema.shapes config.depthLimit)
    {selection fields : Selection}
    {reached : Shape}
    (pruned : ∃ plan, interface.prune shape path selection = .ok plan)
    (object : interface.HasObject shape selection reached fields) :
    ∀ field ∈ fields, field.name ≠ typenameField -> interface.Declares reached field.name := by
  induction object generalizing path with
  | @here shape selection =>
      intro field isField notTypename
      obtain ⟨types, plan, found, prunedFields⟩ := prune_eq_ok.1 pruned
      obtain ⟨_, _, prunedField⟩ := pruneField_of_mem prunedFields field isField
      rw [declares_iff generated member (typesAt_eq_ok.1 found)]
      rcases pruneField_eq_ok.1 prunedField with
        ⟨isTypename, _⟩ | ⟨_, isColumn, _⟩ | ⟨_, _, parent, relation, _, _, leads, _⟩
      · exact absurd isTypename notTypename
      · exact .inl isColumn
      · obtain ⟨same, isRelation⟩ := relationAt_eq_ok.1 leads
        cases same
        exact .inr (by rw [isRelation]; rfl)
  | @inside shape reached selection fields field relation isField notTypename leads _
      inductionHypothesis =>
      obtain ⟨types, plan, found, prunedFields⟩ := prune_eq_ok.1 pruned
      obtain ⟨_, _, prunedField⟩ := pruneField_of_mem prunedFields field isField
      have notColumn := isSome_column?_eq_false generated (typesAt_eq_ok.1 found) leads
      rcases pruneField_eq_ok.1 prunedField with
        ⟨isTypename, _⟩ | ⟨_, isColumn, _⟩ |
          ⟨_, _, parent, other, childTypes, inner, leadsAgain, _, foundChild, prunedChild, _⟩
      · exact absurd isTypename notTypename
      · rw [notColumn] at isColumn
        cases isColumn
      · obtain ⟨same, isRelation⟩ := relationAt_eq_ok.1 leadsAgain
        cases same
        rw [leads] at isRelation
        cases isRelation
        exact inductionHypothesis (follow_mem_shapes generated member leads)
          (prune_eq_ok.2 ⟨childTypes, inner, foundChild, prunedChild⟩)

/-- Every shape that whole selects reach is described by the type that is registered for it: the
columns of its table in order and then its relations in order, each of which leads to the type of
the shape that it leads to.  So pruning reports a name for an object exactly where it is the first
that the type of the object does not declare, and passes only if the types declare all names. -/
theorem shapes_match_types
    {table : Table}
    (generated : generate schema config = .ok interface)
    (isTable : table ∈ schema.tables)
    (reaches : (interface.topShape table.name).Reaches interface.schema shape) :
    (∃ described fields, interface.DescribesShape shape described fields) ∧
      ∀ path selection,
        (∀ place name, interface.prune shape path selection = .error (.unknownField place name) ↔
          interface.FindsUndeclared shape path selection place name) ∧
        ((∃ plan, interface.prune shape path selection = .ok plan) ->
          ∀ reached fields, interface.HasObject shape selection reached fields ->
            ∀ field ∈ fields, field.name ≠ typenameField ->
              interface.Declares reached field.name) := by
  have represents := represents_of_generate generated
  have valid := validate_of_generate generated
  have member : shape ∈ schema.shapes config.depthLimit := by
    rw [topShape, represents.schema_eq, represents.config_eq] at reaches
    exact mem_shapes_of_reaches valid (Schema.topShape_mem_shapes valid _ isTable) reaches
  refine ⟨describesShape_of_mem_shapes generated member, fun path selection => ⟨?_, ?_⟩⟩
  · intro place name
    exact prune_eq_unknownField_iff_findsUndeclared generated member selection
  · intro pruned reached fields object
    exact declares_of_prune generated member pruned object

/-- Posts are reached from users, and the type of posts that may follow one more relation ends with
that relation. -/
theorem shapes_match_types_blog :
    ∃ interface, generate blog { depthLimit := some 2 } = .ok interface ∧
      (interface.topShape "users").Reaches interface.schema ⟨"posts", some 1⟩ ∧
      ∃ described fields, interface.DescribesShape ⟨"posts", some 1⟩ described fields ∧
        fields.map (·.name) = ["id", "user_id", "author"] := by
  have generates : (generate blog { depthLimit := some 2 }).toOption.isSome = true := by
    decide +kernel
  obtain ⟨interface, generated⟩ := Option.isSome_iff_exists.1 generates
  rw [toOption_eq_some] at generated
  have represents := represents_of_generate generated
  obtain ⟨users, member, isUsers⟩ : ∃ users ∈ blog.tables, users.name = "users" :=
    ⟨_, List.mem_cons_of_mem _ List.mem_cons_self, rfl⟩
  have reaches : (interface.topShape users.name).Reaches interface.schema ⟨"posts", some 1⟩ := by
    rw [topShape, represents.schema_eq, represents.config_eq, isUsers]
    exact .single (by decide +kernel)
  obtain ⟨⟨described, fields, describes⟩, _⟩ := shapes_match_types generated member reaches
  rw [isUsers] at reaches
  refine ⟨interface, generated, reaches, described, fields, describes, ?_⟩
  have columns : (blog.table? "posts").map Table.columnNames = some ["id", "user_id"] := by
    decide +kernel
  have relations : ((⟨"posts", some 1⟩ : Shape).relations blog).map (·.name) = ["author"] := by
    decide +kernel
  have isPosts := describes.isTable
  rw [represents.schema_eq] at isPosts
  rw [isPosts, Option.map_some, Option.some.injEq] at columns
  rw [describes.names_eq, represents.schema_eq, columns, relations]
  rfl

end Interface
end RelationalApi
