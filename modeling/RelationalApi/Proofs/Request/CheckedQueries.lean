import RelationalApi.Proofs.Request.CheckedArguments
import RelationalApi.Proofs.Selection.Columns
import RelationalApi.Proofs.Selection.PlanKeys

/-!
# Checked keys of queries

The query for a plan is compiled with the arguments of its relations, at whatever depth they are
given.  So it checks the keys of the plan, which are those of the selection that the plan is for.
Selections of mutations give no arguments.
-/

namespace RelationalApi

open Outcome

open TypeRegistry

theorem keys_nodup
    {arguments : JsonEntries}
    (wellFormed : (Json.object arguments).isWellFormed = true) :
    arguments.keys.Nodup := by
  rw [Json.isWellFormed_object, Bool.and_eq_true, decide_eq_true_iff] at wellFormed
  exact wellFormed.1

/-- The query for a relation, with its arguments. -/
def RelationPlan.query (interface : Interface) (path : String)
    (relation : RelationPlan SelectionPlan) : Except ArgumentError SelectQuery := do
  let types ← interface.typesAt relation.target (extendPath path relation.name)
  let arguments ← readRelationArguments relation.cardinality (extendPath path relation.name)
    relation.arguments
  relation.plan.toQuery interface types arguments (extendPath path relation.name)

theorem RelationPlan.toQueries_cons
    (interface : Interface)
    (path : String)
    (relation : RelationPlan SelectionPlan)
    (relations : List (RelationPlan SelectionPlan)) :
    RelationPlan.toQueries interface path (relation :: relations) =
      relation.query interface path >>= fun query => do
        let queries ← RelationPlan.toQueries interface path relations
        return (relation.name, query) :: queries := by
  rw [RelationPlan.toQueries, RelationPlan.query]
  simp only [bind_assoc]

namespace Interface

variable {interface : Interface} {schema : Schema} {config : EngineConfig} {shape : Shape}
variable {types : TableTypes} {path : String} {fields : Selection} {plan : SelectionPlan}

theorem mem_relationArgumentNames
    (limit : Option Nat)
    (shape : Shape)
    (relation : Relation)
    (name : String) :
    name ∈ relationArgumentNames relation.cardinality ↔
      name ∈ (relationField limit shape relation).arguments.map (·.name) := by
  rw [relationField]
  cases relation.cardinality <;> simp [relationArgumentNames]

/-- The field of a relation declares a filter, an order and counts. -/
theorem documentKey_relation
    {registry : TypeRegistry}
    {relation : Relation}
    {arguments : JsonEntries}
    {key : InputKey}
    (isLeaf : registry.namesOf? "Int" = none)
    (limit : Option Nat)
    (shape : Shape) :
    DocumentKey registry (relationField limit shape relation).arguments path arguments key ↔
      registry.KeyWithin (.named (filtersName relation.target)) (extendPath path "where")
          ((given? arguments "where").getD .null) key ∨
        registry.KeyWithin (.named (orderByName relation.target)) (extendPath path "orderBy")
          ((given? arguments "orderBy").getD .null) key := by
  rw [relationField]
  cases relation.cardinality with
  | one =>
      refine documentKey_select (by simp [whereArgument]) (by simp [orderByArgument])
        fun argument isDeclared => ?_
      simp only [List.mem_cons, List.not_mem_nil, or_false] at isDeclared
      exact isDeclared.imp_right .inl
  | many =>
      refine documentKey_select (by simp [whereArgument]) (by simp [orderByArgument])
        fun argument isDeclared => ?_
      simp only [List.mem_cons, List.not_mem_nil, or_false] at isDeclared
      rcases isDeclared with rfl | rfl | rfl | rfl
      · exact .inl rfl
      · exact .inr (.inl rfl)
      · exact .inr (.inr isLeaf)
      · exact .inr (.inr isLeaf)

/-- The keys of the filter and the order of a select. -/
def SortedKey (registry : TypeRegistry) (table path : String) (sorted : SelectArguments)
    (key : InputKey) : Prop :=
  registry.KeyWithin (.named (filtersName table)) (extendPath path "where") sorted.filter key ∨
    registry.KeyWithin (.named (orderByName table)) (extendPath path "orderBy") sorted.orderBy key

/-- The arguments of a relation check their keys, given that what is compiled with them does. -/
theorem readRelationArguments_checksKeys
    {α : Type}
    {relation : Relation}
    {arguments : JsonEntries}
    {compile : SelectArguments -> Except ArgumentError α}
    {inner : InputKey -> Prop}
    (isLeaf : interface.registry.namesOf? "Int" = none)
    (distinct : arguments.keys.Nodup)
    (compiles : ∀ sorted, ChecksKeys (fun key =>
      SortedKey interface.registry relation.target path sorted key ∨ inner key) (compile sorted))
    (limit : Option Nat)
    (shape : Shape) :
    ChecksKeys (fun key => interface.registry.ArgumentKey
        (relationField limit shape relation).arguments path path arguments key ∨ inner key)
      (readRelationArguments relation.cardinality path arguments >>= compile) := by
  have sorts : ChecksKeys (fun key => DocumentKey interface.registry
      (relationField limit shape relation).arguments path arguments key ∨ inner key)
      (SelectArguments.read path arguments >>= compile) := by
    refine .after (SelectArguments.read_knowsFields path arguments) fun sorted read => ?_
    obtain ⟨sameFilter, sameOrderBy⟩ := SelectArguments.read_eq_ok read
    refine (compiles sorted).congr fun key => ?_
    rw [documentKey_relation isLeaf, SortedKey, sameFilter, sameOrderBy]
  rw [readRelationArguments, bind_assoc]
  refine (checkArguments_checksKeys (mem_relationArgumentNames limit shape relation) path
    arguments).bind (fun _ _ => sorts) fun key => ?_
  rw [argumentKey_iff distinct, or_assoc]

theorem toQueries_checksKeys
    {keys : RelationPlan SelectionPlan -> InputKey -> Prop}
    {relations : List (RelationPlan SelectionPlan)}
    (each : ∀ relation ∈ relations, ChecksKeys (keys relation) (relation.query interface path)) :
    ChecksKeys (fun key => ∃ relation ∈ relations, keys relation key)
      (RelationPlan.toQueries interface path relations) := by
  induction relations with
  | nil =>
      rw [RelationPlan.toQueries]
      exact .of_none (by simp) (.ok _)
  | cons relation relations inductionHypothesis =>
      rw [List.forall_mem_cons] at each
      rw [RelationPlan.toQueries_cons]
      refine each.1.bind (fun _ _ => (inductionHypothesis each.2).andThen fun _ => .ok _) ?_
      exact fun key => List.exists_mem_cons_iff ..

/-- The query for a relation checks the keys of the relation, given that the query for its plan
does. -/
theorem query_checksKeys
    (generated : generate schema config = .ok interface)
    (member : shape ∈ schema.shapes config.depthLimit)
    {relation : RelationPlan SelectionPlan}
    {followed : Relation}
    (leads : shape.relation? interface.schema relation.name = some followed)
    (sameTarget : followed.target = relation.target)
    (sameCardinality : followed.cardinality = relation.cardinality)
    (distinct : relation.arguments.keys.Nodup)
    (inner : ∀ types, interface.table? relation.target = some types -> ∀ sorted,
      ChecksKeys (fun key =>
          SortedKey interface.registry relation.target (extendPath path relation.name) sorted key ∨
            relation.plan.HasKey interface.registry
              (interface.shapeTypeName (shape.below relation.target))
              (extendPath path relation.name) key)
        (relation.plan.toQuery interface types sorted (extendPath path relation.name))) :
    ChecksKeys (relation.HasKey interface.registry (interface.shapeTypeName shape) path)
      (relation.query interface path) := by
  have isLeaf := (registers_of_generate generated).namesOf?_builtIn "Int" (by decide)
  have isDefined := field?_relation generated member leads
  have childType : (relationField config.depthLimit shape followed).type.baseName =
      interface.shapeTypeName (shape.below relation.target) := by
    rw [baseName_relationField, shapeTypeName, (represents_of_generate generated).config_eq,
      ← sameTarget]
    rfl
  rw [← sameTarget] at inner
  rw [RelationPlan.query, ← sameTarget, ← sameCardinality]
  refine .after (fun _ _ => typesAt_ne_unknownField _) fun types atTable => ?_
  refine (readRelationArguments_checksKeys isLeaf distinct (inner types (typesAt_eq_ok.1 atTable))
    config.depthLimit shape).congr fun key => ?_
  rw [RelationPlan.HasKey, isDefined, argumentsOf, Option.map_some, Option.getD_some]
  simp only [Option.some.injEq, exists_eq_left', childType, sameTarget]

/-- The query for a plan checks the keys of its filter and order and those of the plan. -/
theorem toQuery_checksKeys
    (generated : generate schema config = .ok interface)
    (member : shape ∈ schema.shapes config.depthLimit)
    (wellFormed : fields.IsWellFormed)
    (made : plan.MadeFrom interface.schema shape fields)
    (found : interface.table? shape.table = some types)
    (sorted : SelectArguments)
    (path : String) :
    ChecksKeys (fun key => SortedKey interface.registry shape.table path sorted key ∨
        plan.HasKey interface.registry (interface.shapeTypeName shape) path key)
      (plan.toQuery interface types sorted path) := by
  induction made generalizing types sorted path with
  | @plan shape fields plan distinct known given inner inductionHypothesis =>
      have declares := (registers_of_generate generated).declaresInputs
        (List.mem_of_find?_eq_some found)
      rw [← name_of_table? found]
      have checksRelations : ∀ relation ∈ plan.relations, ChecksKeys
          (relation.HasKey interface.registry (interface.shapeTypeName shape) path)
          (relation.query interface path) := by
        intro relation isRelation
        obtain ⟨followed, leads, sameTarget, sameCardinality⟩ := known relation isRelation
        obtain ⟨field, isField, _, sameArguments⟩ := given relation isRelation
        refine query_checksKeys generated member leads sameTarget sameCardinality ?_ ?_
        · rw [← sameArguments]
          exact keys_nodup (wellFormed [] field isField)
        · intro types isTable sorted
          refine inductionHypothesis relation isRelation ?_ (wellFormed.below relation.name) isTable
            sorted _
          rw [← sameTarget]
          exact follow_mem_shapes generated member leads
      obtain ⟨columns, relations, output⟩ := plan
      have checksPlan := toQueries_checksKeys checksRelations
      have checksOrder := compileOrderBy_checksKeys declares (extendPath path "orderBy")
        sorted.orderBy
      rw [SelectionPlan.toQuery]
      refine (compileWhere_checksKeys declares sorted.filter (.named (filtersName types.name))
        (extendPath path "where") rfl rfl).bind (fun _ _ => checksOrder.bind (fun _ _ =>
          checksPlan.andThen fun _ => .ok _) fun _ => Iff.rfl) fun key => ?_
      rw [SelectionPlan.hasKey_iff, SortedKey, or_assoc]

/-- Leaves give no arguments. -/
theorem not_selectionKey
    {registry : TypeRegistry}
    {type start : String}
    {selection : Selection}
    (leaves : Leaves selection)
    (key : InputKey) :
    ¬registry.SelectionKey type start selection key := by
  rintro ⟨along, reached, fields, field, selects, isSelected, entry, isGiven, _⟩
  cases selects with
  | here =>
      rw [(leaves field isSelected).1] at isGiven
      cases isGiven
  | @inside _ _ _ _ first _ _ isFirst _ inner =>
      rw [(leaves first isFirst).2] at inner
      rw [inner.of_nil] at isSelected
      cases isSelected

/-- Rows without relations are selected by leaves. -/
theorem leaves_of_pruneFields
    {selection : Selection}
    {extended : SelectionPlan}
    (pruned : interface.pruneFields types none path plan selection = .ok extended) :
    Leaves selection := by
  intro field isSelected
  obtain ⟨_, _, prunedField⟩ := pruneField_of_mem pruned field isSelected
  rcases pruneField_eq_ok.1 prunedField with
    ⟨_, isLeaf, _⟩ | ⟨_, _, isLeaf, _⟩ | ⟨_, _, _, _, _, _, atShape, _⟩
  · exact checkLeaf_eq_ok.1 isLeaf
  · exact checkLeaf_eq_ok.1 isLeaf
  · cases (relationAt_eq_ok.1 atShape).1

theorem leaves_of_mutationPlan
    {operation : Operation}
    {selection : Selection}
    {planned : Option (List String) × ResponsePlan}
    (made : interface.mutationPlan operation selection = .ok planned) :
    Leaves selection := by
  rw [mutationPlan] at made
  split at made
  · simp only [pruneSuccess, bind_eq_ok] at made
    obtain ⟨_, ⟨entries, each, _⟩, _⟩ := made
    intro field isSelected
    obtain ⟨_, _, made⟩ := exists_result (mapM_eq_ok.1 each) field isSelected
    rw [successEntry, check_bind_eq_ok] at made
    exact checkLeaf_eq_ok.1 made.1
  · simp only [pruneItem, bind_eq_ok] at made
    obtain ⟨_, ⟨_, _, _, pruned, _⟩, _⟩ := made
    exact leaves_of_pruneFields pruned

/-- What is compiled with the plan of a mutation checks its keys, and selections of mutations give
no arguments. -/
theorem mutationPlan_checksKeys
    {α : Type}
    {operation : Operation}
    {selection : Selection}
    {keys : InputKey -> Prop}
    {compile : Option (List String) × ResponsePlan -> Except ArgumentError α}
    (checks : ∀ planned, ChecksKeys keys (compile planned))
    (type : String) :
    ChecksKeys (fun key => ReportedBy (interface.mutationPlan operation selection) key ∨
        keys key ∨ interface.registry.SelectionKey type "" selection key)
      (interface.mutationPlan operation selection >>= compile) := by
  refine (ChecksKeys.reported _).bind (fun planned made => (checks planned).congr fun key => ?_)
    fun _ => Iff.rfl
  exact or_iff_left (not_selectionKey (leaves_of_mutationPlan made) key)

variable {operation : Operation} {arguments : JsonEntries} {selection : Selection} {name : String}

/-- The shape of whole selects from the table of an operation is one of the schema. -/
theorem topShape_mem
    (generated : generate schema config = .ok interface)
    (isOperation : operation ∈ interface.operations) :
    interface.topShape operation.table ∈ schema.shapes config.depthLimit := by
  have represents := represents_of_generate generated
  obtain ⟨table, isTable, isNamed⟩ := represents.mem_operations.1 isOperation
  rw [topShape, represents.config_eq, ← isNamed]
  exact Schema.topShape_mem_shapes (validate_of_generate generated) config.depthLimit isTable

/-- A select checks the keys of its filter and order and those of its selection. -/
theorem compileSelect_checksKeys
    (generated : generate schema config = .ok interface)
    (isOperation : operation ∈ interface.operations)
    (found : interface.table? operation.table = some types)
    (wellFormed : selection.IsWellFormed)
    (sorted : SelectArguments) :
    ChecksKeys (fun key =>
        ReportedBy (interface.prune (interface.topShape operation.table) operation.name selection)
            key ∨
          SortedKey interface.registry operation.table "" sorted key ∨
            interface.registry.SelectionKey
              (interface.shapeTypeName (interface.topShape operation.table)) "" selection key)
      (interface.compileSelect types operation sorted selection) := by
  have member := topShape_mem generated isOperation
  refine (ChecksKeys.reported _).bind (fun plan pruned => ?_) fun _ => Iff.rfl
  have made : plan.MadeFrom interface.schema (interface.topShape operation.table) selection := by
    simp only [prune, bind_eq_ok, pure_eq_ok] at pruned
    obtain ⟨_, _, inner, prunedFields, rfl⟩ := pruned
    exact SelectionPlan.madeFrom_withIdentity
      (madeFrom_of_pruneFields (fun _ isField => isField) (madeFrom_empty _ _) prunedFields) _
  have checks := fun sorted => toQuery_checksKeys generated member wellFormed made found sorted ""
  simp only [← hasKey_iff_of_prune generated member wellFormed pruned] at checks
  split
  · exact (checks { sorted with limit := some 1 }).andThen fun _ => .ok _
  · exact (checks sorted).andThen fun _ => .ok _

end Interface

end RelationalApi
