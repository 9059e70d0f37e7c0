import RelationalApi.Proofs.Interface.Paths
import RelationalApi.Proofs.Selection.Below
import RelationalApi.Selection.Pruning

/-!
# What pruning finds

A field that is pruned is the type name, a column, or a relation that its shape may follow.  Rows
without a shape have no relations, so the answers for them are flat.  The path of a selection is
only named in faults, so it is pruned alike at every path.
-/

namespace RelationalApi

open Outcome

theorem mem_addColumn {columns : List String} {column other : String} :
    other ∈ addColumn columns column ↔ other ∈ columns ∨ other = column := by
  rw [addColumn]
  split
  · rename_i present
    rw [List.contains_iff_mem] at present
    constructor
    · exact .inl
    · rintro (member | rfl)
      · exact member
      · exact present
  · rw [List.mem_append, List.mem_singleton]

/-- A field without an object below it has to have neither arguments nor fields, wherever it is. -/
theorem checkLeaf_eq_ok {path : String} {field : SelectedField} :
    checkLeaf path field = .ok () ↔ field.arguments = [] ∧ field.selection = [] := by
  rw [checkLeaf, ← List.isEmpty_iff, ← List.isEmpty_iff]
  cases field.arguments.isEmpty <;> cases field.selection.isEmpty <;> simp

/-- A shape is one of a table.  Rows without a shape are those of a mutation. -/
def TableTypes.HasShape (types : TableTypes) (shape : Option Shape) : Prop :=
  ∀ parent, shape = some parent -> parent.table = types.name

theorem TableTypes.hasShape_some
    {types : TableTypes}
    {shape : Shape}
    (isTable : types.name = shape.table) :
    types.HasShape (some shape) := by
  rintro _ ⟨⟩
  exact isTable.symm

theorem TableTypes.hasShape_none (types : TableTypes) : types.HasShape none :=
  fun _ isShape => nomatch isShape

namespace Interface

variable {interface : Interface} {types : TableTypes}

theorem typesAt_eq_ok {table path : String} :
    interface.typesAt table path = .ok types ↔ interface.table? table = some types := by
  rw [typesAt]
  cases interface.table? table <;> simp

theorem relationAt_eq_ok
    {shape : Option Shape}
    {path name : String}
    {parent : Shape}
    {relation : Relation} :
    interface.relationAt shape path name = .ok (parent, relation) ↔
      shape = some parent ∧ parent.relation? interface.schema name = some relation := by
  rw [relationAt]
  cases shape with
  | none => simp
  | some candidate =>
      cases found : candidate.relation? interface.schema name with
      | none =>
          simp only [Option.bind_some, found, Option.map_none, Option.some.injEq, reduceCtorEq,
            false_iff, not_and]
          rintro rfl
          rw [found]
          simp
      | some candidateRelation =>
          simp only [Option.bind_some, found, Option.map_some, Except.ok.injEq, Prod.mk.injEq,
            Option.some.injEq]
          constructor
          · rintro ⟨rfl, rfl⟩
            exact ⟨rfl, found⟩
          · rintro ⟨rfl, foundParent⟩
            rw [found] at foundParent
            exact ⟨rfl, Option.some.inj foundParent⟩

/-- A field is pruned as the type name, as a column, or as a relation with a plan of its own. -/
theorem pruneField_eq_ok
    {shape : Option Shape}
    {path : String}
    {plan extended : SelectionPlan}
    {field : SelectedField} :
    interface.pruneField types shape path plan field = .ok extended ↔
      (field.name = typenameField ∧ checkLeaf (joinPath path field.key) field = .ok () ∧
        plan.append (.typename field.key) = extended) ∨
      (field.name ≠ typenameField ∧ (types.column? field.name).isSome = true ∧
        checkLeaf (joinPath path field.key) field = .ok () ∧
          plan.appendColumn field.key field.name = extended) ∨
      (field.name ≠ typenameField ∧ (types.column? field.name).isSome = false ∧
        ∃ parent relation childTypes inner,
          interface.relationAt shape path field.name = .ok (parent, relation) ∧
            field.selection.isEmpty = false ∧
            interface.typesAt (parent.follow relation).table (joinPath path field.key)
              = .ok childTypes ∧
            interface.pruneFields childTypes (some (parent.follow relation))
              (joinPath path field.key)
              (SelectionPlan.empty (interface.shapeTypeName (parent.follow relation))
                childTypes.name)
              field.selection = .ok inner ∧
            plan.appendRelation (joinPath path field.key) field.key relation field.arguments
              (inner.withIdentity childTypes.identity) = .ok extended) := by
  obtain ⟨name, label, arguments, selection⟩ := field
  rw [pruneField]
  by_cases isTypename : name = typenameField
  · rw [if_pos isTypename, check_bind_eq_ok, pure_eq_ok]
    simp [isTypename]
  · rw [if_neg isTypename]
    cases isColumn : (types.column? name).isSome with
    | true =>
        rw [if_pos rfl, check_bind_eq_ok, pure_eq_ok]
        simp [isTypename]
    | false =>
        cases isEmpty : selection.isEmpty with
        | true => simp [isTypename, bind_eq_ok, throw, throwThe, MonadExceptOf.throw]
        | false => simp [isTypename, bind_eq_ok]

/-- Fields that are pruned one after another are each pruned. -/
theorem pruneField_of_mem
    {shape : Option Shape}
    {plan extended : SelectionPlan}
    {selection : Selection}
    (pruned : interface.pruneFields types shape path plan selection = .ok extended) :
    ∀ field ∈ selection, ∃ before after,
      interface.pruneField types shape path before field = .ok after := by
  induction selection generalizing plan with
  | nil => simp
  | cons first selection inductionHypothesis =>
      rw [pruneFields] at pruned
      obtain ⟨between, prunedFirst, prunedOthers⟩ := bind_eq_ok.1 pruned
      exact List.forall_mem_cons.2 ⟨⟨_, _, prunedFirst⟩, inductionHypothesis prunedOthers⟩

/-- The relation of a shape that a name stands for leads from the table of the shape. -/
theorem Represents.leads_of_relation?
    {schema : Schema}
    {config : EngineConfig}
    (represents : interface.Represents schema config)
    {shape : Option Shape}
    {parent : Shape}
    (hasShape : types.HasShape shape)
    (isShape : shape = some parent)
    {name : String}
    {relation : Relation}
    (isRelation : parent.relation? interface.schema name = some relation) :
    relation.name = name ∧ schema.relation? types.name name = some relation := by
  have leads := (Shape.relation?_eq_some.1 isRelation).2
  rw [hasShape parent isShape, represents.schema_eq] at leads
  exact ⟨(Schema.mem_of_relation? leads).2, leads⟩

end Interface

section Paths

variable {path otherPath : String}

-- The recursion follows the relation or plan that is added, as merging does.
mutual

theorem toOption_addRelation :
    (relation : RelationPlan SelectionPlan) -> ∀ relations,
      (addRelation path relations relation).toOption =
        (addRelation otherPath relations relation).toOption
  | ⟨name, target, cardinality, arguments, plan⟩, relations => by
      rw [addRelation, addRelation]
      split
      · rfl
      · rename_i present _
        split
        · rw [toOption_bind, toOption_bind, toOption_mergePlan plan present.plan]
        · rfl

theorem toOption_mergePlan :
    (plan : SelectionPlan) -> ∀ present,
      (mergePlan path present plan).toOption = (mergePlan otherPath present plan).toOption
  | ⟨columns, relations, output⟩, present => by
      rw [mergePlan, mergePlan, toOption_bind, toOption_bind,
        toOption_addRelations relations present.relations]

theorem toOption_addRelations :
    (added : List (RelationPlan SelectionPlan)) -> ∀ relations,
      (addRelations path relations added).toOption =
        (addRelations otherPath relations added).toOption
  | [], relations => by rw [addRelations, addRelations]
  | relation :: added, relations => by
      rw [addRelations, addRelations, toOption_bind, toOption_bind,
        toOption_addRelation relation relations]
      exact congrArg _ (funext fun extended => toOption_addRelations added extended)

end

namespace Interface

variable {interface : Interface} {types : TableTypes} {shape : Option Shape}
variable {plan : SelectionPlan} {field : SelectedField} {selection : Selection}

theorem toOption_checkLeaf :
    (checkLeaf path field).toOption = (checkLeaf otherPath field).toOption := by
  rw [checkLeaf, checkLeaf]
  cases field.arguments.isEmpty <;> cases field.selection.isEmpty <;> rfl

theorem toOption_typesAt {table : String} :
    (interface.typesAt table path).toOption = (interface.typesAt table otherPath).toOption := by
  rw [typesAt, typesAt]
  cases interface.table? table <;> rfl

theorem toOption_relationAt {name : String} :
    (interface.relationAt shape path name).toOption =
      (interface.relationAt shape otherPath name).toOption := by
  rw [relationAt, relationAt]
  split <;> rfl

theorem toOption_appendRelation
    {key : String}
    {relation : Relation}
    {arguments : JsonEntries}
    {inner : SelectionPlan} :
    (plan.appendRelation path key relation arguments inner).toOption =
      (plan.appendRelation otherPath key relation arguments inner).toOption := by
  rw [SelectionPlan.appendRelation, SelectionPlan.appendRelation, toOption_bind, toOption_bind,
    toOption_addRelation]

/-- A field is pruned alike at every path, given that what is selected below it is. -/
theorem toOption_pruneField
    (below : ∀ types shape path otherPath plan,
      (interface.pruneFields types shape path plan field.selection).toOption =
        (interface.pruneFields types shape otherPath plan field.selection).toOption) :
    (interface.pruneField types shape path plan field).toOption =
      (interface.pruneField types shape otherPath plan field).toOption := by
  obtain ⟨name, label, arguments, selection⟩ := field
  rw [pruneField, pruneField]
  dsimp only
  split
  · rw [toOption_bind, toOption_bind, toOption_checkLeaf]
  · split
    · rw [toOption_bind, toOption_bind, toOption_checkLeaf]
    · rw [toOption_bind, toOption_bind, toOption_relationAt]
      refine congrArg _ (funext fun (parent, relation) => ?_)
      dsimp only
      split
      · rfl
      · rw [toOption_bind, toOption_bind, toOption_typesAt]
        refine congrArg _ (funext fun childTypes => ?_)
        rw [toOption_bind, toOption_bind, below]
        exact congrArg _ (funext fun inner => toOption_appendRelation)

theorem toOption_pruneFields :
    (interface.pruneFields types shape path plan selection).toOption =
      (interface.pruneFields types shape otherPath plan selection).toOption := by
  induction selection using Selection.below_induction
    generalizing types shape path otherPath plan with
  | step selection below =>
      induction selection generalizing plan with
      | nil => rw [pruneFields, pruneFields]
      | cons field selection inductionHypothesis =>
          rw [List.forall_mem_cons] at below
          rw [pruneFields, pruneFields, toOption_bind, toOption_bind,
            toOption_pruneField fun _ _ _ _ _ => below.1]
          exact congrArg _ (funext fun extended => inductionHypothesis below.2)

theorem toOption_prune {shape : Shape} :
    (interface.prune shape path selection).toOption =
      (interface.prune shape otherPath selection).toOption := by
  rw [prune, prune, toOption_bind, toOption_bind, toOption_typesAt]
  refine congrArg _ (funext fun types => ?_)
  rw [toOption_bind, toOption_bind, toOption_pruneFields]

/-- A selection has the same plan at every path. -/
theorem prune_eq_ok_iff {shape : Shape} :
    interface.prune shape path selection = .ok plan ↔
      interface.prune shape otherPath selection = .ok plan := by
  rw [← toOption_eq_some, ← toOption_eq_some, toOption_prune]

end Interface
end Paths
end RelationalApi
