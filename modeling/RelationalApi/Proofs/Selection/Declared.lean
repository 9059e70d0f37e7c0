import RelationalApi.Proofs.Interface.Paths
import RelationalApi.Proofs.Selection.Merging

/-!
# Plans within the schema

A plan for the rows of a table asks for columns that the table has, and for relations that lead from
it, each with a plan for the rows that the relation leads to.  Merging plans keeps this, as plans
for one relation are plans for rows of one table.
-/

namespace RelationalApi

open Outcome

/-- The table of a name has a column. -/
def Schema.HasColumn (schema : Schema) (name column : String) : Prop :=
  ∃ table, schema.table? name = some table ∧ column ∈ table.columnNames

/-- A plan loads columns of a table and follows relations of the table, where it does the same. -/
inductive SelectionPlan.Declared (schema : Schema) : String -> SelectionPlan -> Prop
  | plan
      {table : String}
      {plan : SelectionPlan}
      (columns : ∀ column ∈ plan.columns, schema.HasColumn table column)
      (relations : ∀ relation ∈ plan.relations, ∃ found,
        schema.relation? table relation.name = some found ∧ found.target = relation.target)
      (inner : ∀ relation ∈ plan.relations, Declared schema relation.target relation.plan) :
      Declared schema table plan

/-- A relation leads from a table, with a plan for the rows that it leads to. -/
def RelationPlan.Declared (schema : Schema) (table : String)
    (relation : RelationPlan SelectionPlan) : Prop :=
  (∃ found, schema.relation? table relation.name = some found ∧ found.target = relation.target) ∧
    relation.plan.Declared schema relation.target

section Merging

variable {schema : Schema} {table path name : String} {plan : SelectionPlan}
variable {relations : List (RelationPlan SelectionPlan)}
variable {relation other : RelationPlan SelectionPlan}

theorem SelectionPlan.declared_iff :
    plan.Declared schema table ↔
      (∀ column ∈ plan.columns, schema.HasColumn table column) ∧
        ∀ relation ∈ plan.relations, relation.Declared schema table := by
  constructor
  · rintro ⟨columns, relations, inner⟩
    exact ⟨columns, fun relation member => ⟨relations relation member, inner relation member⟩⟩
  · rintro ⟨columns, relations⟩
    exact .plan columns (fun relation member => (relations relation member).1)
      fun relation member => (relations relation member).2

theorem RelationPlan.Declared.target_eq
    (declared : relation.Declared schema table)
    (otherDeclared : other.Declared schema table)
    (sameName : relation.name = other.name) :
    relation.target = other.target := by
  obtain ⟨⟨found, isFound, sameTarget⟩, _⟩ := declared
  obtain ⟨⟨_, isFoundAgain, otherTarget⟩, _⟩ := otherDeclared
  rw [sameName, isFoundAgain] at isFound
  cases isFound
  exact sameTarget.symm.trans otherTarget

-- The recursion follows the relation or plan that is added, as merging does.
mutual

theorem addRelation_declared :
    (relation : RelationPlan SelectionPlan) -> ∀ {table relations merged},
      (∀ old ∈ relations, RelationPlan.Declared schema table old) ->
        relation.Declared schema table -> addRelation path relations relation = .ok merged ->
          ∀ relation ∈ merged, RelationPlan.Declared schema table relation
  | ⟨name, target, cardinality, arguments, plan⟩, table, relations, merged, declared, new,
      added => by
      rw [addRelation] at added
      split at added
      · cases added
        exact List.forall_mem_append.2 ⟨declared, List.forall_mem_singleton.2 new⟩
      · rename_i present found
        split at added
        · obtain ⟨mergedPlan, mergedPlans, same⟩ := bind_eq_ok.1 added
          rw [pure_eq_ok] at same
          subst same
          intro relation member
          rcases mem_replacePlan member with old | ⟨other, foundOther, rfl⟩
          · exact declared relation old
          · rw [found] at foundOther
            cases foundOther
            have isPresent := declared present (List.mem_of_find?_eq_some found)
            have isName : present.name = name := by simpa using List.find?_some found
            have innerNew := new.2
            rw [← isPresent.target_eq new isName] at innerNew
            exact ⟨isPresent.1, mergePlan_declared plan isPresent.2 innerNew mergedPlans⟩
        · cases added

/-- Plans for the rows of one table are merged to a plan for them. -/
theorem mergePlan_declared :
    (plan : SelectionPlan) -> ∀ {table present merged},
      present.Declared schema table -> plan.Declared schema table ->
        mergePlan path present plan = .ok merged -> merged.Declared schema table
  | ⟨columns, relations, output⟩, table, present, merged, declared, new, added => by
      rw [mergePlan] at added
      obtain ⟨mergedRelations, addedRelations, same⟩ := bind_eq_ok.1 added
      rw [pure_eq_ok] at same
      subst same
      rw [SelectionPlan.declared_iff] at declared new ⊢
      refine ⟨fun column member => ?_,
        addRelations_declared relations declared.2 new.2 addedRelations⟩
      rcases mem_foldl_addColumn.1 member with old | isNew
      · exact declared.1 column old
      · exact new.1 column isNew

theorem addRelations_declared :
    (added : List (RelationPlan SelectionPlan)) -> ∀ {table relations merged},
      (∀ old ∈ relations, RelationPlan.Declared schema table old) ->
        (∀ relation ∈ added, RelationPlan.Declared schema table relation) ->
          addRelations path relations added = .ok merged ->
            ∀ relation ∈ merged, RelationPlan.Declared schema table relation
  | [], table, relations, merged, declared, _, added => by
      rw [addRelations] at added
      cases added
      exact declared
  | relation :: others, table, relations, merged, declared, new, added => by
      rw [addRelations] at added
      obtain ⟨extended, addedFirst, addedOthers⟩ := bind_eq_ok.1 added
      rw [List.forall_mem_cons] at new
      exact addRelations_declared others (addRelation_declared relation declared new.1 addedFirst)
        new.2 addedOthers

end

end Merging

namespace SelectionPlan

variable {schema : Schema} {table : String} {plan : SelectionPlan}

theorem declared_empty (typeName name : String) : (empty typeName name).Declared schema table :=
  declared_iff.2 ⟨by simp [empty], by simp [empty]⟩

theorem Declared.append
    (declared : plan.Declared schema table)
    (entry : OutputEntry ObjectOutput) :
    (plan.append entry).Declared schema table := by
  rw [declared_iff] at declared ⊢
  exact declared

theorem Declared.appendColumn
    (declared : plan.Declared schema table)
    {column : String}
    (isColumn : schema.HasColumn table column)
    (key : String) :
    (plan.appendColumn key column).Declared schema table := by
  obtain ⟨columns, relations⟩ := declared_iff.1 declared
  refine declared_iff.2 ⟨fun other member => ?_, relations⟩
  rcases mem_addColumn.1 member with old | rfl
  · exact columns other old
  · exact isColumn

theorem Declared.appendRelation
    (declared : plan.Declared schema table)
    {relation : Relation}
    {path key : String}
    {arguments : JsonEntries}
    {inner extended : SelectionPlan}
    (found : schema.relation? table relation.name = some relation)
    (declaredInner : inner.Declared schema relation.target)
    (appended : plan.appendRelation path key relation arguments inner = .ok extended) :
    extended.Declared schema table := by
  obtain ⟨columns, relations⟩ := declared_iff.1 declared
  rw [SelectionPlan.appendRelation, bind_eq_ok] at appended
  obtain ⟨merged, added, same⟩ := appended
  rw [pure_eq_ok] at same
  subst same
  exact declared_iff.2 ⟨columns,
    addRelation_declared _ relations ⟨⟨relation, found, rfl⟩, declaredInner⟩ added⟩

theorem Declared.withIdentity
    (declared : plan.Declared schema table)
    {identity : String}
    (isColumn : schema.HasColumn table identity) :
    (plan.withIdentity identity).Declared schema table := by
  rw [SelectionPlan.withIdentity]
  split
  · exact declared_iff.2 ⟨List.forall_mem_singleton.2 isColumn, (declared_iff.1 declared).2⟩
  · exact declared

end SelectionPlan

namespace Interface

variable {interface : Interface} {schema : Schema} {config : EngineConfig} {types : TableTypes}
variable {shape : Option Shape} {path name : String} {selection : Selection}
variable {plan extended : SelectionPlan}

/-- The columns with codecs are those of the table. -/
theorem Represents.hasColumn_of_column?
    (represents : interface.Represents schema config)
    (found : interface.table? name = some types)
    {column : String}
    (isColumn : (types.column? column).isSome = true) :
    schema.HasColumn name column := by
  obtain ⟨table, isTable, mapped⟩ := represents.table?_eq_some.1 found
  obtain ⟨codec, foundCodec⟩ := Option.isSome_iff_exists.1 isColumn
  have isNamed : codec.column = column := by simpa using List.find?_some foundCodec
  refine ⟨table, isTable, ?_⟩
  rw [← ColumnCodec.map_column_ofTable (TableTypes.ofTable_eq_ok mapped).2.1, ← isNamed]
  exact List.mem_map_of_mem (List.mem_of_find?_eq_some foundCodec)

theorem Represents.hasColumn_identity
    (represents : interface.Represents schema config)
    (found : interface.table? name = some types) :
    schema.HasColumn name types.identity := by
  obtain ⟨table, isTable, _⟩ := represents.table?_eq_some.1 found
  exact ⟨table, isTable, represents.identity_mem found isTable⟩

/-- Fields of the rows of a table extend a plan for these rows to one for them. -/
theorem declared_of_pruneFields
    (represents : interface.Represents schema config)
    (found : interface.table? types.name = some types)
    (hasShape : types.HasShape shape)
    (declared : plan.Declared schema types.name)
    (pruned : interface.pruneFields types shape path plan selection = .ok extended) :
    extended.Declared schema types.name := by
  induction selection using Selection.below_induction
    generalizing types shape path plan extended with
  | step selection below =>
      induction selection generalizing plan with
      | nil =>
          rw [pruneFields] at pruned
          cases pruned
          exact declared
      | cons field selection inductionHypothesis =>
          rw [List.forall_mem_cons] at below
          rw [pruneFields] at pruned
          obtain ⟨next, prunedFirst, prunedRest⟩ := bind_eq_ok.1 pruned
          refine inductionHypothesis below.2 ?_ prunedRest
          rcases pruneField_eq_ok.1 prunedFirst with
            ⟨_, _, rfl⟩ | ⟨_, isColumn, _, rfl⟩ |
              ⟨_, _, parent, relation, childTypes, inner, atShape, _, atTable, prunedInner,
                appended⟩
          · exact declared.append _
          · exact declared.appendColumn (represents.hasColumn_of_column? found isColumn) _
          · obtain ⟨rfl, isRelation⟩ := relationAt_eq_ok.1 atShape
            have foundChild := typesAt_eq_ok.1 atTable
            have isTarget : childTypes.name = relation.target := name_of_table? foundChild
            obtain ⟨isNamed, leads⟩ := represents.leads_of_relation? hasShape rfl isRelation
            rw [← isNamed] at leads
            have declaredInner := below.1 (isTarget.symm ▸ foundChild)
              (TableTypes.hasShape_some isTarget) (SelectionPlan.declared_empty _ _) prunedInner
            rw [isTarget] at declaredInner
            exact declared.appendRelation leads
              (declaredInner.withIdentity (represents.hasColumn_identity foundChild)) appended

/-- The plan for a selection from the rows of a table stays within the schema. -/
theorem declared_of_prune
    {shape : Shape}
    (represents : interface.Represents schema config)
    (pruned : interface.prune shape path selection = .ok plan) :
    plan.Declared schema shape.table := by
  simp only [prune, bind_eq_ok, pure_eq_ok] at pruned
  obtain ⟨types, atTable, inner, prunedFields, rfl⟩ := pruned
  have found := typesAt_eq_ok.1 atTable
  have isTable := name_of_table? found
  have declared := declared_of_pruneFields represents (isTable.symm ▸ found)
    (TableTypes.hasShape_some isTable) (SelectionPlan.declared_empty _ _) prunedFields
  rw [isTable] at declared
  exact declared.withIdentity (represents.hasColumn_identity found)

/-- The plan for a selection from the returned rows of a table stays within the schema. -/
theorem declared_of_pruneItem
    {table : String}
    (represents : interface.Represents schema config)
    (pruned : interface.pruneItem table path selection = .ok plan) :
    plan.Declared schema table := by
  simp only [pruneItem, bind_eq_ok, pure_eq_ok] at pruned
  obtain ⟨types, atTable, inner, prunedFields, rfl⟩ := pruned
  have found := typesAt_eq_ok.1 atTable
  have isTable := name_of_table? found
  have declared := declared_of_pruneFields represents (isTable.symm ▸ found)
    types.hasShape_none (SelectionPlan.declared_empty _ _) prunedFields
  rw [isTable] at declared
  exact declared.withIdentity (represents.hasColumn_identity found)

end Interface
end RelationalApi
