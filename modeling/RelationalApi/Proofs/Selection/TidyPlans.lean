import RelationalApi.Proofs.Interface.Paths
import RelationalApi.Proofs.Selection.Merging
import RelationalApi.Proofs.Selection.Plans

/-!
# Plans without repetitions

Pruning makes plans that name no column and no relation twice, load a column for the rows of every
relation, and follow relations no further than the shape of their rows may.  Merging keeps all this:
a relation that is there already is replaced by a plan that loads what either of the two loads.
-/

namespace RelationalApi

open Outcome

/-- A plan names no column and no relation twice, and follows as many relations one after another as
may be followed; the plans of its relations do the same and load a column each. -/
inductive SelectionPlan.Tidy : Option Nat -> SelectionPlan -> Prop
  | plan
      {remaining : Option Nat}
      {plan : SelectionPlan}
      (columns : plan.columns.Nodup)
      (names : (plan.relations.map (·.name)).Nodup)
      (followed : ∀ relation ∈ plan.relations, remaining ≠ some 0 ∧ relation.plan.columns ≠ [])
      (inner : ∀ relation ∈ plan.relations, Tidy (remaining.map (· - 1)) relation.plan) :
      Tidy remaining plan

/-- A relation may be followed, by a plan of this form that loads a column. -/
def RelationPlan.Tidy (remaining : Option Nat) (relation : RelationPlan SelectionPlan) : Prop :=
  (remaining ≠ some 0 ∧ relation.plan.columns ≠ []) ∧
    relation.plan.Tidy (remaining.map (· - 1))

/-- Relations of different names, each of which may be followed. -/
def RelationPlan.AllTidy (remaining : Option Nat) (relations : List (RelationPlan SelectionPlan)) :
    Prop :=
  (relations.map (·.name)).Nodup ∧ ∀ relation ∈ relations, relation.Tidy remaining

section Merging

variable {path : String} {remaining : Option Nat} {plan : SelectionPlan}

theorem SelectionPlan.tidy_iff :
    plan.Tidy remaining ↔
      plan.columns.Nodup ∧ RelationPlan.AllTidy remaining plan.relations := by
  constructor
  · rintro ⟨columns, names, followed, inner⟩
    exact ⟨columns, names, fun relation member => ⟨followed relation member, inner relation member⟩⟩
  · rintro ⟨columns, names, tidy⟩
    exact .plan columns names (fun relation member => (tidy relation member).1)
      fun relation member => (tidy relation member).2

theorem addColumn_nodup
    {columns : List String}
    (distinct : columns.Nodup)
    (column : String) :
    (addColumn columns column).Nodup := by
  rw [addColumn]
  split
  · exact distinct
  · rename_i absent
    rw [List.contains_iff_mem] at absent
    rw [← List.concat_eq_append]
    exact distinct.concat absent

theorem foldl_addColumn_nodup
    {columns : List String}
    (distinct : columns.Nodup)
    (added : List String) :
    (added.foldl addColumn columns).Nodup := by
  induction added generalizing columns with
  | nil => exact distinct
  | cons column added inductionHypothesis =>
      exact inductionHypothesis (addColumn_nodup distinct column)

-- The recursion follows the relation or plan that is added, as merging does.
mutual

theorem addRelation_tidy :
    (relation : RelationPlan SelectionPlan) -> ∀ {remaining relations merged},
      RelationPlan.AllTidy remaining relations -> relation.Tidy remaining ->
        addRelation path relations relation = .ok merged -> RelationPlan.AllTidy remaining merged
  | ⟨name, target, cardinality, arguments, plan⟩, remaining, relations, merged, ⟨names, tidy⟩, new,
      added => by
      rw [addRelation] at added
      split at added
      · rename_i absent
        cases added
        have notNamed : name ∉ relations.map (·.name) := by
          intro isName
          obtain ⟨relation, member, same⟩ := List.mem_map.1 isName
          exact List.find?_eq_none.1 absent relation member (beq_iff_eq.2 same)
        refine ⟨?_, List.forall_mem_append.2 ⟨tidy, List.forall_mem_singleton.2 new⟩⟩
        rw [List.map_append, List.map_singleton, ← List.concat_eq_append]
        exact names.concat notNamed
      · rename_i present found
        split at added
        · obtain ⟨mergedPlan, mergedPlans, same⟩ := bind_eq_ok.1 added
          rw [pure_eq_ok] at same
          subst same
          refine ⟨by rw [map_name_replacePlan]; exact names, fun relation member => ?_⟩
          rcases mem_replacePlan member with old | ⟨other, foundOther, rfl⟩
          · exact tidy relation old
          · rw [found] at foundOther
            cases foundOther
            obtain ⟨⟨mayFollow, loads⟩, inner⟩ := tidy present (List.mem_of_find?_eq_some found)
            obtain ⟨mergedInner, grows⟩ := mergePlan_tidy plan inner new.2 mergedPlans
            exact ⟨⟨mayFollow, fun isEmpty => loads (grows isEmpty)⟩, mergedInner⟩
        · cases added

/-- Plans of this form are merged to a plan of this form, which loads a column if the first does. -/
theorem mergePlan_tidy :
    (plan : SelectionPlan) -> ∀ {remaining present merged},
      present.Tidy remaining -> plan.Tidy remaining -> mergePlan path present plan = .ok merged ->
        merged.Tidy remaining ∧ (merged.columns = [] -> present.columns = [])
  | ⟨columns, relations, output⟩, remaining, present, merged, tidy, new, added => by
      rw [mergePlan] at added
      obtain ⟨mergedRelations, addedRelations, same⟩ := bind_eq_ok.1 added
      rw [pure_eq_ok] at same
      subst same
      rw [SelectionPlan.tidy_iff] at tidy new ⊢
      refine ⟨⟨foldl_addColumn_nodup tidy.1 columns,
        addRelations_tidy relations tidy.2 new.2.2 addedRelations⟩, fun isEmpty => ?_⟩
      refine List.eq_nil_iff_forall_not_mem.2 fun column member => ?_
      exact List.eq_nil_iff_forall_not_mem.1 isEmpty column (mem_foldl_addColumn.2 (.inl member))

theorem addRelations_tidy :
    (added : List (RelationPlan SelectionPlan)) -> ∀ {remaining relations merged},
      RelationPlan.AllTidy remaining relations ->
        (∀ relation ∈ added, RelationPlan.Tidy remaining relation) ->
          addRelations path relations added = .ok merged -> RelationPlan.AllTidy remaining merged
  | [], remaining, relations, merged, tidy, _, added => by
      rw [addRelations] at added
      cases added
      exact tidy
  | relation :: others, remaining, relations, merged, tidy, new, added => by
      rw [List.forall_mem_cons] at new
      rw [addRelations] at added
      obtain ⟨between, addedFirst, addedOthers⟩ := bind_eq_ok.1 added
      exact addRelations_tidy others (addRelation_tidy relation tidy new.1 addedFirst) new.2
        addedOthers

end

/-- A plan is no deeper than relations may be followed. -/
theorem SelectionPlan.Tidy.depth_le
    {limit : Nat}
    (tidy : plan.Tidy (some limit)) :
    plan.depth ≤ limit := by
  generalize isLimit : some limit = remaining at tidy
  induction tidy generalizing limit with
  | @plan remaining plan _ _ followed _ inductionHypothesis =>
      subst isLimit
      rw [SelectionPlan.depth_eq]
      generalize plan.relations = relations at followed inductionHypothesis
      induction relations with
      | nil =>
          rw [relationsDepth]
          exact Nat.zero_le _
      | cons relation relations below =>
          rw [List.forall_mem_cons] at followed inductionHypothesis
          have inner : relation.plan.depth ≤ limit - 1 := inductionHypothesis.1 rfl
          have others := below followed.2 inductionHypothesis.2
          have positive : limit ≠ 0 := fun isZero => followed.1.1 (congrArg some isZero)
          rw [relationsDepth]
          omega

end Merging

namespace SelectionPlan

variable {remaining : Option Nat} {plan : SelectionPlan}

theorem tidy_empty (typeName name : String) : (empty typeName name).Tidy remaining :=
  tidy_iff.2 ⟨List.nodup_nil, List.nodup_nil, by simp [empty]⟩

theorem Tidy.append
    (tidy : plan.Tidy remaining)
    (entry : OutputEntry ObjectOutput) :
    (plan.append entry).Tidy remaining := by
  rw [tidy_iff] at tidy ⊢
  exact tidy

theorem Tidy.appendColumn
    (tidy : plan.Tidy remaining)
    (key column : String) :
    (plan.appendColumn key column).Tidy remaining := by
  obtain ⟨columns, relations⟩ := tidy_iff.1 tidy
  exact tidy_iff.2 ⟨addColumn_nodup columns column, relations⟩

theorem Tidy.appendRelation
    (tidy : plan.Tidy remaining)
    {relation : Relation}
    {path key : String}
    {arguments : JsonEntries}
    {inner extended : SelectionPlan}
    (mayFollow : remaining ≠ some 0)
    (loads : inner.columns ≠ [])
    (tidyInner : inner.Tidy (remaining.map (· - 1)))
    (appended : plan.appendRelation path key relation arguments inner = .ok extended) :
    extended.Tidy remaining := by
  obtain ⟨columns, relations⟩ := tidy_iff.1 tidy
  rw [SelectionPlan.appendRelation, bind_eq_ok] at appended
  obtain ⟨merged, added, same⟩ := appended
  rw [pure_eq_ok] at same
  subst same
  exact tidy_iff.2
    ⟨columns, addRelation_tidy _ relations ⟨⟨mayFollow, loads⟩, tidyInner⟩ added⟩

theorem Tidy.withIdentity
    (tidy : plan.Tidy remaining)
    (identity : String) :
    (plan.withIdentity identity).Tidy remaining := by
  rw [SelectionPlan.withIdentity]
  split
  · exact tidy_iff.2 ⟨List.nodup_singleton identity, (tidy_iff.1 tidy).2⟩
  · exact tidy

theorem columns_withIdentity_ne_nil (plan : SelectionPlan) (identity : String) :
    (plan.withIdentity identity).columns ≠ [] := by
  rw [SelectionPlan.withIdentity]
  split
  · exact List.cons_ne_nil _ _
  · rename_i loads
    exact fun isEmpty => loads (List.isEmpty_iff.2 isEmpty)

end SelectionPlan

namespace Interface

variable {interface : Interface} {types : TableTypes} {path : String} {selection : Selection}
variable {plan extended : SelectionPlan}

/-- Fields extend a plan without repeating what it loads. -/
theorem tidy_of_pruneFields
    {shape : Option Shape}
    (tidy : plan.Tidy (shape.bind (·.remaining)))
    (pruned : interface.pruneFields types shape path plan selection = .ok extended) :
    extended.Tidy (shape.bind (·.remaining)) := by
  induction selection using Selection.below_induction
    generalizing types shape path plan extended with
  | step selection below =>
      induction selection generalizing plan with
      | nil =>
          rw [pruneFields] at pruned
          cases pruned
          exact tidy
      | cons field selection inductionHypothesis =>
          rw [List.forall_mem_cons] at below
          rw [pruneFields] at pruned
          obtain ⟨next, prunedFirst, prunedRest⟩ := bind_eq_ok.1 pruned
          refine inductionHypothesis below.2 ?_ prunedRest
          rcases pruneField_eq_ok.1 prunedFirst with
            ⟨_, _, rfl⟩ | ⟨_, _, _, rfl⟩ |
              ⟨_, _, parent, relation, childTypes, inner, atShape, _, _, prunedInner, appended⟩
          · exact tidy.append _
          · exact tidy.appendColumn _ _
          · obtain ⟨rfl, isRelation⟩ := relationAt_eq_ok.1 atShape
            have tidyInner := below.1 (SelectionPlan.tidy_empty _ _) prunedInner
            exact tidy.appendRelation (Shape.relation?_eq_some.1 isRelation).1
              (inner.columns_withIdentity_ne_nil _) (tidyInner.withIdentity _) appended

/-- The plan for a selection loads a column, and repeats nothing. -/
theorem tidy_of_prune
    {shape : Shape}
    (pruned : interface.prune shape path selection = .ok plan) :
    plan.Tidy shape.remaining ∧ plan.columns ≠ [] := by
  simp only [prune, bind_eq_ok, pure_eq_ok] at pruned
  obtain ⟨types, _, inner, prunedFields, rfl⟩ := pruned
  have tidy := tidy_of_pruneFields (SelectionPlan.tidy_empty _ _) prunedFields
  exact ⟨tidy.withIdentity _, inner.columns_withIdentity_ne_nil _⟩

theorem tidy_of_pruneItem
    {table : String}
    (pruned : interface.pruneItem table path selection = .ok plan) :
    plan.Tidy none ∧ plan.columns ≠ [] := by
  simp only [pruneItem, bind_eq_ok, pure_eq_ok] at pruned
  obtain ⟨types, _, inner, prunedFields, rfl⟩ := pruned
  have tidy := tidy_of_pruneFields (SelectionPlan.tidy_empty _ _) prunedFields
  exact ⟨tidy.withIdentity _, inner.columns_withIdentity_ne_nil _⟩

end Interface
end RelationalApi
