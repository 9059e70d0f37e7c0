import RelationalApi.Proofs.Interface.Paths
import RelationalApi.Proofs.Selection.Plans
import RelationalApi.Proofs.Selection.Pruning

/-!
# Pruning under depth limits

Interfaces that differ in their depth limit prune a selection over different shapes.  Where both
get to the end, the plans load the same, and an interface with a limit gets to the end of every
selection whose plan is no deeper than the limit.
-/

namespace RelationalApi

open Outcome

namespace SelectionPlan

/-- Plans that load nothing load the same. -/
theorem bare_empty (typeName otherTypeName table : String) :
    (empty typeName table).bare = (empty otherTypeName table).bare := by
  rw [bare_eq_iff]
  exact ⟨rfl, rfl⟩

@[simp] theorem bare_append (plan : SelectionPlan) (entry : OutputEntry ObjectOutput) :
    (plan.append entry).bare = plan.bare := by
  cases plan
  rw [append, bare, bare]

theorem bare_appendColumn
    {plan other : SelectionPlan}
    (same : plan.bare = other.bare)
    (key column : String) :
    (plan.appendColumn key column).bare = (other.appendColumn key column).bare := by
  rw [bare_eq_iff] at same
  rw [appendColumn, appendColumn, bare_append, bare_append, bare_eq_iff]
  exact ⟨congrArg (addColumn · column) same.1, same.2⟩

theorem bare_withIdentity
    {plan other : SelectionPlan}
    (same : plan.bare = other.bare)
    (identity : String) :
    (plan.withIdentity identity).bare = (other.withIdentity identity).bare := by
  rw [bare_eq_iff] at same
  rw [withIdentity, withIdentity, same.1]
  split
  · rw [bare_eq_iff]
    exact ⟨rfl, same.2⟩
  · exact bare_eq_iff.2 same

@[simp] theorem depth_append (plan : SelectionPlan) (entry : OutputEntry ObjectOutput) :
    (plan.append entry).depth = plan.depth := by
  rw [depth_eq, depth_eq, append]

@[simp] theorem depth_appendColumn (plan : SelectionPlan) (key column : String) :
    (plan.appendColumn key column).depth = plan.depth := by
  rw [appendColumn, depth_append, depth_eq, depth_eq]

@[simp] theorem depth_withIdentity (plan : SelectionPlan) (identity : String) :
    (plan.withIdentity identity).depth = plan.depth := by
  rw [withIdentity]
  split
  · rw [depth_eq, depth_eq]
  · rfl

variable {path key : String} {relation : Relation} {arguments : JsonEntries}

/-- Plans that load the same still do after the same relation is appended to both. -/
theorem appendRelation_bare
    {plan other inner otherInner extended : SelectionPlan}
    (same : plan.bare = other.bare)
    (sameInner : inner.bare = otherInner.bare)
    (appended : plan.appendRelation path key relation arguments inner = .ok extended) :
    ∃ reached, other.appendRelation path key relation arguments otherInner = .ok reached ∧
      extended.bare = reached.bare := by
  rw [bare_eq_iff] at same
  rw [appendRelation] at appended
  obtain ⟨relations, added, kept⟩ := bind_eq_ok.1 appended
  rw [pure_eq_ok] at kept
  have commutes := @addRelation_bare path
    ⟨relation.name, relation.target, relation.cardinality, arguments, inner⟩ plan.relations
  have otherCommutes := @addRelation_bare path
    ⟨relation.name, relation.target, relation.cardinality, arguments, otherInner⟩ other.relations
  rw [RelationPlan.bare, same.2, added] at commutes
  rw [RelationPlan.bare, ← sameInner, commutes] at otherCommutes
  cases addedOther : addRelation path other.relations
      ⟨relation.name, relation.target, relation.cardinality, arguments, otherInner⟩ with
  | error fault =>
      rw [addedOther] at otherCommutes
      cases otherCommutes
  | ok otherRelations =>
      rw [addedOther] at otherCommutes
      refine ⟨_, by rw [appendRelation, addedOther]; rfl, ?_⟩
      rw [← kept, bare_append, bare_append, bare_eq_iff]
      exact ⟨same.1, Except.ok.inj otherCommutes⟩

theorem appendRelation_depth
    {plan inner extended : SelectionPlan}
    (appended : plan.appendRelation path key relation arguments inner = .ok extended) :
    plan.depth ≤ extended.depth ∧ inner.depth < extended.depth := by
  rw [appendRelation] at appended
  obtain ⟨relations, added, kept⟩ := bind_eq_ok.1 appended
  rw [pure_eq_ok] at kept
  rw [← kept, depth_append, plan.depth_eq, depth_eq]
  exact addRelation_depth _ added

end SelectionPlan

namespace Interface

variable {first second : Interface} {types : TableTypes}

/-- Two interfaces that differ in nothing that requests depend on but the depth limit. -/
structure SameButLimit (first second : Interface) : Prop where
  schema_eq : first.schema = second.schema
  config_eq : { first.config with depthLimit := second.config.depthLimit } = second.config
  tables_eq : first.tables = second.tables
  operations_eq : first.operations = second.operations

theorem SameButLimit.typesAt_eq
    (same : SameButLimit first second)
    (table path : String) :
    first.typesAt table path = second.typesAt table path := by
  rw [typesAt, typesAt, table?, table?, same.tables_eq]

/-- A plan only grows while a field is pruned. -/
theorem pruneField_depth
    {shape : Option Shape}
    {path : String}
    {plan extended : SelectionPlan}
    {field : SelectedField}
    (pruned : first.pruneField types shape path plan field = .ok extended) :
    plan.depth ≤ extended.depth := by
  rcases pruneField_eq_ok.1 pruned with
    ⟨_, _, kept⟩ | ⟨_, _, _, kept⟩ | ⟨_, _, _, _, _, _, _, _, _, _, appended⟩
  · rw [← kept, SelectionPlan.depth_append]
  · rw [← kept, SelectionPlan.depth_appendColumn]
  · exact (SelectionPlan.appendRelation_depth appended).1

theorem pruneFields_depth
    {shape : Option Shape}
    {path : String}
    {plan extended : SelectionPlan}
    {fields : List SelectedField}
    (pruned : first.pruneFields types shape path plan fields = .ok extended) :
    plan.depth ≤ extended.depth := by
  induction fields generalizing plan with
  | nil =>
      rw [pruneFields] at pruned
      cases pruned
      exact Nat.le_refl _
  | cons field fields inductionHypothesis =>
      rw [pruneFields] at pruned
      obtain ⟨between, prunedFirst, prunedOthers⟩ := bind_eq_ok.1 pruned
      exact Nat.le_trans (pruneField_depth prunedFirst) (inductionHypothesis prunedOthers)

/-- Shapes of one table, however many relations either may follow. -/
inductive Alike : Option Shape -> Option Shape -> Prop
  | none : Alike none none
  | some (table : String) (remaining otherRemaining : Option Nat) :
      Alike (some ⟨table, remaining⟩) (some ⟨table, otherRemaining⟩)

/-- A number of relations that a shape can follow one after another, if it can follow any. -/
def Reaches (shape : Option Shape) (depth : Nat) : Prop :=
  ∀ table limit, shape = some ⟨table, some limit⟩ -> depth ≤ limit

/-- A relation that one interface follows is followed by another one from an alike shape that
reaches one relation further. -/
theorem relationAt_alike
    {shape other : Option Shape}
    {path name : String}
    {parent : Shape}
    {relation : Relation}
    {depth : Nat}
    (same : SameButLimit first second)
    (alike : Alike shape other)
    (reaches : Reaches other (depth + 1))
    (found : first.relationAt shape path name = .ok (parent, relation)) :
    ∃ otherParent, second.relationAt other path name = .ok (otherParent, relation) ∧
      Alike (some (parent.follow relation)) (some (otherParent.follow relation)) ∧
      Reaches (some (otherParent.follow relation)) depth := by
  rw [relationAt_eq_ok] at found
  obtain ⟨isParent, related⟩ := found
  rw [Shape.relation?_eq_some, same.schema_eq] at related
  cases alike with
  | none => cases isParent
  | some table remaining otherRemaining =>
      cases isParent
      refine ⟨⟨table, otherRemaining⟩, ?_, .some _ _ _, ?_⟩
      · rw [relationAt_eq_ok, Shape.relation?_eq_some]
        refine ⟨rfl, ?_, related.2⟩
        intro exhausted
        have bound := reaches table 0 (congrArg (fun left => some (Shape.mk table left)) exhausted)
        omega
      · intro childTable limit child
        cases otherRemaining with
        | none => cases child
        | some left =>
            have bound := reaches table left rfl
            cases child
            change depth ≤ left - 1
            omega

theorem Reaches.mono
    {shape : Option Shape}
    {depth smaller : Nat}
    (reaches : Reaches shape depth)
    (isSmaller : smaller ≤ depth) :
    Reaches shape smaller :=
  fun table limit same => Nat.le_trans isSmaller (reaches table limit same)

-- The recursion follows the selection; the shapes change with every relation that is followed.
mutual

/-- What one interface prunes a field to, another one does too from an alike shape that reaches as
deep as the plan, and both plans load the same. -/
theorem pruneField_alike (same : SameButLimit first second) :
    (field : SelectedField) -> ∀ {types shape other path plan otherPlan extended},
      Alike shape other -> plan.bare = otherPlan.bare ->
        first.pruneField types shape path plan field = .ok extended ->
          Reaches other extended.depth ->
            ∃ reached, second.pruneField types other path otherPlan field = .ok reached ∧
              extended.bare = reached.bare
  | ⟨name, label, arguments, selection⟩, types, shape, other, path, plan, otherPlan, extended,
      alike, samePlan, pruned, reaches => by
      rcases pruneField_eq_ok.1 pruned with
        ⟨isTypename, leaf, kept⟩ | ⟨notTypename, isColumn, leaf, kept⟩ |
          ⟨notTypename, notColumn, parent, relation, childTypes, inner, found, notEmpty, typesFound,
            prunedInner, appended⟩
      · refine ⟨_, pruneField_eq_ok.2 (.inl ⟨isTypename, leaf, rfl⟩), ?_⟩
        rw [← kept, SelectionPlan.bare_append, SelectionPlan.bare_append, samePlan]
      · refine ⟨_, pruneField_eq_ok.2 (.inr (.inl ⟨notTypename, isColumn, leaf, rfl⟩)), ?_⟩
        rw [← kept, SelectionPlan.bare_appendColumn samePlan]
      · have deeper := (SelectionPlan.appendRelation_depth appended).2
        rw [SelectionPlan.depth_withIdentity] at deeper
        obtain ⟨otherParent, otherFound, childAlike, childReaches⟩ :=
          relationAt_alike same alike (reaches.mono deeper) found
        have sameEmpty := SelectionPlan.bare_empty (first.shapeTypeName (parent.follow relation))
          (second.shapeTypeName (otherParent.follow relation)) childTypes.name
        obtain ⟨otherInner, otherPruned, sameInner⟩ :=
          pruneFields_alike same selection childAlike sameEmpty prunedInner childReaches
        obtain ⟨reached, otherAppended, sameReached⟩ :=
          SelectionPlan.appendRelation_bare samePlan
            (SelectionPlan.bare_withIdentity sameInner childTypes.identity) appended
        refine ⟨reached, pruneField_eq_ok.2 (.inr (.inr ⟨notTypename, notColumn, ?_⟩)), sameReached⟩
        rw [same.typesAt_eq] at typesFound
        exact ⟨otherParent, relation, childTypes, otherInner, otherFound, notEmpty, typesFound,
          otherPruned, otherAppended⟩

theorem pruneFields_alike (same : SameButLimit first second) :
    (fields : List SelectedField) -> ∀ {types shape other path plan otherPlan extended},
      Alike shape other -> plan.bare = otherPlan.bare ->
        first.pruneFields types shape path plan fields = .ok extended ->
          Reaches other extended.depth ->
            ∃ reached, second.pruneFields types other path otherPlan fields = .ok reached ∧
              extended.bare = reached.bare
  | [], types, shape, other, path, plan, otherPlan, extended, alike, samePlan, pruned, reaches => by
      rw [pruneFields] at pruned
      cases pruned
      exact ⟨otherPlan, rfl, samePlan⟩
  | field :: fields, types, shape, other, path, plan, otherPlan, extended, alike, samePlan, pruned,
      reaches => by
      rw [pruneFields] at pruned
      obtain ⟨between, prunedFirst, prunedOthers⟩ := bind_eq_ok.1 pruned
      obtain ⟨otherBetween, otherFirst, sameBetween⟩ :=
        pruneField_alike same field alike samePlan prunedFirst
          (reaches.mono (pruneFields_depth prunedOthers))
      obtain ⟨reached, otherOthers, sameReached⟩ :=
        pruneFields_alike same fields alike sameBetween prunedOthers reaches
      refine ⟨reached, ?_, sameReached⟩
      rw [pruneFields, otherFirst]
      exact otherOthers

end

end Interface
end RelationalApi
