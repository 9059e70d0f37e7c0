import Mathlib.Order.Lattice
import RelationalApi.Proofs.Outcome
import RelationalApi.Selection.Pruning

/-!
# What plans load

What a plan loads is the plan without its layouts.  Merging plans works on what they load alone, and
never makes them load less: a merged plan is as deep as either of its parts.
-/

namespace RelationalApi

open Outcome

mutual

/-- What a plan loads: the plan with no layout. -/
def SelectionPlan.bare : SelectionPlan -> SelectionPlan
  | ⟨columns, relations, _⟩ => ⟨columns, bareRelations relations, ⟨"", none, []⟩⟩

def bareRelations : List (RelationPlan SelectionPlan) -> List (RelationPlan SelectionPlan)
  | [] => []
  | ⟨name, target, cardinality, arguments, plan⟩ :: relations =>
      ⟨name, target, cardinality, arguments, plan.bare⟩ :: bareRelations relations

end

mutual

/-- The greatest number of relations that a plan follows one after another. -/
def SelectionPlan.depth : SelectionPlan -> Nat
  | ⟨_, relations, _⟩ => relationsDepth relations

def relationsDepth : List (RelationPlan SelectionPlan) -> Nat
  | [] => 0
  | ⟨_, _, _, _, plan⟩ :: relations => max (plan.depth + 1) (relationsDepth relations)

end

/-- What a relation to load loads. -/
def RelationPlan.bare (relation : RelationPlan SelectionPlan) : RelationPlan SelectionPlan :=
  { relation with plan := relation.plan.bare }

@[simp] theorem RelationPlan.bare_name (relation : RelationPlan SelectionPlan) :
    relation.bare.name = relation.name := rfl

theorem bareRelations_eq_map (relations : List (RelationPlan SelectionPlan)) :
    bareRelations relations = relations.map RelationPlan.bare := by
  induction relations with
  | nil => rw [bareRelations, List.map_nil]
  | cons relation relations inductionHypothesis =>
      rw [bareRelations, List.map_cons, inductionHypothesis]
      rfl

@[simp] theorem SelectionPlan.bare_columns (plan : SelectionPlan) :
    plan.bare.columns = plan.columns := by
  cases plan
  rw [SelectionPlan.bare]

@[simp] theorem SelectionPlan.bare_relations (plan : SelectionPlan) :
    plan.bare.relations = bareRelations plan.relations := by
  cases plan
  rw [SelectionPlan.bare]

/-- Plans load the same when their columns and what their relations load are the same. -/
theorem SelectionPlan.bare_eq_iff {plan other : SelectionPlan} :
    plan.bare = other.bare ↔
      plan.columns = other.columns ∧
        bareRelations plan.relations = bareRelations other.relations := by
  cases plan
  cases other
  rw [SelectionPlan.bare, SelectionPlan.bare]
  simp

theorem SelectionPlan.depth_eq (plan : SelectionPlan) :
    plan.depth = relationsDepth plan.relations := by
  cases plan
  rw [SelectionPlan.depth]

section Merging

variable {path name : String}

theorem find?_bareRelations (relations : List (RelationPlan SelectionPlan)) :
    (bareRelations relations).find? (fun relation => relation.name == name) =
      (relations.find? fun relation => relation.name == name).map RelationPlan.bare := by
  rw [bareRelations_eq_map, List.find?_map]
  rfl

theorem bareRelations_replacePlan
    (plan : SelectionPlan)
    (relations : List (RelationPlan SelectionPlan)) :
    bareRelations (replacePlan name plan relations) =
      replacePlan name plan.bare (bareRelations relations) := by
  induction relations with
  | nil => rfl
  | cons relation relations inductionHypothesis =>
      rw [bareRelations_eq_map, bareRelations_eq_map] at *
      rw [List.map_cons, replacePlan, replacePlan]
      by_cases same : relation.name = name
      · rw [if_pos same, if_pos (relation.bare_name.trans same), List.map_cons]
        rfl
      · have bareSame : relation.bare.name ≠ name := same
        rw [if_neg same, if_neg bareSame, List.map_cons, inductionHypothesis]

-- The recursion follows the relation or plan that is added, as merging does.
mutual

/-- Adding a relation works on what is loaded alone. -/
theorem addRelation_bare :
    (relation : RelationPlan SelectionPlan) -> ∀ relations,
      addRelation path (bareRelations relations) relation.bare =
        (addRelation path relations relation).map bareRelations
  | ⟨name, target, cardinality, arguments, plan⟩, relations => by
      rw [RelationPlan.bare, addRelation, addRelation, find?_bareRelations]
      cases found : relations.find? fun relation => relation.name == name with
      | none =>
          simp only [Option.map_none, Except.map, bareRelations_eq_map, List.map_append]
          rfl
      | some present =>
          simp only [Option.map_some, RelationPlan.bare]
          split
          · rw [mergePlan_bare plan present.plan]
            refine map_bind_eq ?_
            intro merged
            exact congrArg Except.ok (bareRelations_replacePlan merged relations).symm
          · rfl

/-- Merging plans works on what they load alone. -/
theorem mergePlan_bare :
    (other : SelectionPlan) -> ∀ plan : SelectionPlan,
      mergePlan path plan.bare other.bare = (mergePlan path plan other).map SelectionPlan.bare
  | ⟨columns, relations, output⟩, plan => by
      rw [SelectionPlan.bare, mergePlan, mergePlan, SelectionPlan.bare_relations,
        SelectionPlan.bare_columns, addRelations_bare relations plan.relations]
      refine map_bind_eq ?_
      intro merged
      cases plan
      simp only [SelectionPlan.bare, Except.map, pure, Except.pure]

theorem addRelations_bare :
    (others : List (RelationPlan SelectionPlan)) -> ∀ relations,
      addRelations path (bareRelations relations) (bareRelations others) =
        (addRelations path relations others).map bareRelations
  | [], relations => by
      rw [bareRelations, addRelations, addRelations]
      rfl
  | ⟨name, target, cardinality, arguments, plan⟩ :: others, relations => by
      have first := addRelation_bare ⟨name, target, cardinality, arguments, plan⟩ relations
      rw [RelationPlan.bare] at first
      rw [bareRelations, addRelations, addRelations, first]
      exact map_bind_eq fun extended => addRelations_bare others extended

end

/-- Replacing a found plan by a deeper one leaves the relations as deep, and as deep as the plan. -/
theorem relationsDepth_replacePlan
    {relations : List (RelationPlan SelectionPlan)}
    {present : RelationPlan SelectionPlan}
    {plan : SelectionPlan}
    (found : relations.find? (fun relation => relation.name == name) = some present)
    (deeper : present.plan.depth ≤ plan.depth) :
    relationsDepth relations ≤ relationsDepth (replacePlan name plan relations) ∧
      plan.depth < relationsDepth (replacePlan name plan relations) := by
  induction relations with
  | nil => cases found
  | cons first relations inductionHypothesis =>
      rw [List.find?_cons] at found
      rw [replacePlan]
      by_cases same : first.name = name
      · rw [beq_iff_eq.2 same] at found
        cases found
        rw [if_pos same, relationsDepth, relationsDepth]
        omega
      · rw [beq_eq_false_iff_ne.2 same] at found
        have later := inductionHypothesis found
        rw [if_neg same, relationsDepth, relationsDepth]
        omega

theorem relationsDepth_append
    (relations : List (RelationPlan SelectionPlan))
    (relation : RelationPlan SelectionPlan) :
    relationsDepth (relations ++ [relation]) =
      max (relationsDepth relations) (relation.plan.depth + 1) := by
  induction relations with
  | nil =>
      rw [List.nil_append, relationsDepth]
      exact Nat.max_comm _ _
  | cons first relations inductionHypothesis =>
      rw [List.cons_append, relationsDepth, relationsDepth, inductionHypothesis]
      omega

mutual

/-- The relations after adding one are as deep as before, and as deep as the added one. -/
theorem addRelation_depth :
    (relation : RelationPlan SelectionPlan) -> ∀ {relations extended},
      addRelation path relations relation = .ok extended ->
        relationsDepth relations ≤ relationsDepth extended ∧
          relation.plan.depth < relationsDepth extended
  | ⟨name, target, cardinality, arguments, plan⟩, relations, extended, added => by
      rw [addRelation] at added
      split at added
      · cases added
        rw [relationsDepth_append]
        omega
      · rename_i present found
        split at added
        · obtain ⟨merged, mergedPlans, kept⟩ := bind_eq_ok.1 added
          rw [pure_eq_ok] at kept
          subst kept
          obtain ⟨presentDepth, planDepth⟩ := mergePlan_depth plan mergedPlans
          have replaced := relationsDepth_replacePlan found presentDepth
          simp only
          omega
        · cases added

/-- A merged plan is as deep as either of its parts. -/
theorem mergePlan_depth :
    (other : SelectionPlan) -> ∀ {plan merged : SelectionPlan},
      mergePlan path plan other = .ok merged ->
        plan.depth ≤ merged.depth ∧ other.depth ≤ merged.depth
  | ⟨columns, relations, output⟩, plan, merged, mergedPlans => by
      rw [mergePlan] at mergedPlans
      obtain ⟨extended, added, kept⟩ := bind_eq_ok.1 mergedPlans
      rw [pure_eq_ok] at kept
      subst kept
      rw [plan.depth_eq, SelectionPlan.depth, SelectionPlan.depth]
      exact addRelations_depth relations added

theorem addRelations_depth :
    (others : List (RelationPlan SelectionPlan)) -> ∀ {relations extended},
      addRelations path relations others = .ok extended ->
        relationsDepth relations ≤ relationsDepth extended ∧
          relationsDepth others ≤ relationsDepth extended
  | [], relations, extended, added => by
      rw [addRelations] at added
      cases added
      rw [relationsDepth]
      omega
  | ⟨name, target, cardinality, arguments, plan⟩ :: others, relations, extended, added => by
      rw [addRelations] at added
      obtain ⟨between, addedFirst, addedOthers⟩ := bind_eq_ok.1 added
      have first := addRelation_depth ⟨name, target, cardinality, arguments, plan⟩ addedFirst
      have later := addRelations_depth others addedOthers
      rw [relationsDepth]
      simp only at first
      omega

end

end Merging

end RelationalApi
