import RelationalApi.Proofs.Json.Rearrangement
import RelationalApi.Proofs.Selection.Below
import RelationalApi.Selection.Pruning

/-!
# Pruning rearranged selections

The arguments of the fields of a selection may be rearranged.  Pruning keeps them in the plan, and
compares them only where a relation is selected again; the comparison does not see how they are
arranged.  So a rearranged selection is pruned where the selection is, to a plan with the same
columns, the same relations and the same layout.
-/

namespace RelationalApi

open Outcome

/-- Two fields differ at most in how the arguments of the fields and of all fields below them are
arranged. -/
inductive SelectedField.Rearranged : SelectedField -> SelectedField -> Prop
  | field
      (name : String)
      (label : Option String)
      {arguments others : JsonEntries}
      {selection otherSelection : List SelectedField}
      (given : Json.Rearranged (.object arguments) (.object others))
      (selected : List.Forall₂ SelectedField.Rearranged selection otherSelection) :
      SelectedField.Rearranged ⟨name, label, arguments, selection⟩
        ⟨name, label, others, otherSelection⟩

/-- Two selections differ at most in how arguments are arranged. -/
abbrev Selection.Rearranged : Selection -> Selection -> Prop :=
  List.Forall₂ SelectedField.Rearranged

mutual

/-- Two plans differ at most in how the arguments of relations are arranged. -/
inductive SelectionPlan.Rearranged : SelectionPlan -> SelectionPlan -> Prop
  | plan
      (columns : List String)
      (output : ObjectOutput)
      {relations others : List (RelationPlan SelectionPlan)}
      (pairs : List.Forall₂ RelationPlan.Rearranged relations others) :
      SelectionPlan.Rearranged ⟨columns, relations, output⟩ ⟨columns, others, output⟩

/-- Two relations to load differ at most in how arguments are arranged. -/
inductive RelationPlan.Rearranged :
    RelationPlan SelectionPlan -> RelationPlan SelectionPlan -> Prop
  | relation
      (name target : String)
      (cardinality : Cardinality)
      {arguments others : JsonEntries}
      {plan otherPlan : SelectionPlan}
      (given : Json.Rearranged (.object arguments) (.object others))
      (plans : SelectionPlan.Rearranged plan otherPlan) :
      RelationPlan.Rearranged ⟨name, target, cardinality, arguments, plan⟩
        ⟨name, target, cardinality, others, otherPlan⟩

end

/-- Rearranged arguments are equal to rearranged arguments just as the arguments are. -/
theorem Json.Rearranged.beq_eq
    {left right other otherRight : Json}
    (rearranged : left.Rearranged right)
    (otherRearranged : other.Rearranged otherRight) :
    (left == other) = (right == otherRight) := by
  change equal left other = equal right otherRight
  rw [rearranged.equal_left, otherRearranged.equal_right]

section Merging

variable {path name : String} {relations others : List (RelationPlan SelectionPlan)}

theorem find?_rearranged (pairs : List.Forall₂ RelationPlan.Rearranged relations others) :
    Option.Rel RelationPlan.Rearranged (relations.find? fun relation => relation.name == name)
      (others.find? fun relation => relation.name == name) := by
  refine rel_find? (fun relation other rearranged => ?_) pairs
  cases rearranged
  rfl

theorem replacePlan_rearranged
    {plan otherPlan : SelectionPlan}
    (plans : plan.Rearranged otherPlan)
    (pairs : List.Forall₂ RelationPlan.Rearranged relations others) :
    List.Forall₂ RelationPlan.Rearranged (replacePlan name plan relations)
      (replacePlan name otherPlan others) := by
  induction pairs with
  | nil => exact .nil
  | cons first others inductionHypothesis =>
      cases first with
      | relation relationName target cardinality given present =>
          rw [replacePlan, replacePlan]
          split
          · exact .cons (.relation _ _ _ given plans) others
          · exact .cons (.relation _ _ _ given present) inductionHypothesis

-- The recursion follows the relation or plan that is added, as merging does.
mutual

/-- A rearranged relation is added where the relation is. -/
theorem addRelation_agree :
    (relation : RelationPlan SelectionPlan) -> ∀ {other relations others},
      relation.Rearranged other -> List.Forall₂ RelationPlan.Rearranged relations others ->
        Agree (List.Forall₂ RelationPlan.Rearranged) (addRelation path relations relation)
          (addRelation path others other)
  | ⟨name, target, cardinality, arguments, plan⟩, other, relations, others, rearranged, pairs => by
      cases rearranged with
      | relation _ _ _ given plans =>
          have found := @find?_rearranged name relations others pairs
          rw [addRelation, addRelation]
          generalize (relations.find? fun relation => relation.name == name) = present at found ⊢
          generalize (others.find? fun relation => relation.name == name) = otherPresent at found ⊢
          cases found with
          | none => exact .ok (List.rel_append pairs (.cons (.relation _ _ _ given plans) .nil))
          | some presents =>
              cases presents with
              | relation _ _ _ presentGiven presentPlans =>
                  dsimp only
                  rw [presentGiven.beq_eq given]
                  split
                  · refine (mergePlan_agree plan plans presentPlans).bind fun _ _ merged => ?_
                    exact .ok (replacePlan_rearranged merged pairs)
                  · exact .error

theorem mergePlan_agree :
    (plan : SelectionPlan) -> ∀ {other present otherPresent : SelectionPlan},
      plan.Rearranged other -> present.Rearranged otherPresent ->
        Agree SelectionPlan.Rearranged (mergePlan path present plan)
          (mergePlan path otherPresent other)
  | ⟨columns, relations, output⟩, other, present, otherPresent, rearranged, presents => by
      cases rearranged with
      | plan _ _ pairs =>
          cases presents with
          | plan presentColumns presentOutput presentPairs =>
              rw [mergePlan, mergePlan]
              refine (addRelations_agree relations pairs presentPairs).bind fun _ _ merged => ?_
              exact .ok (.plan _ _ merged)

theorem addRelations_agree :
    (added : List (RelationPlan SelectionPlan)) -> ∀ {otherAdded relations others},
      List.Forall₂ RelationPlan.Rearranged added otherAdded ->
        List.Forall₂ RelationPlan.Rearranged relations others ->
          Agree (List.Forall₂ RelationPlan.Rearranged) (addRelations path relations added)
            (addRelations path others otherAdded)
  | [], otherAdded, relations, others, addedPairs, pairs => by
      cases addedPairs
      rw [addRelations, addRelations]
      exact .ok pairs
  | ⟨name, target, cardinality, arguments, plan⟩ :: added, otherAdded, relations, others,
      addedPairs, pairs => by
      cases addedPairs with
      | cons first later =>
          rw [addRelations, addRelations]
          have extended :=
            addRelation_agree ⟨name, target, cardinality, arguments, plan⟩ first pairs
          exact extended.bind fun _ _ extendedPairs =>
            addRelations_agree added later extendedPairs

end

end Merging

section Pruning

variable {interface : Interface} {types : TableTypes} {shape : Option Shape}

theorem isEmpty_rearranged
    {selection others : List SelectedField}
    (rearranged : List.Forall₂ SelectedField.Rearranged selection others) :
    selection.isEmpty = others.isEmpty := by
  cases rearranged <;> rfl

theorem checkLeaf_agree
    {field other : SelectedField}
    (rearranged : field.Rearranged other)
    (path : String) :
    Agree Eq (checkLeaf path field) (checkLeaf path other) := by
  cases rearranged with
  | field name label given selected =>
      rw [checkLeaf, checkLeaf]
      dsimp only
      rw [given.isEmpty_eq, isEmpty_rearranged selected]
      exact .refl (fun _ => rfl) _

theorem SelectionPlan.Rearranged.append
    {plan other : SelectionPlan}
    (plans : plan.Rearranged other)
    (entry : OutputEntry ObjectOutput) :
    (plan.append entry).Rearranged (other.append entry) := by
  cases plans with
  | plan columns output pairs => exact .plan _ _ pairs

theorem SelectionPlan.Rearranged.appendColumn
    {plan other : SelectionPlan}
    (plans : plan.Rearranged other)
    (key column : String) :
    (plan.appendColumn key column).Rearranged (other.appendColumn key column) := by
  cases plans with
  | plan columns output pairs => exact .plan _ _ pairs

theorem SelectionPlan.Rearranged.withIdentity
    {plan other : SelectionPlan}
    (plans : plan.Rearranged other)
    (identity : String) :
    (plan.withIdentity identity).Rearranged (other.withIdentity identity) := by
  cases plans with
  | plan columns output pairs =>
      rw [SelectionPlan.withIdentity, SelectionPlan.withIdentity]
      dsimp only
      split
      · exact .plan _ _ pairs
      · exact .plan _ _ pairs

theorem appendRelation_agree
    {plan other inner otherInner : SelectionPlan}
    {arguments others : JsonEntries}
    (plans : plan.Rearranged other)
    (inners : inner.Rearranged otherInner)
    (given : Json.Rearranged (.object arguments) (.object others))
    (path key : String)
    (relation : Relation) :
    Agree SelectionPlan.Rearranged (plan.appendRelation path key relation arguments inner)
      (other.appendRelation path key relation others otherInner) := by
  cases plans with
  | plan columns output pairs =>
      cases inners with
      | plan innerColumns innerOutput innerPairs =>
          have added := @addRelation_agree path _ _ _ _
            (.relation relation.name relation.target relation.cardinality given
              (.plan innerColumns innerOutput innerPairs)) pairs
          exact added.bind fun _ _ extended => .ok (.plan _ _ extended)

/-- A rearranged field is pruned where the field is, given that what is selected below it is. -/
theorem pruneField_agree
    {field other : SelectedField}
    {plan otherPlan : SelectionPlan}
    (below : ∀ types shape path plan otherPlan others, SelectionPlan.Rearranged plan otherPlan ->
      Selection.Rearranged field.selection others ->
        Agree SelectionPlan.Rearranged
          (interface.pruneFields types shape path plan field.selection)
          (interface.pruneFields types shape path otherPlan others))
    (rearranged : field.Rearranged other)
    (plans : plan.Rearranged otherPlan)
    (path : String) :
    Agree SelectionPlan.Rearranged (interface.pruneField types shape path plan field)
      (interface.pruneField types shape path otherPlan other) := by
  have leaf := checkLeaf_agree rearranged
  cases rearranged with
  | @field name label arguments otherArguments selection otherSelection given selected =>
      rw [Interface.pruneField, Interface.pruneField]
      dsimp only
      split
      · exact (leaf _).bind fun _ _ _ => .ok (plans.append _)
      · split
        · exact (leaf _).bind fun _ _ _ => .ok (plans.appendColumn _ _)
        · have found := Agree.refl (fun _ => rfl) (interface.relationAt shape path name)
          refine found.bind fun (parent, relation) _ same => ?_
          cases same
          dsimp only
          rw [isEmpty_rearranged selected]
          split
          · exact .error
          · have known := Agree.refl (fun _ => rfl)
              (interface.typesAt (parent.follow relation).table
                (joinPath path (SelectedField.key ⟨name, label, arguments, selection⟩)))
            refine known.bind fun childTypes _ same => ?_
            cases same
            refine (below _ _ _ _ _ _ (.plan _ _ .nil) selected).bind fun inner other inners => ?_
            exact appendRelation_agree plans (inners.withIdentity _) given _ _ relation

/-- A rearranged selection is pruned where the selection is, to a rearranged plan. -/
theorem pruneFields_agree
    {selection others : Selection}
    {plan otherPlan : SelectionPlan}
    (rearranged : selection.Rearranged others)
    (plans : plan.Rearranged otherPlan)
    (path : String) :
    Agree SelectionPlan.Rearranged (interface.pruneFields types shape path plan selection)
      (interface.pruneFields types shape path otherPlan others) := by
  induction selection using Selection.below_induction
    generalizing types shape path plan otherPlan others with
  | step selection below =>
      induction rearranged generalizing plan otherPlan with
      | nil =>
          rw [Interface.pruneFields, Interface.pruneFields]
          exact .ok plans
      | cons first _ inductionHypothesis =>
          rw [List.forall_mem_cons] at below
          rw [Interface.pruneFields, Interface.pruneFields]
          refine (pruneField_agree ?_ first plans path).bind fun _ _ extended => ?_
          · intro types shape path plan otherPlan others plans selected
            exact below.1 selected plans path
          · exact inductionHypothesis below.2 extended

theorem prune_agree
    {selection others : Selection}
    (rearranged : selection.Rearranged others)
    (shape : Shape)
    (path : String) :
    Agree SelectionPlan.Rearranged (interface.prune shape path selection)
      (interface.prune shape path others) := by
  have known := Agree.refl (fun _ => rfl) (interface.typesAt shape.table path)
  rw [Interface.prune, Interface.prune]
  refine known.bind fun types _ same => ?_
  cases same
  exact (pruneFields_agree rearranged (.plan _ _ .nil) path).bind fun _ _ plans =>
    .ok (plans.withIdentity _)

theorem pruneItem_agree
    {selection others : Selection}
    (rearranged : selection.Rearranged others)
    (table path : String) :
    Agree SelectionPlan.Rearranged (interface.pruneItem table path selection)
      (interface.pruneItem table path others) := by
  rw [Interface.pruneItem, Interface.pruneItem]
  refine (Agree.refl (fun _ => rfl) (interface.typesAt table path)).bind fun types _ same => ?_
  cases same
  exact (pruneFields_agree rearranged (.plan _ _ .nil) path).bind fun _ _ plans =>
    .ok (plans.withIdentity _)

theorem pruneSuccess_agree
    {selection others : Selection}
    (rearranged : selection.Rearranged others)
    (path : String) :
    Agree Eq (pruneSuccess path selection) (pruneSuccess path others) := by
  have entries : Agree (List.Forall₂ Eq) (selection.mapM (successEntry path))
      (others.mapM (successEntry path)) := by
    refine Agree.mapM rearranged fun field other pair => ?_
    have leaf := checkLeaf_agree pair
    cases pair with
    | field name label given selected =>
        rw [successEntry, successEntry]
        exact (leaf _).bind fun _ _ _ => .refl (fun _ => rfl) _
  refine entries.bind fun first second same => ?_
  rw [List.forall₂_eq_eq_eq] at same
  exact .ok (by rw [same])

end Pruning

end RelationalApi
