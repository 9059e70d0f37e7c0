import RelationalApi.Proofs.Arguments.AddedNulls
import RelationalApi.Proofs.Selection.Below
import RelationalApi.Proofs.Selection.Pruning

/-!
# Selections with added nulls

The arguments of the relations of a selection may get nulls.  Pruning keeps arguments in the plan
and compares them where a relation is selected again, as documents, so that a null in one of them
tells them apart.  As long as arguments that were equal stay so, the selection is pruned to the same
columns, relations and layout.
-/

namespace RelationalApi

open Outcome

mutual

/-- A field and those below it get nulls in the arguments of relations.  The field is selected from
the rows of a table, which have relations if they have a shape. -/
inductive FieldAddsNulls (interface : Interface) :
    TableTypes -> Option Shape -> SelectedField -> SelectedField -> Prop
  | same (types : TableTypes) (shape : Option Shape) (field : SelectedField) :
      FieldAddsNulls interface types shape field field
  | relation
      {types childTypes : TableTypes}
      {shape : Shape}
      {relation : Relation}
      {name : String}
      {label : Option String}
      {arguments others : JsonEntries}
      {selection otherSelection : List SelectedField}
      (notTypename : name ≠ typenameField)
      (notColumn : types.column? name = none)
      (isRelation : shape.relation? interface.schema name = some relation)
      (hasTypes : interface.table? relation.target = some childTypes)
      (given : ArgumentsAddNulls (relationArgumentNames relation.cardinality) childTypes.columns
        arguments others)
      (selected : FieldsAddNulls interface childTypes (some (shape.follow relation)) selection
        otherSelection) :
      FieldAddsNulls interface types (some shape) ⟨name, label, arguments, selection⟩
        ⟨name, label, others, otherSelection⟩

/-- The fields of a selection get nulls in the arguments of relations. -/
inductive FieldsAddNulls (interface : Interface) :
    TableTypes -> Option Shape -> List SelectedField -> List SelectedField -> Prop
  | nil (types : TableTypes) (shape : Option Shape) : FieldsAddNulls interface types shape [] []
  | cons
      {types : TableTypes}
      {shape : Option Shape}
      {field other : SelectedField}
      {fields others : List SelectedField}
      (first : FieldAddsNulls interface types shape field other)
      (later : FieldsAddNulls interface types shape fields others) :
      FieldsAddNulls interface types shape (field :: fields) (other :: others)

end

/-- Fields of two selections, side by side. -/
abbrev FieldPairs := List (SelectedField × SelectedField)

namespace FieldPairs

/-- What is selected below the fields of a name. -/
def below (name : String) (pairs : FieldPairs) : FieldPairs :=
  (pairs.filter fun pair => pair.1.name == name).flatMap fun pair =>
    pair.1.selection.zip pair.2.selection

/-- What is selected at a path of names. -/
def selectedAt : List String -> FieldPairs -> FieldPairs
  | [], pairs => pairs
  | name :: path, pairs => selectedAt path (below name pairs)

/-- Where two fields of one name are selected at one path with equal arguments, those are equal on
the other side as well. -/
def KeepEqualArguments (pairs : FieldPairs) : Prop :=
  ∀ path, ∀ pair ∈ pairs.selectedAt path, ∀ other ∈ pairs.selectedAt path,
    pair.1.name = other.1.name ->
      (Json.object pair.1.arguments == Json.object other.1.arguments) = true ->
        (Json.object pair.2.arguments == Json.object other.2.arguments) = true

variable {pairs : FieldPairs}

theorem KeepEqualArguments.below
    (keeps : pairs.KeepEqualArguments)
    (name : String) :
    (pairs.below name).KeepEqualArguments :=
  fun path => keeps (name :: path)

theorem mem_below {pair below : SelectedField × SelectedField}
    (isPair : pair ∈ pairs)
    (isBelow : below ∈ pair.1.selection.zip pair.2.selection) :
    below ∈ pairs.below pair.1.name :=
  List.mem_flatMap.2 ⟨pair, List.mem_filter.2 ⟨isPair, beq_self_eq_true _⟩, isBelow⟩

theorem KeepEqualArguments.of_below
    (here : ∀ pair ∈ pairs, ∀ other ∈ pairs, pair.1.name = other.1.name ->
      (Json.object pair.1.arguments == Json.object other.1.arguments) = true ->
        (Json.object pair.2.arguments == Json.object other.2.arguments) = true)
    (below : ∀ name, (pairs.below name).KeepEqualArguments) :
    pairs.KeepEqualArguments := by
  intro path
  cases path with
  | nil => exact here
  | cons name path => exact below name path

theorem selectedAt_nil (path : List String) : selectedAt path [] = [] := by
  induction path with
  | nil => rfl
  | cons name path inductionHypothesis => exact inductionHypothesis

/-- Fields that get no arguments keep them equal, where nothing is selected below them. -/
theorem KeepEqualArguments.of_leaves
    (leaves : ∀ pair ∈ pairs, pair.1.selection = [] ∧ pair.2.arguments = []) :
    pairs.KeepEqualArguments := by
  refine .of_below ?_ fun name path pair isBelow => ?_
  · intro pair isPair other isOther _ _
    rw [(leaves pair isPair).2, (leaves other isOther).2]
    rfl
  · have nothing : pairs.below name = [] := by
      rw [FieldPairs.below, List.flatMap_eq_nil_iff]
      intro leaf isFiltered
      rw [(leaves leaf (List.mem_filter.1 isFiltered).1).1, List.zip_nil_left]
    rw [nothing, selectedAt_nil] at isBelow
    cases isBelow

end FieldPairs

mutual

/-- Two plans differ by nulls in the arguments of relations, which come from pairs of fields. -/
inductive PlanAddsNulls (interface : Interface) :
    FieldPairs -> SelectionPlan -> SelectionPlan -> Prop
  | plan
      {pairs : FieldPairs}
      (columns : List String)
      (output : ObjectOutput)
      {relations others : List (RelationPlan SelectionPlan)}
      (loaded : RelationsAddNulls interface pairs relations others) :
      PlanAddsNulls interface pairs ⟨columns, relations, output⟩ ⟨columns, others, output⟩

/-- The relations of two plans differ by nulls in their arguments. -/
inductive RelationsAddNulls (interface : Interface) :
    FieldPairs -> List (RelationPlan SelectionPlan) -> List (RelationPlan SelectionPlan) -> Prop
  | nil (pairs : FieldPairs) : RelationsAddNulls interface pairs [] []
  | cons
      {pairs : FieldPairs}
      {pair : SelectedField × SelectedField}
      {target : String}
      {cardinality : Cardinality}
      {types : TableTypes}
      {plan otherPlan : SelectionPlan}
      {relations others : List (RelationPlan SelectionPlan)}
      (isPair : pair ∈ pairs)
      (hasTypes : interface.table? target = some types)
      (given : ArgumentsAddNulls (relationArgumentNames cardinality) types.columns
        pair.1.arguments pair.2.arguments)
      (plans : PlanAddsNulls interface (pairs.below pair.1.name) plan otherPlan)
      (later : RelationsAddNulls interface pairs relations others) :
      RelationsAddNulls interface pairs
        (⟨pair.1.name, target, cardinality, pair.1.arguments, plan⟩ :: relations)
        (⟨pair.1.name, target, cardinality, pair.2.arguments, otherPlan⟩ :: others)

end

section Merging

variable {interface : Interface} {pairs : FieldPairs} {path name : String}
variable {relations others merged : List (RelationPlan SelectionPlan)}

theorem RelationsAddNulls.append
    {later otherLater : List (RelationPlan SelectionPlan)}
    (adds : RelationsAddNulls interface pairs relations others)
    (addsLater : RelationsAddNulls interface pairs later otherLater) :
    RelationsAddNulls interface pairs (relations ++ later) (others ++ otherLater) := by
  induction relations generalizing others with
  | nil =>
      cases adds
      exact addsLater
  | cons relation relations inductionHypothesis =>
      cases adds with
      | cons isPair hasTypes given plans rest =>
          exact .cons isPair hasTypes given plans (inductionHypothesis rest)

/-- The relation of a name is absent from both sides, or comes from one pair on both. -/
theorem RelationsAddNulls.find?
    (adds : RelationsAddNulls interface pairs relations others)
    (name : String) :
    ((relations.find? fun relation => relation.name == name) = none ∧
        (others.find? fun relation => relation.name == name) = none) ∨
      ∃ pair ∈ pairs, ∃ target cardinality plan otherPlan, pair.1.name = name ∧
        (relations.find? fun relation => relation.name == name) =
          some ⟨pair.1.name, target, cardinality, pair.1.arguments, plan⟩ ∧
        (others.find? fun relation => relation.name == name) =
          some ⟨pair.1.name, target, cardinality, pair.2.arguments, otherPlan⟩ ∧
        PlanAddsNulls interface (pairs.below pair.1.name) plan otherPlan := by
  induction relations generalizing others with
  | nil =>
      cases adds
      exact .inl ⟨rfl, rfl⟩
  | cons relation relations inductionHypothesis =>
      cases adds with
      | @cons _ pair target cardinality _ plan otherPlan _ _ isPair hasTypes given plans rest =>
          rw [List.find?_cons, List.find?_cons]
          cases isNamed : pair.1.name == name with
          | true =>
              exact .inr ⟨pair, isPair, target, cardinality, plan, otherPlan,
                beq_iff_eq.1 isNamed, rfl, rfl, plans⟩
          | false => exact inductionHypothesis rest

theorem RelationsAddNulls.replacePlan
    {plan otherPlan : SelectionPlan}
    (plans : PlanAddsNulls interface (pairs.below name) plan otherPlan)
    (adds : RelationsAddNulls interface pairs relations others) :
    RelationsAddNulls interface pairs (replacePlan name plan relations)
      (RelationalApi.replacePlan name otherPlan others) := by
  induction relations generalizing others with
  | nil =>
      cases adds
      exact .nil pairs
  | cons relation relations inductionHypothesis =>
      cases adds with
      | cons isPair hasTypes given present rest =>
          rw [RelationalApi.replacePlan, RelationalApi.replacePlan]
          dsimp only
          split
          · rename_i isNamed
            subst isNamed
            exact .cons isPair hasTypes given plans rest
          · exact .cons isPair hasTypes given present (inductionHypothesis rest)

-- The recursion follows the relation or plan that is added, as merging does.
mutual

/-- A relation is added with nulls where it is added without. -/
theorem addRelation_addsNulls :
    (relation : RelationPlan SelectionPlan) -> ∀ {pairs other relations others merged},
      pairs.KeepEqualArguments -> RelationsAddNulls interface pairs [relation] [other] ->
        RelationsAddNulls interface pairs relations others ->
          addRelation path relations relation = .ok merged ->
            ∃ otherMerged, addRelation path others other = .ok otherMerged ∧
              RelationsAddNulls interface pairs merged otherMerged
  | ⟨name, target, cardinality, arguments, plan⟩, pairs, other, relations, others, merged, keeps,
      adds, present, added => by
      cases adds with
      | @cons _ pair _ _ _ _ otherPlan _ _ isPair hasTypes given plans _ =>
          rw [addRelation] at added ⊢
          rcases present.find? pair.1.name with ⟨absent, otherAbsent⟩ |
            ⟨first, isFirst, firstTarget, firstCardinality, firstPlan, otherFirst, sameName, found,
              otherFound, firstPlans⟩
          · rw [absent] at added
            cases added
            rw [otherAbsent]
            exact ⟨_, rfl, present.append (.cons isPair hasTypes given plans (.nil pairs))⟩
          · rw [found] at added
            rw [otherFound]
            dsimp only at added ⊢
            split at added
            · rename_i equal
              obtain ⟨mergedPlan, merges, same⟩ := bind_eq_ok.1 added
              rw [pure_eq_ok] at same
              subst same
              rw [sameName] at firstPlans
              obtain ⟨otherMerged, otherMerges, mergedPlans⟩ :=
                mergePlan_addsNulls plan (keeps.below pair.1.name) firstPlans plans merges
              have stillEqual := keeps [] first isFirst pair isPair sameName equal
              rw [if_pos stillEqual, otherMerges]
              exact ⟨_, rfl, present.replacePlan mergedPlans⟩
            · cases added

theorem mergePlan_addsNulls :
    (plan : SelectionPlan) -> ∀ {pairs : FieldPairs} {other present otherPresent merged},
      pairs.KeepEqualArguments -> PlanAddsNulls interface pairs present otherPresent ->
        PlanAddsNulls interface pairs plan other -> mergePlan path present plan = .ok merged ->
          ∃ otherMerged, mergePlan path otherPresent other = .ok otherMerged ∧
            PlanAddsNulls interface pairs merged otherMerged
  | ⟨columns, relations, output⟩, pairs, other, present, otherPresent, merged, keeps, presents,
      adds, merges => by
      cases adds with
      | plan _ _ loaded =>
          cases presents with
          | plan presentColumns presentOutput presentLoaded =>
              rw [mergePlan] at merges ⊢
              obtain ⟨mergedRelations, added, same⟩ := bind_eq_ok.1 merges
              rw [pure_eq_ok] at same
              subst same
              obtain ⟨otherRelations, otherAdded, addsNulls⟩ :=
                addRelations_addsNulls relations keeps loaded presentLoaded added
              exact ⟨_, bind_eq_ok.2 ⟨_, otherAdded, rfl⟩, .plan _ _ addsNulls⟩

theorem addRelations_addsNulls :
    (added : List (RelationPlan SelectionPlan)) ->
      ∀ {pairs : FieldPairs} {otherAdded relations others merged},
        pairs.KeepEqualArguments -> RelationsAddNulls interface pairs added otherAdded ->
          RelationsAddNulls interface pairs relations others ->
            addRelations path relations added = .ok merged ->
              ∃ otherMerged, addRelations path others otherAdded = .ok otherMerged ∧
                RelationsAddNulls interface pairs merged otherMerged
  | [], pairs, otherAdded, relations, others, merged, keeps, adds, present, merges => by
      cases adds
      rw [addRelations] at merges ⊢
      cases merges
      exact ⟨_, rfl, present⟩
  | relation :: added, pairs, otherAdded, relations, others, merged, keeps, adds, present,
      merges => by
      cases adds with
      | cons isPair hasTypes given plans rest =>
          rw [addRelations] at merges ⊢
          obtain ⟨extended, addedFirst, addedOthers⟩ := bind_eq_ok.1 merges
          obtain ⟨otherExtended, otherFirst, extendedNulls⟩ := addRelation_addsNulls _ keeps
            (.cons isPair hasTypes given plans (.nil pairs)) present addedFirst
          obtain ⟨otherMerged, otherRest, mergedNulls⟩ :=
            addRelations_addsNulls added keeps rest extendedNulls addedOthers
          exact ⟨otherMerged, bind_eq_ok.2 ⟨_, otherFirst, otherRest⟩, mergedNulls⟩

end

end Merging

section Pruning

variable {interface : Interface} {types : TableTypes} {shape : Option Shape} {pairs : FieldPairs}
variable {plan otherPlan extended : SelectionPlan} {selection others : Selection}

theorem PlanAddsNulls.empty (interface : Interface) (pairs : FieldPairs) (typeName table : String) :
    PlanAddsNulls interface pairs (SelectionPlan.empty typeName table)
      (SelectionPlan.empty typeName table) :=
  .plan [] _ (.nil pairs)

theorem PlanAddsNulls.append
    (plans : PlanAddsNulls interface pairs plan otherPlan)
    (entry : OutputEntry ObjectOutput) :
    PlanAddsNulls interface pairs (plan.append entry) (otherPlan.append entry) := by
  cases plans with
  | plan columns output loaded => exact .plan _ _ loaded

theorem PlanAddsNulls.appendColumn
    (plans : PlanAddsNulls interface pairs plan otherPlan)
    (key column : String) :
    PlanAddsNulls interface pairs (plan.appendColumn key column)
      (otherPlan.appendColumn key column) := by
  cases plans with
  | plan columns output loaded => exact .plan _ _ loaded

theorem PlanAddsNulls.withIdentity
    (plans : PlanAddsNulls interface pairs plan otherPlan)
    (identity : String) :
    PlanAddsNulls interface pairs (plan.withIdentity identity)
      (otherPlan.withIdentity identity) := by
  cases plans with
  | plan columns output loaded =>
      rw [SelectionPlan.withIdentity, SelectionPlan.withIdentity]
      dsimp only
      split
      · exact .plan _ _ loaded
      · exact .plan _ _ loaded

theorem FieldsAddNulls.refl
    (interface : Interface)
    (types : TableTypes)
    (shape : Option Shape)
    (selection : Selection) :
    FieldsAddNulls interface types shape selection selection := by
  induction selection with
  | nil => exact .nil types shape
  | cons field selection inductionHypothesis =>
      exact .cons (.same types shape field) inductionHypothesis

theorem FieldsAddNulls.isEmpty_eq (adds : FieldsAddNulls interface types shape selection others) :
    selection.isEmpty = others.isEmpty := by
  cases adds <;> rfl

/-- Rows without a shape have no relations, and no arguments that could get nulls. -/
theorem FieldsAddNulls.eq_of_none (adds : FieldsAddNulls interface types none selection others) :
    others = selection := by
  induction selection generalizing others with
  | nil =>
      cases adds
      rfl
  | cons field selection inductionHypothesis =>
      cases adds with
      | cons first later =>
          cases first with
          | same => rw [inductionHypothesis later]

/-- A relation is appended with nulls where it is appended without. -/
theorem appendRelation_addsNulls
    {inner otherInner : SelectionPlan}
    {pair : SelectedField × SelectedField}
    {relation : Relation}
    {childTypes : TableTypes}
    {path key : String}
    (keeps : pairs.KeepEqualArguments)
    (plans : PlanAddsNulls interface pairs plan otherPlan)
    (isPair : pair ∈ pairs)
    (isNamed : relation.name = pair.1.name)
    (hasTypes : interface.table? relation.target = some childTypes)
    (given : ArgumentsAddNulls (relationArgumentNames relation.cardinality) childTypes.columns
      pair.1.arguments pair.2.arguments)
    (inners : PlanAddsNulls interface (pairs.below pair.1.name) inner otherInner)
    (appended : plan.appendRelation path key relation pair.1.arguments inner = .ok extended) :
    ∃ otherExtended,
      otherPlan.appendRelation path key relation pair.2.arguments otherInner = .ok otherExtended ∧
        PlanAddsNulls interface pairs extended otherExtended := by
  cases plans with
  | plan columns output loaded =>
      rw [SelectionPlan.appendRelation] at appended ⊢
      obtain ⟨relations, added, same⟩ := bind_eq_ok.1 appended
      rw [pure_eq_ok] at same
      subst same
      rw [isNamed] at added ⊢
      obtain ⟨otherRelations, otherAdded, addsNulls⟩ := addRelation_addsNulls _ keeps
        (.cons isPair hasTypes given inners (.nil pairs)) loaded added
      have sameLayout : inner.output = otherInner.output := by
        cases inners
        rfl
      refine ⟨_, bind_eq_ok.2 ⟨_, otherAdded, rfl⟩, ?_⟩
      rw [sameLayout]
      exact PlanAddsNulls.append (.plan columns output addsNulls) _

/-- A field is pruned with nulls where it is pruned without, given that what is selected below it
is. -/
theorem pruneField_addsNulls
    {field other : SelectedField}
    {path : String}
    (below : ∀ types shape path plan otherPlan others extended pairs,
      FieldPairs.KeepEqualArguments pairs ->
      FieldsAddNulls interface types shape field.selection others ->
      (∀ pair ∈ field.selection.zip others, pair ∈ pairs) ->
      PlanAddsNulls interface pairs plan otherPlan ->
      interface.pruneFields types shape path plan field.selection = .ok extended ->
        ∃ otherExtended, interface.pruneFields types shape path otherPlan others
            = .ok otherExtended ∧
          PlanAddsNulls interface pairs extended otherExtended)
    (keeps : pairs.KeepEqualArguments)
    (adds : FieldAddsNulls interface types shape field other)
    (isPair : (field, other) ∈ pairs)
    (plans : PlanAddsNulls interface pairs plan otherPlan)
    (pruned : interface.pruneField types shape path plan field = .ok extended) :
    ∃ otherExtended, interface.pruneField types shape path otherPlan other = .ok otherExtended ∧
      PlanAddsNulls interface pairs extended otherExtended := by
  simp only [Interface.pruneField_eq_ok]
  rcases Interface.pruneField_eq_ok.1 pruned with
    ⟨isTypename, isLeaf, rfl⟩ | ⟨notTypename, isColumn, isLeaf, rfl⟩ |
      ⟨notTypename, notColumn, parent, relation, childTypes, inner, atShape, hasFields, atTable,
        prunedInner, appended⟩
  · cases adds with
    | same => exact ⟨_, .inl ⟨isTypename, isLeaf, rfl⟩, plans.append _⟩
    | relation notTypename => exact absurd isTypename notTypename
  · cases adds with
    | same => exact ⟨_, .inr (.inl ⟨notTypename, isColumn, isLeaf, rfl⟩), plans.appendColumn _ _⟩
    | relation _ notColumn =>
        rw [notColumn] at isColumn
        cases isColumn
  · obtain ⟨isParent, isRelation⟩ := Interface.relationAt_eq_ok.1 atShape
    have isNamed : relation.name = field.name := by simpa using List.find?_some isRelation
    have hasTypes := Interface.typesAt_eq_ok.1 atTable
    -- A field that stays as it is gets no nulls, and neither do the fields below it.
    obtain ⟨sameName, sameKey, given, selected⟩ : other.name = field.name ∧ other.key = field.key ∧
        ArgumentsAddNulls (relationArgumentNames relation.cardinality) childTypes.columns
          field.arguments other.arguments ∧
        FieldsAddNulls interface childTypes (some (parent.follow relation)) field.selection
          other.selection := by
      cases adds with
      | same => exact ⟨rfl, rfl, .refl, .refl _ _ _ _⟩
      | relation _ _ isSame hasSameTypes given selected =>
          cases isParent
          cases isSame.symm.trans isRelation
          cases hasSameTypes.symm.trans hasTypes
          exact ⟨rfl, rfl, given, selected⟩
    obtain ⟨otherInner, otherPruned, inners⟩ := below _ _ _ _ _ _ _
      (pairs.below field.name) (keeps.below _) selected
      (fun _ isBelow => FieldPairs.mem_below isPair isBelow) (.empty _ _ _ _) prunedInner
    obtain ⟨otherExtended, otherAppended, extendedNulls⟩ := appendRelation_addsNulls keeps plans
      isPair isNamed hasTypes given (inners.withIdentity _) appended
    refine ⟨otherExtended, .inr (.inr ⟨sameName ▸ notTypename, sameName ▸ notColumn, parent,
      relation, childTypes, otherInner, sameName ▸ atShape, ?_, ?_, ?_, ?_⟩), extendedNulls⟩
    · rw [← selected.isEmpty_eq, hasFields]
    · rw [sameKey, atTable]
    · rw [sameKey, otherPruned]
    · rw [sameKey, otherAppended]

/-- A selection is pruned with nulls where it is pruned without. -/
theorem pruneFields_addsNulls
    {path : String}
    (keeps : pairs.KeepEqualArguments)
    (adds : FieldsAddNulls interface types shape selection others)
    (arePairs : ∀ pair ∈ selection.zip others, pair ∈ pairs)
    (plans : PlanAddsNulls interface pairs plan otherPlan)
    (pruned : interface.pruneFields types shape path plan selection = .ok extended) :
    ∃ otherExtended, interface.pruneFields types shape path otherPlan others = .ok otherExtended ∧
      PlanAddsNulls interface pairs extended otherExtended := by
  induction selection using Selection.below_induction
    generalizing types shape path plan otherPlan others extended pairs with
  | step selection below =>
      induction selection generalizing plan otherPlan others with
      | nil =>
          cases adds
          rw [Interface.pruneFields] at pruned ⊢
          cases pruned
          exact ⟨_, rfl, plans⟩
      | cons field selection inductionHypothesis =>
          rw [List.forall_mem_cons] at below
          cases adds with
          | cons first later =>
              rw [List.zip_cons_cons, List.forall_mem_cons] at arePairs
              rw [Interface.pruneFields] at pruned ⊢
              obtain ⟨next, prunedFirst, prunedRest⟩ := bind_eq_ok.1 pruned
              obtain ⟨otherNext, otherFirst, nextPlans⟩ := pruneField_addsNulls
                (fun _ _ _ _ _ _ _ _ keeps adds arePairs plans pruned =>
                  below.1 keeps adds arePairs plans pruned)
                keeps first arePairs.1 plans prunedFirst
              obtain ⟨otherExtended, otherRest, extendedPlans⟩ :=
                inductionHypothesis below.2 later arePairs.2 nextPlans prunedRest
              exact ⟨otherExtended, bind_eq_ok.2 ⟨_, otherFirst, otherRest⟩, extendedPlans⟩

/-- The whole selection of a select is pruned with nulls where it is pruned without. -/
theorem prune_addsNulls
    {shape : Shape}
    {path : String}
    (hasTypes : interface.table? shape.table = some types)
    (keeps : FieldPairs.KeepEqualArguments (selection.zip others))
    (adds : FieldsAddNulls interface types (some shape) selection others)
    (pruned : interface.prune shape path selection = .ok plan) :
    ∃ otherPlan, interface.prune shape path others = .ok otherPlan ∧
      PlanAddsNulls interface (selection.zip others) plan otherPlan := by
  have known : interface.typesAt shape.table path = .ok types :=
    Interface.typesAt_eq_ok.2 hasTypes
  rw [Interface.prune] at pruned ⊢
  obtain ⟨_, knownAgain, prunedPlan⟩ := bind_eq_ok.1 pruned
  cases known.symm.trans knownAgain
  obtain ⟨extended, prunedFields, same⟩ := bind_eq_ok.1 prunedPlan
  rw [pure_eq_ok] at same
  subst same
  obtain ⟨otherExtended, otherPruned, plans⟩ := pruneFields_addsNulls keeps adds
    (fun _ => id) (.empty interface _ _ _) prunedFields
  exact ⟨_, bind_eq_ok.2 ⟨types, known, bind_eq_ok.2 ⟨_, otherPruned, rfl⟩⟩, plans.withIdentity _⟩

end Pruning
end RelationalApi
