import RelationalApi.Proofs.Answer.Levels
import RelationalApi.Proofs.Interface.Paths
import RelationalApi.Proofs.Selection.Merging

/-!
# Sibling fields

Pruning a field extends a plan by what the field asks for when it is the only one.  So the plan for
a selection loads all that each of its fields asks for alone, and all that the layout of the
selection shows.
-/

namespace RelationalApi

open Outcome

namespace SelectionPlan

/-- A plan loads all that a layout shows. -/
inductive Shows : SelectionPlan -> ObjectOutput -> Prop
  | object
      {plan : SelectionPlan}
      {object : ObjectOutput}
      (columns : ∀ key column, .column key column ∈ object.entries -> column ∈ plan.columns)
      (relations : ∀ key name cardinality inner,
        .relation key name cardinality inner ∈ object.entries ->
          ∃ loaded, plan.relation? name = some loaded)
      (inner : ∀ key name cardinality inner,
        .relation key name cardinality inner ∈ object.entries ->
          ∀ loaded, plan.relation? name = some loaded -> Shows loaded.plan inner) :
      Shows plan object

/-- A plan loads all that an entry shows. -/
def ShowsEntry (plan : SelectionPlan) : OutputEntry ObjectOutput -> Prop
  | .column _ column => column ∈ plan.columns
  | .typename _ => True
  | .relation _ name _ object =>
      ∃ loaded, plan.relation? name = some loaded ∧ loaded.plan.Shows object

theorem shows_iff {plan : SelectionPlan} {object : ObjectOutput} :
    plan.Shows object ↔ ∀ entry ∈ object.entries, plan.ShowsEntry entry := by
  constructor
  · rintro ⟨columns, relations, inner⟩ entry member
    cases entry with
    | column key column => exact columns key column member
    | typename key => exact trivial
    | relation key name cardinality object =>
        obtain ⟨loaded, found⟩ := relations key name cardinality object member
        exact ⟨loaded, found, inner key name cardinality object member loaded found⟩
  · intro shows
    refine .object (fun key column member => shows _ member) ?_ ?_
    · intro key name cardinality inner member
      obtain ⟨loaded, found, _⟩ := shows _ member
      exact ⟨loaded, found⟩
    · intro key name cardinality inner member loaded found
      obtain ⟨other, foundOther, shown⟩ := shows _ member
      rw [found] at foundOther
      cases foundOther
      exact shown

variable {related : JsonEntries -> JsonEntries -> Prop} {whole part : SelectionPlan}

/-- What loads a relation loads it with what its plan loads. -/
theorem Loads.exists_relation
    (loads : whole.Loads related part)
    {name : String}
    {relation : RelationPlan SelectionPlan}
    (found : part.relation? name = some relation) :
    ∃ loaded, whole.relation? name = some loaded ∧ loaded.plan.Loads related relation.plan := by
  obtain ⟨loaded, isLoaded, _, _, _, inner⟩ :=
    (loads_iff.1 loads).2 relation (List.mem_of_find?_eq_some found)
  have isName : relation.name = name := by simpa using List.find?_some found
  rw [isName] at isLoaded
  exact ⟨loaded, isLoaded, inner⟩

/-- What a plan shows is shown by every plan that loads as much. -/
theorem Loads.shows
    {object : ObjectOutput}
    (loads : whole.Loads related part)
    (shows : part.Shows object) :
    whole.Shows object := by
  induction shows generalizing whole with
  | @object part object columns relations inner inductionHypothesis =>
      rw [shows_iff]
      intro entry member
      cases entry with
      | column key column => exact (loads_iff.1 loads).1 column (columns key column member)
      | typename key => exact trivial
      | relation key name cardinality object =>
          obtain ⟨relation, found⟩ := relations key name cardinality object member
          obtain ⟨loaded, isLoaded, loadsInner⟩ := loads.exists_relation found
          exact ⟨loaded, isLoaded, inductionHypothesis key name cardinality object member relation
            found loadsInner⟩

theorem Loads.showsEntry
    {entry : OutputEntry ObjectOutput}
    (loads : whole.Loads related part)
    (shows : part.ShowsEntry entry) :
    whole.ShowsEntry entry := by
  cases entry with
  | column key column => exact (loads_iff.1 loads).1 column shows
  | typename key => exact trivial
  | relation key name cardinality object =>
      obtain ⟨relation, found, shown⟩ := shows
      obtain ⟨loaded, isLoaded, loadsInner⟩ := loads.exists_relation found
      exact ⟨loaded, isLoaded, loadsInner.shows shown⟩

theorem Loads.withIdentity
    (loads : whole.Loads related part)
    (identity : String) :
    (whole.withIdentity identity).Loads related part := by
  obtain ⟨columns, relations⟩ := loads_iff.1 loads
  rw [SelectionPlan.withIdentity]
  split
  · rename_i isEmpty
    rw [List.isEmpty_iff] at isEmpty
    rw [isEmpty] at columns
    exact loads_iff.2 ⟨fun column member => absurd (columns column member) List.not_mem_nil,
      relations⟩
  · exact loads

theorem shows_withIdentity
    {plan : SelectionPlan}
    {object : ObjectOutput}
    (shows : plan.Shows object)
    (identity : String) :
    (plan.withIdentity identity).Shows object := by
  rw [shows_iff] at shows ⊢
  rw [withIdentity]
  split
  · rename_i isEmpty
    rw [List.isEmpty_iff] at isEmpty
    intro entry member
    have shown := shows entry member
    cases entry with
    | column key column =>
        rw [ShowsEntry, isEmpty] at shown
        cases shown
    | typename key => exact trivial
    | relation key name cardinality inner => exact shown
  · exact shows

theorem madeFrom_withIdentity
    {schema : Schema}
    {shape : Shape}
    {fields : Selection}
    {plan : SelectionPlan}
    (made : plan.MadeFrom schema shape fields)
    (identity : String) :
    (plan.withIdentity identity).MadeFrom schema shape fields := by
  rw [madeFrom_iff] at made ⊢
  rw [withIdentity]
  split <;> exact made

end SelectionPlan

namespace Interface

variable {interface : Interface} {types : TableTypes} {shape : Shape} {path : String}
variable {related : JsonEntries -> JsonEntries -> Prop} {fields selection : Selection}
variable {plan extended : SelectionPlan} {field : SelectedField}

/-- The plan that a field alone asks for, with its entry. -/
def PrunesAlone (interface : Interface) (types : TableTypes) (shape : Shape) (path : String)
    (typeName table : String) (field : SelectedField) (alone : SelectionPlan)
    (entry : OutputEntry ObjectOutput) : Prop :=
  interface.pruneField types (some shape) path (SelectionPlan.empty typeName table) field
      = .ok alone ∧
    alone.output = ⟨typeName, some table, [entry]⟩

theorem mergePlan_eq_ok {merged alone : SelectionPlan} :
    mergePlan path plan alone = .ok merged ↔
      ∃ relations, addRelations path plan.relations alone.relations = .ok relations ∧
        ⟨alone.columns.foldl addColumn plan.columns, relations, plan.output⟩ = merged := by
  obtain ⟨columns, relations, output⟩ := alone
  rw [mergePlan, bind_eq_ok]
  simp only [pure_eq_ok]

/-- A field extends a plan by what it asks for alone. -/
theorem exists_alone
    (pruned : interface.pruneField types (some shape) path plan field = .ok extended)
    (typeName table : String) :
    ∃ alone entry merged,
      interface.PrunesAlone types shape path typeName table field alone entry ∧
        mergePlan (joinPath path field.key) plan alone = .ok merged ∧
          extended = merged.append entry := by
  simp only [PrunesAlone, pruneField_eq_ok]
  rcases pruneField_eq_ok.1 pruned with
    ⟨isTypename, isLeaf, rfl⟩ | ⟨notTypename, isColumn, isLeaf, rfl⟩ |
      ⟨notTypename, notColumn, parent, relation, childTypes, inner, atShape, hasFields, atTable,
        prunedInner, appended⟩
  · obtain ⟨columns, relations, output⟩ := plan
    refine ⟨_, .typename field.key, _, ⟨.inl ⟨isTypename, isLeaf, rfl⟩, rfl⟩, ?_, rfl⟩
    exact mergePlan_eq_ok.2 ⟨relations, addRelations.eq_1 _ _, rfl⟩
  · refine ⟨_, .column field.key field.name, _,
      ⟨.inr (.inl ⟨notTypename, isColumn, isLeaf, rfl⟩), rfl⟩, ?_, rfl⟩
    exact mergePlan_eq_ok.2 ⟨plan.relations, addRelations.eq_1 _ _, rfl⟩
  · rw [SelectionPlan.appendRelation, bind_eq_ok] at appended
    obtain ⟨relations, added, same⟩ := appended
    rw [pure_eq_ok] at same
    subst same
    refine ⟨_, .relation field.key relation.name relation.cardinality _,
      { plan with relations := relations }, ⟨.inr (.inr ⟨notTypename, notColumn, parent, relation,
        childTypes, inner, atShape, hasFields, atTable, prunedInner, rfl⟩), rfl⟩, ?_, rfl⟩
    refine mergePlan_eq_ok.2 ⟨relations, ?_, rfl⟩
    change addRelations _ plan.relations [_] = _
    rw [addRelations, added]
    exact addRelations.eq_1 (joinPath path field.key) relations

/-- A field alone asks for no relation and has nothing below it, or asks for one with what is
selected below the field. -/
theorem PrunesAlone.relations
    {typeName table : String}
    {alone : SelectionPlan}
    {entry : OutputEntry ObjectOutput}
    (prunes : interface.PrunesAlone types shape path typeName table field alone entry) :
    (alone.relations = [] ∧ (field.arguments = [] ∧ field.selection = []) ∧
      alone.ShowsEntry entry) ∨
      ∃ relation childTypes inner,
        shape.relation? interface.schema field.name = some relation ∧
          interface.pruneFields childTypes (some (shape.follow relation)) (joinPath path field.key)
            (SelectionPlan.empty (interface.shapeTypeName (shape.follow relation)) childTypes.name)
            field.selection = .ok inner ∧
          alone.relations = [⟨relation.name, relation.target, relation.cardinality,
            field.arguments, inner.withIdentity childTypes.identity⟩] ∧
          entry = .relation field.key relation.name relation.cardinality inner.output := by
  obtain ⟨pruned, laidOut⟩ := prunes
  rcases pruneField_eq_ok.1 pruned with
    ⟨_, isLeaf, rfl⟩ | ⟨_, _, isLeaf, rfl⟩ |
      ⟨_, _, parent, relation, childTypes, inner, atShape, _, _, prunedInner, appended⟩
  · cases laidOut
    exact .inl ⟨rfl, checkLeaf_eq_ok.1 isLeaf, trivial⟩
  · cases laidOut
    have isLoaded : field.name ∈ addColumn [] field.name := mem_addColumn.2 (.inr rfl)
    exact .inl ⟨rfl, checkLeaf_eq_ok.1 isLeaf, isLoaded⟩
  · obtain ⟨isParent, isRelation⟩ := relationAt_eq_ok.1 atShape
    cases isParent
    rw [SelectionPlan.appendRelation, bind_eq_ok] at appended
    obtain ⟨relations, added, same⟩ := appended
    rw [pure_eq_ok] at same
    subst same
    rw [addRelation] at added
    cases added
    cases laidOut
    exact .inr ⟨relation, childTypes, inner, isRelation, prunedInner, rfl,
      by rw [output_withIdentity]⟩

theorem PrunesAlone.entryFor
    {typeName table : String}
    {alone : SelectionPlan}
    {entry : OutputEntry ObjectOutput}
    (prunes : interface.PrunesAlone types shape path typeName table field alone entry) :
    interface.EntryFor field entry := by
  obtain ⟨laid, isEntry, appended⟩ := entry_of_pruneField prunes.1
  rw [prunes.2] at appended
  cases appended
  exact isEntry

theorem madeFrom_empty (typeName table : String) :
    (SelectionPlan.empty typeName table).MadeFrom interface.schema shape fields :=
  SelectionPlan.madeFrom_iff.2 ⟨List.nodup_nil, by simp [SelectionPlan.empty]⟩

/-- What a field alone asks for is made from it, given that what is selected below it is. -/
theorem PrunesAlone.madeFrom
    {typeName table : String}
    {alone : SelectionPlan}
    {entry : OutputEntry ObjectOutput}
    (prunes : interface.PrunesAlone types shape path typeName table field alone entry)
    (isField : field ∈ fields)
    (below : ∀ types shape path plan fields extended, (∀ inner ∈ field.selection, inner ∈ fields) ->
      SelectionPlan.MadeFrom interface.schema shape fields plan ->
        interface.pruneFields types (some shape) path plan field.selection = .ok extended ->
          extended.MadeFrom interface.schema shape fields) :
    alone.MadeFrom interface.schema shape fields := by
  rw [SelectionPlan.madeFrom_iff]
  rcases prunes.relations with ⟨none, _⟩ | ⟨relation, _, inner, isRelation, prunedInner, one, _⟩
  · rw [none]
    exact ⟨List.nodup_nil, by simp⟩
  · have isNamed : relation.name = field.name := by simpa using List.find?_some isRelation
    rw [one]
    refine ⟨by simp, fun loaded member => ?_⟩
    rw [List.mem_singleton.1 member]
    refine ⟨⟨relation, isNamed ▸ isRelation, rfl, rfl⟩,
      ⟨field, isField, isNamed.symm, rfl⟩, ?_⟩
    refine SelectionPlan.madeFrom_withIdentity
      (below _ _ _ _ _ _ ?_ (madeFrom_empty _ _) prunedInner) _
    intro inner member
    exact Selection.mem_fieldsBelow.2 ⟨field, isField, isNamed.symm, member⟩

theorem madeFrom_append
    (made : plan.MadeFrom interface.schema shape fields)
    (entry : OutputEntry ObjectOutput) :
    (plan.append entry).MadeFrom interface.schema shape fields := by
  rw [SelectionPlan.madeFrom_iff] at made ⊢
  exact made

/-- The plan for fields is made from any fields that they are among. -/
theorem madeFrom_of_pruneFields
    (areFields : ∀ field ∈ selection, field ∈ fields)
    (made : plan.MadeFrom interface.schema shape fields)
    (pruned : interface.pruneFields types (some shape) path plan selection = .ok extended) :
    extended.MadeFrom interface.schema shape fields := by
  induction selection using Selection.below_induction
    generalizing types shape path plan extended fields with
  | step selection below =>
      induction selection generalizing plan with
      | nil =>
          rw [pruneFields] at pruned
          cases pruned
          exact made
      | cons field selection inductionHypothesis =>
          rw [List.forall_mem_cons] at areFields below
          rw [pruneFields] at pruned
          obtain ⟨next, prunedFirst, prunedRest⟩ := bind_eq_ok.1 pruned
          obtain ⟨alone, entry, merged, prunes, merges, rfl⟩ := exists_alone prunedFirst "" ""
          have madeAlone := prunes.madeFrom areFields.1
            fun _ _ _ _ _ _ areInner madeInner prunedInner =>
              below.1 areInner madeInner prunedInner
          exact inductionHypothesis below.2 areFields.2
            (madeFrom_append (mergePlan_madeFrom alone made madeAlone merges) entry) prunedRest

/-- What a field alone asks for is made from the fields it is among. -/
theorem PrunesAlone.madeFrom_of_mem
    {typeName table : String}
    {alone : SelectionPlan}
    {entry : OutputEntry ObjectOutput}
    (prunes : interface.PrunesAlone types shape path typeName table field alone entry)
    (isField : field ∈ fields) :
    alone.MadeFrom interface.schema shape fields :=
  prunes.madeFrom isField fun _ _ _ _ _ _ areInner madeInner prunedInner =>
    madeFrom_of_pruneFields areInner madeInner prunedInner

/-- What a field alone asks for shows its entry, given that what is selected below it is shown. -/
theorem PrunesAlone.showsEntry
    {typeName table : String}
    {alone : SelectionPlan}
    {entry : OutputEntry ObjectOutput}
    (prunes : interface.PrunesAlone types shape path typeName table field alone entry)
    (below : ∀ types shape path typeName table extended,
      interface.pruneFields types (some shape) path (SelectionPlan.empty typeName table)
          field.selection = .ok extended ->
        extended.Shows extended.output) :
    alone.ShowsEntry entry := by
  rcases prunes.relations with
    ⟨_, _, shows⟩ | ⟨relation, childTypes, inner, _, prunedInner, one, rfl⟩
  · exact shows
  · refine ⟨⟨relation.name, relation.target, relation.cardinality, field.arguments,
      inner.withIdentity childTypes.identity⟩, ?_, ?_⟩
    · rw [SelectionPlan.relation?, one]
      simp
    · exact SelectionPlan.shows_withIdentity (below _ _ _ _ _ _ prunedInner) _

section Loading

variable [IsPreorder JsonEntries related]

/-- The plan that a field extends another plan to loads what each of the two loads. -/
theorem loads_of_pruneField
    (relates : fields.RelatesArguments related)
    (isField : field ∈ fields)
    (made : plan.MadeFrom interface.schema shape fields)
    (pruned : interface.pruneField types (some shape) path plan field = .ok extended)
    (typeName table : String) :
    extended.MadeFrom interface.schema shape fields ∧ extended.Loads related plan ∧
      ∃ alone entry,
        interface.PrunesAlone types shape path typeName table field alone entry ∧
          extended.Loads related alone ∧
          extended.output = { plan.output with entries := plan.output.entries ++ [entry] } := by
  obtain ⟨alone, entry, merged, prunes, merges, rfl⟩ := exists_alone pruned typeName table
  have madeAlone := prunes.madeFrom_of_mem isField
  obtain ⟨loadsPlan, loadsAlone⟩ := mergePlan_loads alone made madeAlone relates merges
  have sameOutput : merged.output = plan.output := by
    obtain ⟨_, _, rfl⟩ := mergePlan_eq_ok.1 merges
    rfl
  rw [SelectionPlan.loads_iff] at loadsPlan loadsAlone
  refine ⟨madeFrom_append (mergePlan_madeFrom alone made madeAlone merges) entry,
    SelectionPlan.loads_iff.2 loadsPlan, alone, entry, prunes, SelectionPlan.loads_iff.2 loadsAlone,
    ?_⟩
  rw [← sameOutput]
  rfl

/-- The plan that fields extend another plan to loads what that plan loads and what each of the
fields asks for alone, and shows the fields by the entries that they have alone. -/
theorem loads_of_pruneFields
    (relates : fields.RelatesArguments related)
    (areFields : ∀ field ∈ selection, field ∈ fields)
    (made : plan.MadeFrom interface.schema shape fields)
    (pruned : interface.pruneFields types (some shape) path plan selection = .ok extended)
    (typeName table : String) :
    extended.Loads related plan ∧
      ∃ entries,
        extended.output = { plan.output with entries := plan.output.entries ++ entries } ∧
        List.Forall₂ (fun field entry => ∃ alone,
          interface.PrunesAlone types shape path typeName table field alone entry ∧
            extended.Loads related alone) selection entries := by
  induction selection generalizing plan with
  | nil =>
      rw [pruneFields] at pruned
      cases pruned
      refine ⟨.refl made, [], ?_, .nil⟩
      rw [List.append_nil]
      cases extended.output
      rfl
  | cons field selection inductionHypothesis =>
      rw [List.forall_mem_cons] at areFields
      rw [pruneFields] at pruned
      obtain ⟨next, prunedFirst, prunedRest⟩ := bind_eq_ok.1 pruned
      obtain ⟨madeNext, loadsPlan, alone, entry, prunes, loadsAlone, appended⟩ :=
        loads_of_pruneField relates areFields.1 made prunedFirst typeName table
      obtain ⟨loadsNext, entries, appendedRest, others⟩ :=
        inductionHypothesis areFields.2 madeNext prunedRest
      refine ⟨loadsNext.trans loadsPlan, entry :: entries, ?_,
        .cons ⟨alone, prunes, loadsNext.trans loadsAlone⟩ others⟩
      rw [appendedRest, appended, List.append_assoc, List.singleton_append]

/-- The plan for fields shows its layout, if the plan that they extend does. -/
theorem shows_of_pruneFields
    (relates : fields.RelatesArguments related)
    (areFields : ∀ field ∈ selection, field ∈ fields)
    (made : plan.MadeFrom interface.schema shape fields)
    (shows : plan.Shows plan.output)
    (pruned : interface.pruneFields types (some shape) path plan selection = .ok extended) :
    extended.Shows extended.output := by
  induction selection using Selection.below_induction
    generalizing types shape path plan extended fields with
  | step selection below =>
      obtain ⟨loadsPlan, entries, appended, pairs⟩ :=
        loads_of_pruneFields relates areFields made pruned "" ""
      rw [SelectionPlan.shows_iff, appended]
      intro entry member
      rcases List.mem_append.1 member with old | new
      · exact loadsPlan.showsEntry (SelectionPlan.shows_iff.1 shows entry old)
      · obtain ⟨field, isField, alone, prunes, loadsAlone⟩ := exists_item pairs entry new
        refine loadsAlone.showsEntry (prunes.showsEntry fun _ _ _ _ _ _ prunedInner => ?_)
        refine below field isField (relates.below field.name) ?_ (madeFrom_empty _ _) ?_
          prunedInner
        · intro inner isInner
          exact Selection.mem_fieldsBelow.2 ⟨field, areFields field isField, rfl, isInner⟩
        · exact SelectionPlan.shows_iff.2 (by simp [SelectionPlan.empty])

end Loading

end Interface
end RelationalApi
