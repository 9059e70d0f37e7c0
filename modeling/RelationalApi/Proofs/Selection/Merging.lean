import Mathlib.Order.Defs.Unbundled
import RelationalApi.Proofs.Selection.Below
import RelationalApi.Proofs.Selection.Pruning

/-!
# Merged plans

A relation that is selected several times has one part in a plan, which loads what any of its fields
asks for.  The arguments are those of its first field; those of the others are only equal to them as
documents.  So a merged plan loads what each of the plans loads that it is merged from, up to
arguments that are equal.
-/

namespace RelationalApi

open Outcome

/-- The shape of a table that a relation of a shape leads to. -/
def Shape.below (shape : Shape) (target : String) : Shape :=
  ⟨target, shape.remaining.map (· - 1)⟩

namespace SelectionPlan

/-- The part for the relation of a name. -/
def relation? (plan : SelectionPlan) (name : String) : Option (RelationPlan SelectionPlan) :=
  plan.relations.find? fun relation => relation.name == name

/-- The columns and relations of a plan are loaded by another plan as well, at every depth, with
related arguments. -/
inductive Loads (related : JsonEntries -> JsonEntries -> Prop) :
    SelectionPlan -> SelectionPlan -> Prop
  | plan
      {whole part : SelectionPlan}
      (columns : ∀ column ∈ part.columns, column ∈ whole.columns)
      (relations : ∀ relation ∈ part.relations, ∃ loaded,
        whole.relation? relation.name = some loaded ∧ loaded.target = relation.target ∧
          loaded.cardinality = relation.cardinality ∧
            related loaded.arguments relation.arguments)
      (inner : ∀ relation ∈ part.relations, ∀ loaded,
        whole.relation? relation.name = some loaded -> Loads related loaded.plan relation.plan) :
      Loads related whole part

/-- A plan for the rows of a shape is made from fields: each relation has one part, which has the
arguments of one of the fields, and is made from the fields below the fields of its name. -/
inductive MadeFrom (schema : Schema) : Shape -> Selection -> SelectionPlan -> Prop
  | plan
      {shape : Shape}
      {fields : Selection}
      {plan : SelectionPlan}
      (distinct : (plan.relations.map (·.name)).Nodup)
      (known : ∀ relation ∈ plan.relations, ∃ found,
        shape.relation? schema relation.name = some found ∧ found.target = relation.target ∧
          found.cardinality = relation.cardinality)
      (given : ∀ relation ∈ plan.relations, ∃ field ∈ fields,
        field.name = relation.name ∧ field.arguments = relation.arguments)
      (inner : ∀ relation ∈ plan.relations, MadeFrom schema (shape.below relation.target)
        (fields.fieldsBelow relation.name) relation.plan) :
      MadeFrom schema shape fields plan

end SelectionPlan

section Relations

variable {related : JsonEntries -> JsonEntries -> Prop} {schema : Schema} {shape : Shape}
variable {fields : Selection} {relations others merged : List (RelationPlan SelectionPlan)}
variable {relation present : RelationPlan SelectionPlan} {path name : String}

/-- A relation is loaded by a list of relations. -/
def RelationPlan.LoadedBy (related : JsonEntries -> JsonEntries -> Prop)
    (relations : List (RelationPlan SelectionPlan)) (relation : RelationPlan SelectionPlan) :
    Prop :=
  ∃ loaded, (relations.find? fun other => other.name == relation.name) = some loaded ∧
    loaded.target = relation.target ∧ loaded.cardinality = relation.cardinality ∧
      related loaded.arguments relation.arguments ∧ loaded.plan.Loads related relation.plan

/-- A relation of a shape is made from fields. -/
def RelationPlan.MadeFrom (schema : Schema) (shape : Shape) (fields : Selection)
    (relation : RelationPlan SelectionPlan) : Prop :=
  (∃ found, shape.relation? schema relation.name = some found ∧ found.target = relation.target ∧
    found.cardinality = relation.cardinality) ∧
  (∃ field ∈ fields, field.name = relation.name ∧ field.arguments = relation.arguments) ∧
  relation.plan.MadeFrom schema (shape.below relation.target) (fields.fieldsBelow relation.name)

/-- Relations of a shape are made from fields, each once. -/
def RelationsMadeFrom (schema : Schema) (shape : Shape) (fields : Selection)
    (relations : List (RelationPlan SelectionPlan)) : Prop :=
  (relations.map (·.name)).Nodup ∧ ∀ relation ∈ relations, relation.MadeFrom schema shape fields

theorem SelectionPlan.loads_iff {whole part : SelectionPlan} :
    whole.Loads related part ↔
      (∀ column ∈ part.columns, column ∈ whole.columns) ∧
        ∀ relation ∈ part.relations, relation.LoadedBy related whole.relations := by
  constructor
  · rintro ⟨columns, loads, inner⟩
    refine ⟨columns, fun relation member => ?_⟩
    obtain ⟨loaded, found, sameTarget, sameCardinality, given⟩ := loads relation member
    exact ⟨loaded, found, sameTarget, sameCardinality, given, inner relation member loaded found⟩
  · rintro ⟨columns, loads⟩
    refine .plan columns ?_ ?_
    · intro relation member
      obtain ⟨loaded, found, sameTarget, sameCardinality, given, _⟩ := loads relation member
      exact ⟨loaded, found, sameTarget, sameCardinality, given⟩
    · intro relation member loaded found
      obtain ⟨other, foundOther, _, _, _, inner⟩ := loads relation member
      rw [relation?, foundOther] at found
      cases found
      exact inner

theorem SelectionPlan.madeFrom_iff {plan : SelectionPlan} :
    plan.MadeFrom schema shape fields ↔ RelationsMadeFrom schema shape fields plan.relations := by
  constructor
  · rintro ⟨distinct, known, given, inner⟩
    exact ⟨distinct, fun relation member =>
      ⟨known relation member, given relation member, inner relation member⟩⟩
  · rintro ⟨distinct, made⟩
    exact .plan distinct (fun relation member => (made relation member).1)
      (fun relation member => (made relation member).2.1)
      (fun relation member => (made relation member).2.2)

/-- Relations of one name of one shape lead to the same table. -/
theorem RelationPlan.MadeFrom.target_eq
    (made : relation.MadeFrom schema shape fields)
    (otherMade : present.MadeFrom schema shape fields)
    (sameName : relation.name = present.name) :
    relation.target = present.target ∧ relation.cardinality = present.cardinality := by
  obtain ⟨⟨found, isKnown, sameTarget, sameCardinality⟩, _⟩ := made
  obtain ⟨⟨_, isKnownAgain, otherTarget, otherCardinality⟩, _⟩ := otherMade
  rw [sameName, isKnownAgain] at isKnown
  cases isKnown
  exact ⟨sameTarget.symm.trans otherTarget, sameCardinality.symm.trans otherCardinality⟩

/-- Equal arguments of relations of one name are related, where those of their fields are. -/
theorem RelationPlan.MadeFrom.related_arguments
    (relates : fields.RelatesArguments related)
    (made : relation.MadeFrom schema shape fields)
    (otherMade : present.MadeFrom schema shape fields)
    (sameName : relation.name = present.name)
    (equal : (Json.object relation.arguments == Json.object present.arguments) = true) :
    related relation.arguments present.arguments := by
  obtain ⟨_, ⟨field, isField, fieldName, given⟩, _⟩ := made
  obtain ⟨_, ⟨other, isOther, otherName, otherGiven⟩, _⟩ := otherMade
  rw [← given, ← otherGiven] at equal ⊢
  exact relates [] field isField other isOther
    (fieldName.trans (sameName.trans otherName.symm)) equal

/-- The first relation of a name is the only one, where the names are distinct. -/
theorem find?_of_mem
    (distinct : (relations.map (·.name)).Nodup)
    (member : relation ∈ relations) :
    (relations.find? fun other => other.name == relation.name) = some relation := by
  induction relations with
  | nil => cases member
  | cons first relations inductionHypothesis =>
      rw [List.map_cons, List.nodup_cons] at distinct
      rw [List.find?_cons]
      rcases List.mem_cons.1 member with rfl | later
      · rw [beq_self_eq_true]
      · have different : first.name ≠ relation.name := by
          intro same
          exact distinct.1 (same ▸ List.mem_map_of_mem later)
        rw [beq_eq_false_iff_ne.2 different]
        exact inductionHypothesis distinct.2 later

theorem find?_replacePlan (name : String) (plan : SelectionPlan)
    (relations : List (RelationPlan SelectionPlan)) (other : String) :
    ((replacePlan name plan relations).find? fun relation => relation.name == other) =
      (relations.find? fun relation => relation.name == other).map fun relation =>
        if name = other then { relation with plan := plan } else relation := by
  induction relations with
  | nil => rfl
  | cons first relations inductionHypothesis =>
      rw [replacePlan]
      by_cases isFirst : first.name = name
      · rw [if_pos isFirst, List.find?_cons, List.find?_cons]
        by_cases isOther : first.name = other
        · simp [beq_iff_eq.2 isOther, isFirst ▸ isOther]
        · have different : name ≠ other := isFirst ▸ isOther
          simp [beq_eq_false_iff_ne.2 isOther, different]
      · rw [if_neg isFirst, List.find?_cons, List.find?_cons, inductionHypothesis]
        by_cases isOther : first.name = other
        · have different : name ≠ other := fun same => isFirst (isOther.trans same.symm)
          simp [beq_iff_eq.2 isOther, different]
        · rw [beq_eq_false_iff_ne.2 isOther]

theorem map_name_replacePlan (name : String) (plan : SelectionPlan)
    (relations : List (RelationPlan SelectionPlan)) :
    (replacePlan name plan relations).map (·.name) = relations.map (·.name) := by
  induction relations with
  | nil => rfl
  | cons first relations inductionHypothesis =>
      rw [replacePlan]
      split
      · rfl
      · rw [List.map_cons, List.map_cons, inductionHypothesis]

theorem mem_replacePlan
    {plan : SelectionPlan}
    (member : relation ∈ replacePlan name plan relations) :
    relation ∈ relations ∨ ∃ present, (relations.find? fun other => other.name == name)
      = some present ∧ relation = { present with plan := plan } := by
  induction relations with
  | nil => cases member
  | cons first relations inductionHypothesis =>
      rw [replacePlan] at member
      split at member
      · rename_i isFirst
        rcases List.mem_cons.1 member with rfl | later
        · exact .inr ⟨first, by simp [isFirst], rfl⟩
        · exact .inl (List.mem_cons_of_mem _ later)
      · rename_i different
        rcases List.mem_cons.1 member with rfl | later
        · exact .inl List.mem_cons_self
        · rw [List.find?_cons, beq_eq_false_iff_ne.2 different]
          exact (inductionHypothesis later).imp_left (List.mem_cons_of_mem _)

theorem mem_foldl_addColumn {columns added : List String} {column : String} :
    column ∈ added.foldl addColumn columns ↔ column ∈ columns ∨ column ∈ added := by
  induction added generalizing columns with
  | nil => simp
  | cons first added inductionHypothesis =>
      rw [List.foldl_cons, inductionHypothesis, mem_addColumn, List.mem_cons, or_assoc]

-- The recursion follows the relation or plan that is added, as merging does.
mutual

/-- A relation made from fields is added to relations made from the same fields. -/
theorem addRelation_madeFrom :
    (relation : RelationPlan SelectionPlan) -> ∀ {shape fields relations merged},
      RelationsMadeFrom schema shape fields relations ->
        relation.MadeFrom schema shape fields ->
          addRelation path relations relation = .ok merged ->
            RelationsMadeFrom schema shape fields merged
  | ⟨name, target, cardinality, arguments, plan⟩, shape, fields, relations, merged, made, new,
      added => by
      rw [addRelation] at added
      split at added
      · rename_i absent
        cases added
        refine ⟨?_, ?_⟩
        · rw [List.map_append, List.map_singleton, List.nodup_append]
          refine ⟨made.1, by simp, ?_⟩
          rintro _ member _ isNew rfl
          obtain ⟨present, isPresent, sameName⟩ := List.mem_map.1 member
          rw [List.mem_singleton.1 isNew] at sameName
          exact List.find?_eq_none.1 absent present isPresent (beq_iff_eq.2 sameName)
        · intro relation member
          rcases List.mem_append.1 member with old | isNew
          · exact made.2 relation old
          · rw [List.mem_singleton.1 isNew]
            exact new
      · rename_i present found
        split at added
        · obtain ⟨mergedPlan, mergedPlans, same⟩ := bind_eq_ok.1 added
          rw [pure_eq_ok] at same
          subst same
          refine ⟨(map_name_replacePlan name mergedPlan relations).symm ▸ made.1, ?_⟩
          intro relation member
          rcases mem_replacePlan member with old | ⟨other, foundOther, rfl⟩
          · exact made.2 relation old
          · rw [found] at foundOther
            cases foundOther
            have madePresent := made.2 present (List.mem_of_find?_eq_some found)
            have isName : present.name = name := by simpa using List.find?_some found
            subst isName
            have innerNew := new.2.2
            rw [← (madePresent.target_eq new rfl).1] at innerNew
            exact ⟨madePresent.1, madePresent.2.1,
              mergePlan_madeFrom plan madePresent.2.2 innerNew mergedPlans⟩
        · cases added

theorem mergePlan_madeFrom :
    (plan : SelectionPlan) -> ∀ {shape fields present merged},
      present.MadeFrom schema shape fields -> plan.MadeFrom schema shape fields ->
        mergePlan path present plan = .ok merged -> merged.MadeFrom schema shape fields
  | ⟨columns, relations, output⟩, shape, fields, present, merged, made, new, added => by
      rw [mergePlan] at added
      obtain ⟨mergedRelations, addedRelations, same⟩ := bind_eq_ok.1 added
      rw [pure_eq_ok] at same
      subst same
      rw [SelectionPlan.madeFrom_iff] at made new ⊢
      exact addRelations_madeFrom relations made new.2 addedRelations

theorem addRelations_madeFrom :
    (added : List (RelationPlan SelectionPlan)) -> ∀ {shape fields relations merged},
      RelationsMadeFrom schema shape fields relations ->
        (∀ relation ∈ added, relation.MadeFrom schema shape fields) ->
          addRelations path relations added = .ok merged ->
            RelationsMadeFrom schema shape fields merged
  | [], shape, fields, relations, merged, made, _, added => by
      rw [addRelations] at added
      cases added
      exact made
  | relation :: others, shape, fields, relations, merged, made, new, added => by
      rw [addRelations] at added
      obtain ⟨extended, addedFirst, addedOthers⟩ := bind_eq_ok.1 added
      rw [List.forall_mem_cons] at new
      exact addRelations_madeFrom others (addRelation_madeFrom relation made new.1 addedFirst)
        new.2 addedOthers

end

section Loading

variable [IsPreorder JsonEntries related]

theorem SelectionPlan.Loads.trans
    {whole between part : SelectionPlan}
    (loads : whole.Loads related between)
    (loadsPart : between.Loads related part) :
    whole.Loads related part := by
  induction loadsPart generalizing whole with
  | @plan between part columns loaded inner inductionHypothesis =>
      obtain ⟨columnsBetween, loadedBetween⟩ := SelectionPlan.loads_iff.1 loads
      rw [SelectionPlan.loads_iff]
      refine ⟨fun column member => columnsBetween column (columns column member), ?_⟩
      intro relation member
      obtain ⟨middle, found, sameTarget, sameCardinality, given⟩ := loaded relation member
      obtain ⟨first, foundFirst, firstTarget, firstCardinality, firstGiven, loadsMiddle⟩ :=
        loadedBetween middle (List.mem_of_find?_eq_some found)
      have isName : middle.name = relation.name := by simpa using List.find?_some found
      rw [isName] at foundFirst
      exact ⟨first, foundFirst, firstTarget.trans sameTarget,
        firstCardinality.trans sameCardinality, IsTrans.trans _ _ _ firstGiven given,
        inductionHypothesis relation member middle found loadsMiddle⟩

theorem RelationPlan.LoadedBy.trans
    (loaded : relation.LoadedBy related relations)
    (loads : ∀ relation ∈ relations, relation.LoadedBy related others) :
    relation.LoadedBy related others := by
  obtain ⟨middle, found, sameTarget, sameCardinality, given, inner⟩ := loaded
  obtain ⟨first, foundFirst, firstTarget, firstCardinality, firstGiven, loadsMiddle⟩ :=
    loads middle (List.mem_of_find?_eq_some found)
  have isName : middle.name = relation.name := by simpa using List.find?_some found
  rw [isName] at foundFirst
  exact ⟨first, foundFirst, firstTarget.trans sameTarget, firstCardinality.trans sameCardinality,
    IsTrans.trans _ _ _ firstGiven given, loadsMiddle.trans inner⟩

theorem SelectionPlan.Loads.refl
    {plan : SelectionPlan}
    (made : plan.MadeFrom schema shape fields) :
    plan.Loads related plan := by
  induction made with
  | plan distinct _ _ _ inductionHypothesis =>
      refine .plan (fun _ member => member) ?_ ?_
      · intro relation member
        exact ⟨relation, find?_of_mem distinct member, rfl, rfl, Std.Refl.refl _⟩
      · intro relation member loaded found
        rw [relation?, find?_of_mem distinct member] at found
        cases found
        exact inductionHypothesis relation member

/-- Each of the relations is loaded by any list in which it is found. -/
theorem loadedBy_of_find?
    (made : relation.MadeFrom schema shape fields)
    (found : (relations.find? fun other => other.name == relation.name) = some relation) :
    relation.LoadedBy related relations :=
  ⟨relation, found, rfl, rfl, Std.Refl.refl _, .refl made.2.2⟩

end Loading

-- The recursion follows the relation or plan that is added, as merging does.
mutual

/-- Merged relations load the old ones and the new one. -/
theorem addRelation_loads [IsPreorder JsonEntries related] :
    (relation : RelationPlan SelectionPlan) -> ∀ {shape fields relations merged},
      RelationsMadeFrom schema shape fields relations ->
        relation.MadeFrom schema shape fields -> fields.RelatesArguments related ->
          addRelation path relations relation = .ok merged ->
            (∀ old ∈ relations, old.LoadedBy related merged) ∧ relation.LoadedBy related merged
  | ⟨name, target, cardinality, arguments, plan⟩, shape, fields, relations, merged, made, new,
      relates, added => by
      rw [addRelation] at added
      split at added
      · rename_i absent
        cases added
        refine ⟨fun old member => ?_, ?_⟩
        · refine loadedBy_of_find? (made.2 old member) ?_
          rw [List.find?_append, find?_of_mem made.1 member]
          rfl
        · refine loadedBy_of_find? new ?_
          rw [List.find?_append, absent]
          simp
      · rename_i present found
        split at added
        · rename_i equal
          obtain ⟨mergedPlan, mergedPlans, same⟩ := bind_eq_ok.1 added
          rw [pure_eq_ok] at same
          subst same
          have madePresent := made.2 present (List.mem_of_find?_eq_some found)
          have isName : present.name = name := by simpa using List.find?_some found
          subst isName
          obtain ⟨sameTarget, sameCardinality⟩ := madePresent.target_eq new rfl
          have given := madePresent.related_arguments relates new rfl equal
          have innerNew := new.2.2
          rw [← sameTarget] at innerNew
          obtain ⟨loadsPresent, loadsNew⟩ :=
            mergePlan_loads plan madePresent.2.2 innerNew (relates.below present.name) mergedPlans
          have foundMerged : ((replacePlan present.name mergedPlan relations).find?
              fun other => other.name == present.name) =
                some { present with plan := mergedPlan } := by
            rw [find?_replacePlan, found]
            simp
          refine ⟨fun old member => ?_,
            ⟨_, foundMerged, sameTarget, sameCardinality, given, loadsNew⟩⟩
          by_cases isOld : old.name = present.name
          · have isOldPresent : old = present := by
              have foundOld := find?_of_mem made.1 member
              rw [isOld, found] at foundOld
              exact (Option.some.inj foundOld).symm
            subst isOldPresent
            exact ⟨_, foundMerged, rfl, rfl, Std.Refl.refl _, loadsPresent⟩
          · refine loadedBy_of_find? (made.2 old member) ?_
            rw [find?_replacePlan, find?_of_mem made.1 member, Option.map_some,
              if_neg (Ne.symm isOld)]
        · cases added

/-- A merged plan loads what each of the two plans loads. -/
theorem mergePlan_loads [IsPreorder JsonEntries related] :
    (plan : SelectionPlan) -> ∀ {shape fields present merged},
      present.MadeFrom schema shape fields -> plan.MadeFrom schema shape fields ->
        fields.RelatesArguments related -> mergePlan path present plan = .ok merged ->
          merged.Loads related present ∧ merged.Loads related plan
  | ⟨columns, relations, output⟩, shape, fields, present, merged, made, new, relates, added => by
      rw [mergePlan] at added
      obtain ⟨mergedRelations, addedRelations, same⟩ := bind_eq_ok.1 added
      rw [pure_eq_ok] at same
      subst same
      rw [SelectionPlan.madeFrom_iff] at made new
      obtain ⟨loadsOld, loadsNew⟩ := addRelations_loads relations made new.2 relates addedRelations
      rw [SelectionPlan.loads_iff, SelectionPlan.loads_iff]
      exact ⟨⟨fun _ member => mem_foldl_addColumn.2 (.inl member), loadsOld⟩,
        ⟨fun _ member => mem_foldl_addColumn.2 (.inr member), loadsNew⟩⟩

theorem addRelations_loads [IsPreorder JsonEntries related] :
    (added : List (RelationPlan SelectionPlan)) -> ∀ {shape fields relations merged},
      RelationsMadeFrom schema shape fields relations ->
        (∀ relation ∈ added, relation.MadeFrom schema shape fields) ->
          fields.RelatesArguments related -> addRelations path relations added = .ok merged ->
            (∀ old ∈ relations, old.LoadedBy related merged) ∧
              ∀ relation ∈ added, relation.LoadedBy related merged
  | [], shape, fields, relations, merged, made, _, _, added => by
      rw [addRelations] at added
      cases added
      exact ⟨fun old member => loadedBy_of_find? (made.2 old member)
        (find?_of_mem made.1 member), by simp⟩
  | relation :: others, shape, fields, relations, merged, made, new, relates, added => by
      rw [addRelations] at added
      obtain ⟨extended, addedFirst, addedOthers⟩ := bind_eq_ok.1 added
      rw [List.forall_mem_cons] at new
      obtain ⟨loadsOld, loadsFirst⟩ := addRelation_loads relation made new.1 relates addedFirst
      obtain ⟨loadsExtended, loadsOthers⟩ := addRelations_loads others
        (addRelation_madeFrom relation made new.1 addedFirst) new.2 relates addedOthers
      exact ⟨fun old member => (loadsOld old member).trans loadsExtended,
        List.forall_mem_cons.2 ⟨loadsFirst.trans loadsExtended, loadsOthers⟩⟩

end

end Relations
end RelationalApi
