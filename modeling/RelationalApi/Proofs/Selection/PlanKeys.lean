import RelationalApi.Proofs.Interface.InputTypes
import RelationalApi.Proofs.Selection.Siblings
import RelationalApi.Proofs.Selection.UnknownFields

/-!
# Keys of plans

A plan keeps the arguments of the first field of each relation, and those of the other fields only
have to be equal.  Equal documents have the same keys, so a plan has exactly the keys of the
selection that it is the plan of.
-/

namespace RelationalApi

open Outcome

namespace Json

variable {registry : TypeRegistry}

theorem exists_of_equalItems
    {lefts rights : List Json}
    (same : equalItems lefts rights = true)
    {index : Nat}
    {item : Json}
    (found : rights[index]? = some item) :
    ∃ other, lefts[index]? = some other ∧ equal other item = true := by
  induction rights generalizing lefts index with
  | nil => cases found
  | cons right rights inductionHypothesis =>
      cases lefts with
      | nil => simp [equalItems] at same
      | cons left lefts =>
          rw [equalItems, Bool.and_eq_true] at same
          cases index with
          | zero =>
              cases found
              exact ⟨left, rfl, same.1⟩
          | succ index => exact inductionHypothesis same.2 found

/-- Every entry of a well-formed object has an equal one of its key in every equal object. -/
theorem exists_entry_of_equal
    {lefts rights : JsonEntries}
    (leftWellFormed : (object lefts).isWellFormed = true)
    (rightWellFormed : (object rights).isWellFormed = true)
    (same : (object lefts).equal (object rights) = true)
    {key : String}
    {value : Json}
    (member : (key, value) ∈ rights) :
    ∃ other, (key, other) ∈ lefts ∧ other.isWellFormed = true ∧ value.isWellFormed = true ∧
      other.equal value = true := by
  rw [equal, Bool.and_eq_true, beq_iff_eq] at same
  rw [isWellFormed_object, Bool.and_eq_true, decide_eq_true_iff, entriesWellFormed_iff]
    at leftWellFormed rightWellFormed
  obtain ⟨other, isEntry, equal⟩ :=
    exists_partner leftWellFormed.1 rightWellFormed.1 same.1 same.2 member
  exact ⟨other, isEntry, leftWellFormed.2 _ isEntry, rightWellFormed.2 _ member, equal⟩

/-- Equal documents have the same keys. -/
theorem keyWithin_of_equal
    {type : TypeRef}
    {path : String}
    {left right : Json}
    {key : InputKey}
    (leftWellFormed : left.isWellFormed = true)
    (rightWellFormed : right.isWellFormed = true)
    (same : left.equal right = true)
    (within : registry.KeyWithin type path right key) :
    registry.KeyWithin type path left key := by
  induction within generalizing left with
  | name isInput member =>
      cases left with
      | object lefts =>
          obtain ⟨other, isEntry, _⟩ :=
            exists_entry_of_equal leftWellFormed rightWellFormed same member
          exact .name isInput isEntry
      | _ => simp [equal] at same
  | value isInput isField member _ inductionHypothesis =>
      cases left with
      | object lefts =>
          obtain ⟨other, isEntry, otherWellFormed, valueWellFormed, equal⟩ :=
            exists_entry_of_equal leftWellFormed rightWellFormed same member
          exact .value isInput isField isEntry
            (inductionHypothesis otherWellFormed valueWellFormed equal)
      | _ => simp [equal] at same
  | item isList found _ inductionHypothesis =>
      cases left with
      | array lefts =>
          rw [equal] at same
          rw [isWellFormed_array, itemsWellFormed_iff] at leftWellFormed rightWellFormed
          obtain ⟨other, isItem, equal⟩ := exists_of_equalItems same found
          exact .item isList isItem (inductionHypothesis
            (leftWellFormed _ (List.mem_of_getElem? isItem))
            (rightWellFormed _ (List.mem_of_getElem? found)) equal)
      | _ => simp [equal] at same
  | single isList _ inductionHypothesis =>
      cases left with
      | array lefts =>
          rw [equal] at same
          rw [isWellFormed_array, itemsWellFormed_iff] at leftWellFormed rightWellFormed
          match lefts with
          | [] => simp [equalItems] at same
          | [other] =>
              rw [equalItems, Bool.and_eq_true] at same
              rw [List.forall_mem_singleton] at leftWellFormed rightWellFormed
              exact .single isList (inductionHypothesis leftWellFormed rightWellFormed same.1)
          | first :: second :: others => simp [equalItems] at same
      | _ => simp [equal] at same

end Json

namespace TypeRegistry

variable {registry : TypeRegistry}

/-- Arguments have all keys that other arguments have, wherever they are given. -/
def HasKeysOf (registry : TypeRegistry) (arguments others : JsonEntries) : Prop :=
  ∀ declared place path key, registry.ArgumentKey declared place path others key ->
    registry.ArgumentKey declared place path arguments key

instance : IsPreorder JsonEntries registry.HasKeysOf where
  refl _ _ _ _ _ isKey := isKey
  trans _ _ _ first second declared place path key isKey :=
    first declared place path key (second declared place path key isKey)

theorem hasKeysOf_of_equal
    {arguments others : JsonEntries}
    (wellFormed : (Json.object arguments).isWellFormed = true)
    (otherWellFormed : (Json.object others).isWellFormed = true)
    (same : (Json.object arguments == Json.object others) = true) :
    registry.HasKeysOf arguments others := by
  rintro declared place path key ⟨⟨name, value⟩, isEntry, isKey⟩
  obtain ⟨other, isOther, otherValueWellFormed, valueWellFormed, equal⟩ :=
    Json.exists_entry_of_equal wellFormed otherWellFormed same isEntry
  refine ⟨(name, other), isOther, isKey.imp_right ?_⟩
  rintro ⟨field, isField, isNamed, within⟩
  exact ⟨field, isField, isNamed,
    Json.keyWithin_of_equal otherValueWellFormed valueWellFormed equal within⟩

end TypeRegistry

/-- All arguments in a selection are documents that a reader can produce. -/
def Selection.IsWellFormed (selection : Selection) : Prop :=
  ∀ path, ∀ field ∈ selection.selectedAt path, (Json.object field.arguments).isWellFormed = true

theorem Selection.IsWellFormed.below
    {selection : Selection}
    (wellFormed : selection.IsWellFormed)
    (name : String) :
    (selection.fieldsBelow name).IsWellFormed :=
  fun path => wellFormed (name :: path)

theorem Selection.isWellFormed_iff {selection : Selection} :
    selection.IsWellFormed ↔
      ∀ field ∈ selection, (Json.object field.arguments).isWellFormed = true ∧
        Selection.IsWellFormed field.selection := by
  constructor
  · intro wellFormed field isField
    refine ⟨wellFormed [] field isField, fun path inner isInner => ?_⟩
    exact wellFormed (field.name :: path) inner
      (Selection.mem_selectedAt_cons.2 ⟨field, isField, rfl, isInner⟩)
  · intro each path inner isInner
    cases path with
    | nil => exact (each inner isInner).1
    | cons name path =>
        obtain ⟨field, isField, _, isInner⟩ := Selection.mem_selectedAt_cons.1 isInner
        exact (each field isField).2 path inner isInner

theorem Selection.isWellFormed_nil : Selection.IsWellFormed [] :=
  Selection.isWellFormed_iff.2 (by simp)

theorem Selection.isWellFormed_cons {field : SelectedField} {selection : Selection} :
    Selection.IsWellFormed (field :: selection) ↔
      (Json.object field.arguments).isWellFormed = true ∧
        Selection.IsWellFormed field.selection ∧ selection.IsWellFormed := by
  rw [isWellFormed_iff, List.forall_mem_cons, ← isWellFormed_iff, and_assoc]

theorem Selection.IsWellFormed.relatesArguments
    {selection : Selection}
    (wellFormed : selection.IsWellFormed)
    (registry : TypeRegistry) :
    selection.RelatesArguments registry.HasKeysOf :=
  fun path field isField other isOther _ equal =>
    TypeRegistry.hasKeysOf_of_equal (wellFormed path field isField) (wellFormed path other isOther)
      equal

/-- The keys of the arguments of the relations of a plan for the rows of an object type. -/
inductive SelectionPlan.HasKey (registry : TypeRegistry) :
    String -> String -> SelectionPlan -> InputKey -> Prop
  | here
      {type path : String}
      {plan : SelectionPlan}
      {relation : RelationPlan SelectionPlan}
      {key : InputKey}
      (member : relation ∈ plan.relations)
      (given : registry.ArgumentKey
        (TypeRegistry.argumentsOf (registry.field? type relation.name))
        (extendPath path relation.name) (extendPath path relation.name) relation.arguments key) :
      HasKey registry type path plan key
  | inside
      {type path : String}
      {plan : SelectionPlan}
      {relation : RelationPlan SelectionPlan}
      {definition : OutputField}
      {key : InputKey}
      (member : relation ∈ plan.relations)
      (isDefined : registry.field? type relation.name = some definition)
      (inner : HasKey registry definition.type.baseName (extendPath path relation.name)
        relation.plan key) :
      HasKey registry type path plan key

/-- The keys of a relation of a plan: those of its arguments, and those of its plan. -/
def RelationPlan.HasKey (registry : TypeRegistry) (type path : String)
    (relation : RelationPlan SelectionPlan) (key : InputKey) : Prop :=
  registry.ArgumentKey (TypeRegistry.argumentsOf (registry.field? type relation.name))
      (extendPath path relation.name) (extendPath path relation.name) relation.arguments key ∨
    ∃ definition, registry.field? type relation.name = some definition ∧
      relation.plan.HasKey registry definition.type.baseName (extendPath path relation.name) key

theorem SelectionPlan.hasKey_iff
    {registry : TypeRegistry}
    {type path : String}
    {plan : SelectionPlan}
    {key : InputKey} :
    plan.HasKey registry type path key ↔
      ∃ relation ∈ plan.relations, relation.HasKey registry type path key := by
  constructor
  · intro hasKey
    cases hasKey with
    | here isRelation given => exact ⟨_, isRelation, .inl given⟩
    | inside isRelation isDefined inner => exact ⟨_, isRelation, .inr ⟨_, isDefined, inner⟩⟩
  · rintro ⟨relation, isRelation, given | ⟨definition, isDefined, inner⟩⟩
    · exact .here isRelation given
    · exact .inside isRelation isDefined inner

namespace Interface

variable {interface : Interface} {schema : Schema} {config : EngineConfig} {shape : Shape}
variable {types : TableTypes} {path start : String} {selection fields : Selection}
variable {plan whole : SelectionPlan} {key : InputKey}

/-- The type of a shape has a field for each relation that the shape may follow. -/
theorem field?_relation
    (generated : generate schema config = .ok interface)
    (member : shape ∈ schema.shapes config.depthLimit)
    {name : String}
    {relation : Relation}
    (leads : shape.relation? interface.schema name = some relation) :
    interface.registry.field? (interface.shapeTypeName shape) name =
      some (relationField config.depthLimit shape relation) := by
  obtain ⟨_, types, _, _, found, _⟩ := carriesColumns_of_mem_shapes generated member
  have notColumn := isSome_column?_eq_false generated found leads
  rw [TableTypes.column?, Option.isSome_eq_false_iff, Option.isNone_iff_eq_none,
    List.find?_eq_none] at notColumn
  rw [(represents_of_generate generated).schema_eq] at leads
  rw [TypeRegistry.field?, objectFields?_shape generated member, Option.bind_some,
    find?_shapeFields, leads, Option.map_some]
  rw [table?] at found
  rw [columnsOf, found]
  intro isColumn
  obtain ⟨column, isColumn, isNamed⟩ := List.mem_map.1 isColumn
  exact notColumn column isColumn (beq_iff_eq.2 isNamed)

/-- Each field of a pruned selection has nothing below it, or a relation that is loaded with the
keys of its arguments and with what is selected below it. -/
theorem exists_loaded
    {typeName table : String}
    {among : Selection}
    {field : SelectedField}
    (relates : among.RelatesArguments interface.registry.HasKeysOf)
    (areAmong : ∀ field ∈ selection, field ∈ among)
    (pruned : interface.pruneFields types (some shape) path (.empty typeName table) selection
      = .ok plan)
    (loads : whole.Loads interface.registry.HasKeysOf plan)
    (isSelected : field ∈ selection) :
    (field.arguments = [] ∧ field.selection = []) ∨
      ∃ relation childTypes inner loaded,
        shape.relation? interface.schema field.name = some relation ∧
          interface.pruneFields childTypes (some (shape.follow relation)) (joinPath path field.key)
            (.empty (interface.shapeTypeName (shape.follow relation)) childTypes.name)
            field.selection = .ok inner ∧
          loaded ∈ whole.relations ∧ loaded.name = field.name ∧
          interface.registry.HasKeysOf loaded.arguments field.arguments ∧
          loaded.plan.Loads interface.registry.HasKeysOf inner := by
  obtain ⟨_, entries, _, pairs⟩ :=
    loads_of_pruneFields relates areAmong (madeFrom_empty typeName table) pruned "" ""
  obtain ⟨entry, _, alone, prunes, loadsAlone⟩ := exists_result pairs field isSelected
  rcases prunes.relations with
    ⟨_, leaf, _⟩ | ⟨relation, childTypes, inner, leads, prunedInner, one, _⟩
  · exact .inl leaf
  · have isNamed : relation.name = field.name := by simpa using List.find?_some leads
    have loadsRelation := (SelectionPlan.loads_iff.1 (loads.trans loadsAlone)).2
    rw [one, List.forall_mem_singleton] at loadsRelation
    obtain ⟨loaded, found, _, _, hasKeys, loadsInner⟩ := loadsRelation
    have sameName : loaded.name = relation.name := by simpa using List.find?_some found
    have made := madeFrom_of_pruneFields (fun _ isInner => isInner) (madeFrom_empty _ _) prunedInner
    exact .inr ⟨relation, childTypes, inner, loaded, leads, prunedInner,
      List.mem_of_find?_eq_some found, sameName.trans isNamed, hasKeys,
      loadsInner.trans (.withIdentity (.refl made) _)⟩

/-- What loads the plan of a selection has all keys of the selection. -/
theorem hasKey_of_selects
    (generated : generate schema config = .ok interface)
    (member : shape ∈ schema.shapes config.depthLimit)
    {typeName table type reached : String}
    {among : Selection}
    {along : List SelectedField}
    {field : SelectedField}
    (isType : interface.shapeTypeName shape = type)
    (relates : among.RelatesArguments interface.registry.HasKeysOf)
    (areAmong : ∀ field ∈ selection, field ∈ among)
    (pruned : interface.pruneFields types (some shape) path (.empty typeName table) selection
      = .ok plan)
    (loads : whole.Loads interface.registry.HasKeysOf plan)
    (selects : interface.registry.Selects type selection along reached fields)
    (isSelected : field ∈ fields)
    (given : interface.registry.ArgumentKey
      (TypeRegistry.argumentsOf (interface.registry.field? reached field.name))
      (TypeRegistry.argumentPath start (along ++ [field]))
      (TypeRegistry.argumentPath start (along ++ [field])) field.arguments key) :
    whole.HasKey interface.registry type start key := by
  induction selects generalizing shape types path typeName table plan whole start among with
  | here =>
      rcases exists_loaded relates areAmong pruned loads isSelected with
        ⟨noArguments, _⟩ | ⟨_, _, _, loaded, _, _, isLoaded, isNamed, hasKeys, _⟩
      · rw [noArguments] at given
        obtain ⟨_, impossible, _⟩ := given
        cases impossible
      · refine .here isLoaded (hasKeys _ _ _ _ ?_)
        rw [isNamed]
        exact given
  | @inside _ _ _ _ first firstDefinition _ isFirst isFirstDefined inner inductionHypothesis =>
      rcases exists_loaded relates areAmong pruned loads isFirst with
        ⟨_, nothing⟩ |
          ⟨relation, _, _, loaded, leads, prunedInner, isLoaded, isNamed, _, loadsInner⟩
      · rw [nothing] at inner
        rw [inner.of_nil] at isSelected
        cases isSelected
      · have definedRelation := field?_relation generated member leads
        rw [isType, isFirstDefined, Option.some.injEq] at definedRelation
        have childType : interface.shapeTypeName (shape.follow relation) =
            firstDefinition.type.baseName := by
          rw [definedRelation, baseName_relationField, shapeTypeName,
            (represents_of_generate generated).config_eq]
        rw [← isNamed] at isFirstDefined
        refine .inside isLoaded isFirstDefined (inductionHypothesis
          (follow_mem_shapes generated member leads) childType (relates.below first.name) ?_
          prunedInner loadsInner isSelected ?_)
        · intro field isInner
          exact Selection.mem_fieldsBelow.2 ⟨first, areAmong first isFirst, rfl, isInner⟩
        · rw [isNamed]
          exact given

/-- The keys of a plan are those of the fields that it is made from. -/
theorem selects_of_hasKey
    (generated : generate schema config = .ok interface)
    (member : shape ∈ schema.shapes config.depthLimit)
    {type root : String}
    (isType : interface.shapeTypeName shape = type)
    (made : plan.MadeFrom interface.schema shape fields)
    (hasKey : plan.HasKey interface.registry type start key)
    (reached : ∀ field ∈ fields, ∃ along below,
      interface.registry.Selects root selection along type below ∧ field ∈ below ∧
        TypeRegistry.argumentPath "" along = start) :
    interface.registry.SelectionKey root "" selection key := by
  induction hasKey generalizing shape fields with
  | here isRelation given =>
      obtain ⟨_, _, gives, _⟩ := made
      obtain ⟨field, isField, isNamed, sameArguments⟩ := gives _ isRelation
      obtain ⟨along, below, selects, isSelected, leads⟩ := reached field isField
      refine ⟨along, _, below, field, selects, isSelected, ?_⟩
      rw [TypeRegistry.argumentPath_snoc, leads, isNamed, sameArguments]
      exact given
  | @inside _ _ _ relation definition _ isRelation isDefined inner inductionHypothesis =>
      obtain ⟨_, known, gives, madeInner⟩ := made
      obtain ⟨found, leads, sameTarget, _⟩ := known relation isRelation
      have definedRelation := field?_relation generated member leads
      rw [isType, isDefined, Option.some.injEq] at definedRelation
      have childType : interface.shapeTypeName (shape.below relation.target) =
          definition.type.baseName := by
        rw [definedRelation, baseName_relationField, shapeTypeName,
          (represents_of_generate generated).config_eq, ← sameTarget]
        rfl
      have isShape : shape.below relation.target ∈ schema.shapes config.depthLimit := by
        rw [← sameTarget]
        exact follow_mem_shapes generated member leads
      refine inductionHypothesis isShape childType (madeInner relation isRelation) ?_
      intro field isField
      obtain ⟨parent, isParent, isNamed, isBelow⟩ := Selection.mem_fieldsBelow.1 isField
      obtain ⟨along, below, selects, isSelected, isStart⟩ := reached parent isParent
      rw [← isNamed] at isDefined
      refine ⟨along ++ [parent], _, selects.snoc isSelected isDefined, isBelow, ?_⟩
      rw [TypeRegistry.argumentPath_snoc, isStart, isNamed]

/-- The plan of a selection has exactly the keys of the selection. -/
theorem hasKey_iff_of_prune
    (generated : generate schema config = .ok interface)
    (member : shape ∈ schema.shapes config.depthLimit)
    (wellFormed : selection.IsWellFormed)
    (pruned : interface.prune shape path selection = .ok plan) :
    interface.registry.SelectionKey (interface.shapeTypeName shape) "" selection key ↔
      plan.HasKey interface.registry (interface.shapeTypeName shape) "" key := by
  simp only [prune, bind_eq_ok, pure_eq_ok] at pruned
  obtain ⟨types, _, inner, prunedInner, rfl⟩ := pruned
  have made := madeFrom_of_pruneFields (fun _ isField => isField) (madeFrom_empty _ _) prunedInner
  constructor
  · rintro ⟨along, reached, fields, field, selects, isSelected, given⟩
    exact hasKey_of_selects generated member rfl (wellFormed.relatesArguments interface.registry)
      (fun _ isField => isField) prunedInner (.withIdentity (.refl made) _) selects isSelected
      given
  · intro hasKey
    have madeWhole := SelectionPlan.madeFrom_withIdentity made types.identity
    refine selects_of_hasKey generated member rfl madeWhole hasKey fun field isField => ?_
    exact ⟨[], selection, .here, isField, rfl⟩

end Interface

end RelationalApi
