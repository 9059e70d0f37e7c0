import RelationalApi.Proofs.Interface.Generation

/-!
# What a registry finds

A definition that was registered is found under its name from then on: later ones under the same
name are either the same or refused.  The definitions and the places of names stay in step, so that
a registry holds the first accepted definition of each name, whatever else was offered to it.
-/

namespace RelationalApi

open Outcome

namespace TypeRegistry

variable {registry extended : TypeRegistry} {definition found : TypeDefinition} {name : String}

/-- What becomes of an offered definition, and of the registry. -/
inductive Receives (registry : TypeRegistry) (definition : TypeDefinition) :
    Except SchemaError TypeRef × TypeRegistry -> Prop
  | builtIn (isBuiltIn : definition.name ∈ builtInScalars) :
      Receives registry definition
        (.error (.nameCollision definition.name .builtInScalar), registry)
  | different
      {existing : TypeDefinition}
      (notBuiltIn : definition.name ∉ builtInScalars)
      (isTaken : registry.get? definition.name = some existing)
      (isOther : existing ≠ definition) :
      Receives registry definition
        (.error (.nameCollision definition.name (.otherDefinition existing.keyword)), registry)
  | known
      (notBuiltIn : definition.name ∉ builtInScalars)
      (isKnown : registry.get? definition.name = some definition) :
      Receives registry definition (.ok definition.reference, registry)
  | new
      (notBuiltIn : definition.name ∉ builtInScalars)
      (isFree : registry.get? definition.name = none) :
      Receives registry definition (.ok definition.reference, registry.add definition)

theorem receives_offer (registry : TypeRegistry) (definition : TypeDefinition) :
    registry.Receives definition (registry.offer definition) := by
  rw [offer]
  split
  · rename_i isBuiltIn
    exact .builtIn (List.contains_iff_mem.1 isBuiltIn)
  · rename_i notBuiltIn
    rw [List.contains_iff_mem] at notBuiltIn
    split
    · rename_i existing isTaken
      split
      · rename_i same
        exact .known notBuiltIn (same ▸ isTaken)
      · rename_i isOther
        exact .different notBuiltIn isTaken isOther
    · rename_i isFree
      exact .new notBuiltIn isFree

/-- An offer leaves the registry as it is, or adds a definition of a free name. -/
theorem offer_snd (registry : TypeRegistry) (definition : TypeDefinition) :
    (registry.offer definition).2 = registry ∨
      definition.name ∉ builtInScalars ∧ registry.get? definition.name = none ∧
        (registry.offer definition).2 = registry.add definition := by
  have received := receives_offer registry definition
  generalize registry.offer definition = answer at received
  cases received with
  | builtIn | different | known => exact .inl rfl
  | new notBuiltIn isFree => exact .inr ⟨notBuiltIn, isFree, rfl⟩

/-- A registration keeps the registry where the definition is known, and adds it where its name is
free. -/
theorem register_eq_ok :
    registry.register definition = .ok extended ↔
      definition.name ∉ builtInScalars ∧
        (registry.get? definition.name = some definition ∧ extended = registry ∨
          registry.get? definition.name = none ∧ extended = registry.add definition) := by
  rw [register]
  have received := receives_offer registry definition
  generalize registry.offer definition = answer at received
  cases received with
  | builtIn isBuiltIn => simp [isBuiltIn]
  | different notBuiltIn isTaken isOther => simp [isTaken, isOther]
  | known notBuiltIn isKnown => simp [notBuiltIn, isKnown, eq_comm]
  | new notBuiltIn isFree => simp [notBuiltIn, isFree, eq_comm]

theorem offer_of_register (registered : registry.register definition = .ok extended) :
    (registry.offer definition).2 = extended := by
  rw [register] at registered
  split at registered
  · rename_i answered
    cases registered
    rw [answered]
  · cases registered

theorem position?_add :
    (registry.add definition).position? name =
      if name = definition.name then some registry.definitions.length
      else registry.position? name := by
  rw [position?, add, List.lookup_cons]
  split <;> simp_all [position?]

theorem get?_add_self : (registry.add definition).get? definition.name = some definition := by
  rw [get?, position?_add, if_pos rfl, Option.bind_some, add]
  exact List.getElem?_concat_length

theorem get?_eq_some :
    registry.get? name = some found ↔
      ∃ position, registry.position? name = some position ∧
        registry.definitions[position]? = some found :=
  Option.bind_eq_some_iff

theorem mem_of_get? (isFound : registry.get? name = some found) :
    found ∈ registry.definitions := by
  obtain ⟨_, _, isThere⟩ := get?_eq_some.1 isFound
  exact List.mem_of_getElem? isThere

/-- A registry finds under each name what it found before an offer. -/
theorem get?_offer (before : registry.get? name = some found) :
    (registry.offer definition).2.get? name = some found := by
  rcases offer_snd registry definition with same | ⟨_, isFree, added⟩
  · rw [same, before]
  · have different : name ≠ definition.name := by
      rintro rfl
      rw [isFree] at before
      cases before
    obtain ⟨position, placed, isThere⟩ := get?_eq_some.1 before
    refine get?_eq_some.2 ⟨position, ?_, ?_⟩
    · rw [added, position?_add, if_neg different, placed]
    · rw [added, add, List.getElem?_append_left (List.getElem?_eq_some_iff.1 isThere).1, isThere]

theorem get?_of_register
    (registered : registry.register definition = .ok extended)
    (before : registry.get? name = some found) :
    extended.get? name = some found := by
  rw [← offer_of_register registered]
  exact get?_offer before

theorem get?_registered (registered : registry.register definition = .ok extended) :
    extended.get? definition.name = some definition := by
  obtain ⟨_, ⟨isKnown, rfl⟩ | ⟨_, rfl⟩⟩ := register_eq_ok.1 registered
  · exact isKnown
  · exact get?_add_self

theorem get?_eq_none_of_position? (noPlace : registry.position? name = none) :
    registry.get? name = none := by
  rw [get?, noPlace, Option.bind_none]

/-- The name of a built-in scalar that has no place in a registry never gets one. -/
theorem position?_eq_none_of_register
    (registered : registry.register definition = .ok extended)
    (isBuiltIn : builtInScalars.contains name = true)
    (before : registry.position? name = none) :
    extended.position? name = none := by
  obtain ⟨notBuiltIn, ⟨_, rfl⟩ | ⟨_, rfl⟩⟩ := register_eq_ok.1 registered
  · exact before
  · rw [position?_add, if_neg, before]
    rintro rfl
    exact notBuiltIn (List.contains_iff_mem.1 isBuiltIn)

/-! ## Places and definitions -/

/-- The places that a registry knows are those of its definitions. -/
def InStep (registry : TypeRegistry) : Prop :=
  ∀ name position, registry.position? name = some position ↔
    ∃ definition, registry.definitions[position]? = some definition ∧ definition.name = name

namespace InStep

theorem empty : TypeRegistry.empty.InStep := by
  intro name position
  simp [TypeRegistry.empty, position?]

theorem get?_eq_some (inStep : registry.InStep) :
    registry.get? name = some found ↔ found ∈ registry.definitions ∧ found.name = name := by
  rw [TypeRegistry.get?_eq_some, List.mem_iff_getElem?]
  constructor
  · rintro ⟨position, placed, isThere⟩
    obtain ⟨definition, isHere, named⟩ := (inStep name position).1 placed
    cases isThere.symm.trans isHere
    exact ⟨⟨position, isThere⟩, named⟩
  · rintro ⟨⟨position, isThere⟩, named⟩
    exact ⟨position, (inStep name position).2 ⟨found, isThere, named⟩, isThere⟩

theorem position?_eq_none (inStep : registry.InStep) :
    registry.position? name = none ↔ registry.get? name = none := by
  refine ⟨get?_eq_none_of_position?, fun notFound => ?_⟩
  rw [Option.eq_none_iff_forall_ne_some]
  intro position placed
  obtain ⟨definition, isThere, _⟩ := (inStep name position).1 placed
  rw [TypeRegistry.get?_eq_some.2 ⟨position, placed, isThere⟩] at notFound
  cases notFound

/-- No two places have the same name. -/
theorem names_nodup (inStep : registry.InStep) : (registry.definitions.map (·.name)).Nodup := by
  rw [List.Nodup, List.pairwise_map, List.pairwise_iff_getElem]
  intro first second firstInside secondInside before sameName
  have firstPlaced := (inStep _ first).2 ⟨_, List.getElem?_eq_getElem firstInside, rfl⟩
  have secondPlaced := (inStep _ second).2 ⟨_, List.getElem?_eq_getElem secondInside, rfl⟩
  rw [sameName, secondPlaced] at firstPlaced
  exact Nat.ne_of_gt before (Option.some.inj firstPlaced)

theorem add (inStep : registry.InStep) (isFree : registry.get? definition.name = none) :
    (registry.add definition).InStep := by
  intro name position
  have stands : ∀ found, (registry.definitions ++ [definition])[position]? = some found ↔
      registry.definitions[position]? = some found ∨
        position = registry.definitions.length ∧ definition = found := by
    intro found
    grind
  simp only [TypeRegistry.add, stands, or_and_right, exists_or, ← inStep name position]
  rw [← TypeRegistry.add, position?_add]
  split
  · rename_i same
    rw [same, inStep.position?_eq_none.2 isFree]
    simp [eq_comm]
  · rename_i different
    simp [Ne.symm different]

theorem offer (inStep : registry.InStep) : (registry.offer definition).2.InStep := by
  rcases offer_snd registry definition with same | ⟨_, isFree, added⟩
  · rwa [same]
  · rw [added]
    exact inStep.add isFree

theorem register
    (registered : registry.register definition = .ok extended)
    (inStep : registry.InStep) :
    extended.InStep := by
  rw [← offer_of_register registered]
  exact inStep.offer

theorem get?_add (inStep : registry.InStep) :
    (registry.add definition).get? name =
      if name = definition.name then some definition else registry.get? name := by
  split
  · rename_i same
    rw [same, get?_add_self]
  · rename_i different
    rw [get?, get?, position?_add, if_neg different]
    refine Option.bind_congr fun position placed => ?_
    obtain ⟨_, isThere, _⟩ := (inStep name position).1 placed
    rw [TypeRegistry.add, List.getElem?_append_left (List.getElem?_eq_some_iff.1 isThere).1]

end InStep

section Keeping

variable {keeps : TypeRegistry -> Prop}
variable (step : ∀ registry extended definition, registry.register definition = .ok extended ->
  keeps registry -> keeps extended)
include step

/-- What every registration keeps, registering definitions one after another keeps. -/
theorem keeps_registerAll
    {definitions : List TypeDefinition}
    (registered : registry.registerAll definitions = .ok extended)
    (before : keeps registry) :
    keeps extended := by
  induction definitions generalizing registry with
  | nil =>
      rw [registerAll] at registered
      cases registered
      exact before
  | cons first definitions inductionHypothesis =>
      rw [registerAll] at registered
      obtain ⟨next, registeredFirst, registeredOthers⟩ := bind_eq_ok.1 registered
      exact inductionHypothesis registeredOthers (step _ _ _ registeredFirst before)

theorem keeps_registerTables
    {tables : List Table}
    {types : List TableTypes}
    (registered : registry.registerTables tables = .ok (extended, types))
    (before : keeps registry) :
    keeps extended := by
  induction tables generalizing registry types with
  | nil =>
      rw [registerTables] at registered
      cases registered
      exact before
  | cons table tables inductionHypothesis =>
      simp only [registerTables, bind_eq_ok, pure_eq_ok, Prod.exists, Prod.mk.injEq] at registered
      obtain ⟨_, _, _, registeredTable, _, _, registeredOthers, rfl, _⟩ := registered
      exact inductionHypothesis registeredOthers (keeps_registerAll step registeredTable before)

end Keeping

theorem get?_of_registerAll
    {definitions : List TypeDefinition}
    (registered : registry.registerAll definitions = .ok extended)
    (before : registry.get? name = some found) :
    extended.get? name = some found :=
  keeps_registerAll (fun _ _ _ => get?_of_register) registered before

theorem get?_of_registerTables
    {tables : List Table}
    {types : List TableTypes}
    (registered : registry.registerTables tables = .ok (extended, types))
    (before : registry.get? name = some found) :
    extended.get? name = some found :=
  keeps_registerTables (fun _ _ _ => get?_of_register) registered before

/-- All registered definitions are found under their names. -/
theorem get?_registeredAll
    {definitions : List TypeDefinition}
    (registered : registry.registerAll definitions = .ok extended) :
    ∀ definition ∈ definitions, extended.get? definition.name = some definition := by
  induction definitions generalizing registry with
  | nil => simp
  | cons first definitions inductionHypothesis =>
      rw [registerAll] at registered
      obtain ⟨next, registeredFirst, registeredOthers⟩ := bind_eq_ok.1 registered
      exact List.forall_mem_cons.2
        ⟨get?_of_registerAll registeredOthers (get?_registered registeredFirst),
          inductionHypothesis registeredOthers⟩

/-- All definitions of registered tables are found under their names. -/
theorem get?_registeredTables
    {tables : List Table}
    {types : List TableTypes}
    (registered : registry.registerTables tables = .ok (extended, types)) :
    ∀ table ∈ types, ∀ definition ∈ tableDefinitions table.table table.columns,
      extended.get? definition.name = some definition := by
  induction tables generalizing registry types with
  | nil =>
      rw [registerTables] at registered
      cases registered
      simp
  | cons table tables inductionHypothesis =>
      simp only [registerTables, bind_eq_ok, pure_eq_ok, Prod.exists, Prod.mk.injEq] at registered
      obtain ⟨first, mapped, _, registeredTable, _, _, registeredOthers, rfl, rfl⟩ := registered
      refine List.forall_mem_cons.2 ⟨fun definition member => ?_,
        inductionHypothesis registeredOthers⟩
      rw [(TableTypes.ofTable_eq_ok mapped).1] at member
      exact get?_of_registerTables registeredOthers
        (get?_registeredAll registeredTable definition member)

/-- An offer adds its definition at most. -/
theorem mem_of_offer (member : found ∈ (registry.offer definition).2.definitions) :
    found ∈ registry.definitions ∨ found = definition := by
  rcases offer_snd registry definition with same | ⟨_, _, added⟩
  · exact .inl (same ▸ member)
  · rwa [added, add, List.mem_append, List.mem_singleton] at member

theorem mem_of_register
    (registered : registry.register definition = .ok extended)
    (member : found ∈ extended.definitions) :
    found ∈ registry.definitions ∨ found = definition := by
  rw [← offer_of_register registered] at member
  exact mem_of_offer member

theorem mem_of_registerAll
    {definitions : List TypeDefinition}
    (registered : registry.registerAll definitions = .ok extended)
    (member : found ∈ extended.definitions) :
    found ∈ registry.definitions ∨ found ∈ definitions := by
  induction definitions generalizing registry with
  | nil =>
      rw [registerAll] at registered
      cases registered
      exact .inl member
  | cons first definitions inductionHypothesis =>
      rw [registerAll] at registered
      obtain ⟨next, registeredFirst, registeredOthers⟩ := bind_eq_ok.1 registered
      rcases inductionHypothesis registeredOthers with before | later
      · rw [List.mem_cons]
        exact (mem_of_register registeredFirst before).imp_right .inl
      · exact .inr (List.mem_cons_of_mem _ later)

theorem mem_of_registerTables
    {tables : List Table}
    {types : List TableTypes}
    (registered : registry.registerTables tables = .ok (extended, types))
    (member : found ∈ extended.definitions) :
    found ∈ registry.definitions ∨
      ∃ table ∈ types, found ∈ tableDefinitions table.table table.columns := by
  induction tables generalizing registry types with
  | nil =>
      rw [registerTables] at registered
      cases registered
      exact .inl member
  | cons table tables inductionHypothesis =>
      simp only [registerTables, bind_eq_ok, pure_eq_ok, Prod.exists, Prod.mk.injEq] at registered
      obtain ⟨first, mapped, _, registeredTable, _, _, registeredOthers, rfl, rfl⟩ := registered
      rcases inductionHypothesis registeredOthers with before | ⟨types, typesMember, later⟩
      · refine (mem_of_registerAll registeredTable before).imp_right fun isDefinition => ?_
        rw [← (TableTypes.ofTable_eq_ok mapped).1] at isDefinition
        exact ⟨first, List.mem_cons_self, isDefinition⟩
      · exact .inr ⟨types, List.mem_cons_of_mem _ typesMember, later⟩

/-! ## Definitions offered one after another -/

/-- A registry takes a definition, for the first time or again. -/
def Accepts (registry : TypeRegistry) (definition : TypeDefinition) : Prop :=
  ∃ reference, (registry.offer definition).1 = .ok reference

instance (registry : TypeRegistry) (definition : TypeDefinition) :
    Decidable (registry.Accepts definition) :=
  match answered : (registry.offer definition).1 with
  | .ok reference => isTrue ⟨reference, answered⟩
  | .error _ => isFalse fun ⟨_, accepted⟩ => nomatch answered.symm.trans accepted

/-- The registry after definitions were offered in order, whatever became of them. -/
def afterOffers (registry : TypeRegistry) (offered : List TypeDefinition) : TypeRegistry :=
  offered.foldl (fun registry definition => (registry.offer definition).2) registry

/-- Those of the offered definitions that were accepted. -/
def accepted (registry : TypeRegistry) : List TypeDefinition -> List TypeDefinition
  | [] => []
  | definition :: offered =>
      let others := (registry.offer definition).2.accepted offered
      if registry.Accepts definition then definition :: others else others

/-- The first definition of each name. -/
def firstOfEachName : List TypeDefinition -> List TypeDefinition
  | [] => []
  | definition :: definitions =>
      definition :: (firstOfEachName definitions).filter (·.name ≠ definition.name)

/-- What holds of a registry to which definitions were offered, and of further offers to it. -/
structure Records (registry : TypeRegistry) (offered : List TypeDefinition) : Prop where
  names_nodup : (registry.definitions.map (·.name)).Nodup
  notBuiltIn : ∀ definition ∈ registry.definitions, definition.name ∉ builtInScalars
  definitions_eq : registry.definitions = firstOfEachName (empty.accepted offered)
  get?_eq_some : ∀ name definition, registry.get? name = some definition ↔
    definition ∈ empty.accepted offered ∧ definition.name = name
  contains_iff : ∀ name, registry.contains name = true ↔
    ∃ definition ∈ empty.accepted offered, definition.name = name
  position?_eq_some : ∀ name position, registry.position? name = some position ↔
    ∃ isInside : position < registry.definitions.length,
      registry.definitions[position].name = name
  accepts_iff : ∀ definition, registry.Accepts definition ↔
    definition.name ∉ builtInScalars ∧
      (registry.get? definition.name = none ∨ registry.get? definition.name = some definition)
  reference_eq : ∀ definition reference, (registry.offer definition).1 = .ok reference ->
    reference = .named definition.name
  refused_unchanged : ∀ definition, ¬registry.Accepts definition ->
    (registry.offer definition).2 = registry
  repeated_unchanged : ∀ definition ∈ empty.accepted offered,
    registry.offer definition = (.ok definition.reference, registry)

theorem accepts_iff :
    registry.Accepts definition ↔
      definition.name ∉ builtInScalars ∧
        (registry.get? definition.name = none ∨
          registry.get? definition.name = some definition) := by
  rw [Accepts]
  have received := receives_offer registry definition
  generalize registry.offer definition = answer at received
  cases received with
  | builtIn isBuiltIn => simp [isBuiltIn]
  | different notBuiltIn isTaken isOther => simp [isTaken, isOther]
  | known notBuiltIn isKnown => simp [notBuiltIn, isKnown]
  | new notBuiltIn isFree => simp [notBuiltIn, isFree]

theorem offer_of_refused (refused : ¬registry.Accepts definition) :
    (registry.offer definition).2 = registry := by
  rw [Accepts] at refused
  have received := receives_offer registry definition
  generalize registry.offer definition = answer at received refused
  cases received with
  | builtIn | different => rfl
  | known | new => exact absurd ⟨_, rfl⟩ refused

/-- An accepted definition is either known, or new and put behind the others. -/
theorem offer_of_accepts (accepts : registry.Accepts definition) :
    registry.get? definition.name = some definition ∧
        registry.offer definition = (.ok definition.reference, registry) ∨
      registry.get? definition.name = none ∧
        registry.offer definition = (.ok definition.reference, registry.add definition) := by
  rw [Accepts] at accepts
  have received := receives_offer registry definition
  generalize registry.offer definition = answer at received accepts
  cases received with
  | builtIn | different =>
      obtain ⟨_, impossible⟩ := accepts
      cases impossible
  | known notBuiltIn isKnown => exact .inl ⟨isKnown, rfl⟩
  | new notBuiltIn isFree => exact .inr ⟨isFree, rfl⟩

theorem reference_eq
    {reference : TypeRef}
    (answered : (registry.offer definition).1 = .ok reference) :
    reference = .named definition.name := by
  rcases offer_of_accepts ⟨reference, answered⟩ with ⟨_, taken⟩ | ⟨_, taken⟩
  all_goals
    rw [taken] at answered
    cases answered
    rfl

theorem offer_of_known
    (notBuiltIn : definition.name ∉ builtInScalars)
    (isKnown : registry.get? definition.name = some definition) :
    registry.offer definition = (.ok definition.reference, registry) := by
  rcases offer_of_accepts (accepts_iff.2 ⟨notBuiltIn, .inr isKnown⟩) with
    ⟨_, same⟩ | ⟨isFree, _⟩
  · exact same
  · rw [isKnown] at isFree
    cases isFree

/-- A registry that is in step and leaves the built-in scalars alone. -/
structure IsSound (registry : TypeRegistry) : Prop where
  inStep : registry.InStep
  notBuiltIn : ∀ definition ∈ registry.definitions, definition.name ∉ builtInScalars

theorem IsSound.empty : TypeRegistry.empty.IsSound :=
  ⟨.empty, List.forall_mem_nil _⟩

theorem IsSound.offer (sound : registry.IsSound) : (registry.offer definition).2.IsSound := by
  refine ⟨sound.inStep.offer, ?_⟩
  rcases offer_snd registry definition with same | ⟨notBuiltIn, _, added⟩
  · rw [same]
    exact sound.notBuiltIn
  · rw [added, add, List.forall_mem_append, List.forall_mem_singleton]
    exact ⟨sound.notBuiltIn, notBuiltIn⟩

theorem IsSound.afterOffers (sound : registry.IsSound) (offered : List TypeDefinition) :
    (registry.afterOffers offered).IsSound := by
  induction offered generalizing registry with
  | nil => exact sound
  | cons definition offered inductionHypothesis => exact inductionHypothesis sound.offer

/-- A run of offers adds the first definition of each name that was free. -/
theorem definitions_afterOffers (inStep : registry.InStep) (offered : List TypeDefinition) :
    (registry.afterOffers offered).definitions =
      registry.definitions ++ (firstOfEachName (registry.accepted offered)).filter
        fun definition => (registry.get? definition.name).isNone := by
  induction offered generalizing registry with
  | nil => simp [afterOffers, accepted, firstOfEachName]
  | cons definition offered inductionHypothesis =>
      rw [afterOffers, List.foldl_cons, ← afterOffers, inductionHypothesis inStep.offer, accepted]
      by_cases accepts : registry.Accepts definition
      · simp only [if_pos accepts, firstOfEachName]
        rcases offer_of_accepts accepts with ⟨isKnown, answered⟩ | ⟨isFree, answered⟩
        · -- A name that is taken stays out, so that the later ones of this name stay out as well.
          rw [answered, List.filter_cons_of_neg (by simp [isKnown]), List.filter_filter]
          refine congrArg _ (List.filter_congr fun other _ => ?_)
          by_cases same : other.name = definition.name <;> simp [same, isKnown]
        · rw [answered, List.filter_cons_of_pos (by simp [isFree]), List.filter_filter, add,
            List.append_assoc, List.singleton_append, ← add]
          refine congrArg _ (congrArg _ (List.filter_congr fun other _ => ?_))
          by_cases same : other.name = definition.name <;> simp [inStep.get?_add, same]
      · simp only [if_neg accepts, offer_of_refused accepts]

theorem mem_of_mem_firstOfEachName
    {definitions : List TypeDefinition}
    (member : found ∈ firstOfEachName definitions) :
    found ∈ definitions := by
  induction definitions with
  | nil => exact member
  | cons definition definitions inductionHypothesis =>
      rcases List.mem_cons.1 member with rfl | later
      · exact List.mem_cons_self
      · exact List.mem_cons_of_mem _ (inductionHypothesis (List.mem_of_mem_filter later))

theorem mem_of_afterOffers
    {offered : List TypeDefinition}
    (member : found ∈ (registry.afterOffers offered).definitions) :
    found ∈ registry.definitions ∨ found ∈ offered := by
  induction offered generalizing registry with
  | nil => exact .inl member
  | cons definition offered inductionHypothesis =>
      rw [List.mem_cons]
      rcases inductionHypothesis member with before | later
      · exact (mem_of_offer before).imp_right .inl
      · exact .inr (.inr later)

theorem get?_afterOffers
    (before : registry.get? name = some found)
    (offered : List TypeDefinition) :
    (registry.afterOffers offered).get? name = some found := by
  induction offered generalizing registry with
  | nil => exact before
  | cons definition offered inductionHypothesis =>
      exact inductionHypothesis (get?_offer before)

/-- What was accepted is found at the end of the run. -/
theorem get?_of_accepted
    {offered : List TypeDefinition}
    (member : found ∈ registry.accepted offered) :
    (registry.afterOffers offered).get? found.name = some found := by
  induction offered generalizing registry with
  | nil => cases member
  | cons definition offered inductionHypothesis =>
      rw [accepted] at member
      split at member
      · rename_i accepts
        rcases List.mem_cons.1 member with rfl | later
        · have isFound : (registry.offer found).2.get? found.name = some found := by
            rcases offer_of_accepts accepts with ⟨isKnown, answered⟩ | ⟨_, answered⟩
            · rw [answered, isKnown]
            · rw [answered, get?_add_self]
          exact get?_afterOffers isFound offered
        · exact inductionHypothesis later
      · exact inductionHypothesis member

/-- A registry holds the first accepted definition of each name in the order of registration, and
its places are in step with them, whatever was offered to it.  It takes what has a new name or is
known, and nothing but a new name changes it. -/
theorem records_afterOffers (offered : List TypeDefinition) :
    (empty.afterOffers offered).Records offered := by
  obtain ⟨inStep, notBuiltIn⟩ := IsSound.empty.afterOffers offered
  have definitions_eq : (empty.afterOffers offered).definitions =
      firstOfEachName (empty.accepted offered) := by
    rw [definitions_afterOffers .empty]
    exact List.filter_eq_self.2 fun _ _ => rfl
  have get?_eq_some (name : String) (definition : TypeDefinition) :
      (empty.afterOffers offered).get? name = some definition ↔
        definition ∈ empty.accepted offered ∧ definition.name = name := by
    constructor
    · intro isFound
      obtain ⟨member, named⟩ := inStep.get?_eq_some.1 isFound
      rw [definitions_eq] at member
      exact ⟨mem_of_mem_firstOfEachName member, named⟩
    · rintro ⟨member, rfl⟩
      exact get?_of_accepted member
  constructor
  · exact inStep.names_nodup
  · exact notBuiltIn
  · exact definitions_eq
  · exact get?_eq_some
  · intro name
    rw [contains, Option.isSome_iff_ne_none, ne_eq, inStep.position?_eq_none, ← ne_eq,
      Option.ne_none_iff_exists']
    simp only [get?_eq_some]
  · intro name position
    rw [inStep name position]
    simp [List.getElem?_eq_some_iff]
  · exact fun _ => accepts_iff
  · exact fun _ _ => reference_eq
  · exact fun _ => offer_of_refused
  · intro definition member
    have isKnown := get?_of_accepted member
    refine offer_of_known ?_ isKnown
    exact notBuiltIn definition (mem_of_get? isKnown)

end TypeRegistry
end RelationalApi
