import RelationalApi.Proofs.Arguments.Rearrangement
import RelationalApi.Proofs.Interface.CheckedKeys
import RelationalApi.Proofs.Interface.InputTypes

/-!
# Declared keys of filters and orders

Filters and orders are compiled by lists of names of their own.  Still they agree with the
registered input types: a filter or an order checks the keys that it has as a document of its type.
-/

namespace RelationalApi

open Outcome

open TypeRegistry

theorem readItems_knowsFields
    {read : Json -> String -> Except ArgumentError Value}
    (knows : ∀ item path, KnowsFields (read item path))
    (path : String)
    (index : Nat)
    (items : List Json) :
    KnowsFields (readItems read path index items) := by
  induction items generalizing index with
  | nil => exact .ok _
  | cons item items inductionHypothesis =>
      rw [readItems]
      exact (knows item _).bind fun _ => (inductionHypothesis (index + 1)).bind fun _ => .ok _

/-- Values are read without any regard to names. -/
theorem Codec.read_knowsFields
    (codec : Codec)
    (document : Json)
    (path : String) :
    KnowsFields (codec.read document path) := by
  induction codec generalizing document path with
  | list element inductionHypothesis =>
      rw [Codec.read.eq_def]
      dsimp only
      split
      · exact (readItems_knowsFields inductionHypothesis path 0 _).bind fun _ => .ok _
      · exact .refused (by simp)
  | integer bits unsigned =>
      intro place name reported
      rw [Codec.read] at reported
      unfold readInteger at reported
      dsimp only at reported
      split at reported
      · split at reported <;> cases reported
      · split at reported
        · split at reported
          · split at reported <;> cases reported
          · cases reported
        · cases reported
  | text length =>
      rw [Codec.read, readText.eq_def]
      intro place name reported
      split at reported
      · split at reported
        · split at reported <;> cases reported
        · cases reported
      · cases reported
  | _ =>
      rw [Codec.read.eq_def]
      dsimp only
      split <;> simp [KnowsFields]

section Filters

variable {registry : TypeRegistry} {types : TableTypes} {column : ColumnCodec}
variable {type : TypeRef} {fields : List InputField} {path : String}

/-- The keys of entries are checked one entry after another. -/
theorem gatherConditions_checksKeys
    {compile : String -> Json -> Except ArgumentError (List Filter)}
    {keys : String × Json -> InputKey -> Prop}
    {entries : JsonEntries}
    (each : ∀ entry ∈ entries, ChecksKeys (keys entry) (compile entry.1 entry.2)) :
    ChecksKeys (fun key => ∃ entry ∈ entries, keys entry key)
      (gatherConditions compile entries) := by
  induction entries with
  | nil => exact .of_none (by simp) (.ok _)
  | cons entry entries inductionHypothesis =>
      rw [List.forall_mem_cons] at each
      rw [gatherConditions]
      refine each.1.bind (fun _ _ => (inductionHypothesis each.2).andThen fun _ => .ok _) ?_
      exact fun key => List.exists_mem_cons_iff ..

theorem isSome_comparisonOfName? (name : String) :
    (comparisonOfName? name).isSome = true ↔ name ∈ comparisonOperators := by
  simp only [comparisonOfName?, comparisonOperators, List.mem_cons, List.not_mem_nil, or_false]
  split_ifs <;> simp_all

theorem isSome_patternOfName? (name : String) :
    (patternOfName? name).isSome = true ↔ name ∈ patternOperators := by
  simp only [patternOfName?, patternOperators, List.mem_cons, List.not_mem_nil, or_false]
  split_ifs <;> simp_all

theorem isSome_membershipOfName? (name : String) :
    (membershipOfName? name).isSome = true ↔ name = "inArray" ∨ name = "notInArray" := by
  rw [membershipOfName?]
  split_ifs <;> simp_all

theorem isSome_nullnessOfName? (name : String) :
    (nullnessOfName? name).isSome = true ↔ name = "isNull" ∨ name = "isNotNull" := by
  rw [nullnessOfName?]
  split_ifs <;> simp_all

/-- The operators that the types of a column declare are those that are compiled for it. -/
theorem mem_operatorFields (column : ColumnCodec) (name : String) :
    name ∈ (operatorFields column).map (·.name) ↔
      name ∈ comparisonOperators ∨ (column.isText = true ∧ name ∈ patternOperators) ∨
        (name = "inArray" ∨ name = "notInArray") ∨ name = "isNull" ∨ name = "isNotNull" := by
  rw [operatorFields]
  cases column.isText <;> simp [List.map_map, Function.comp_def, or_assoc]

/-- An operator that is declared is not reported. -/
theorem compileOperator_knowsFields
    {name : String}
    (isDeclared : name ∈ (operatorFields column).map (·.name))
    (operand : Json) :
    KnowsFields (compileOperator column path name operand) := by
  rw [mem_operatorFields, ← isSome_comparisonOfName?, ← isSome_patternOfName?,
    ← isSome_membershipOfName?, ← isSome_nullnessOfName?] at isDeclared
  unfold compileOperator
  dsimp only
  split
  · rw [compileNullness.eq_def]
    split <;> simp [KnowsFields]
  · rename_i notNullness
    split
    · rw [compileMembership.eq_def]
      split
      · exact (readItems_knowsFields column.codec.read_knowsFields _ _ _).bind fun _ => .ok _
      · exact .refused (by simp)
    · rename_i notMembership
      split
      · rw [compilePattern.eq_def]
        split <;> simp [KnowsFields]
      · rename_i notPattern
        split
        · rw [compileComparison]
          split
          · exact .refused (by simp)
          · exact (column.codec.read_knowsFields _ _).bind fun _ => .ok _
        · rename_i notComparison
          rw [notNullness, notMembership, notComparison] at isDeclared
          obtain ⟨isText, isPattern⟩ :
              column.isText = true ∧ (patternOfName? name).isSome = true := by
            simpa using isDeclared
          obtain ⟨test, isTest⟩ := Option.isSome_iff_exists.1 isPattern
          exact absurd isText (notPattern test isTest)

theorem compileOperator_eq_unknownField
    {name : String}
    (undeclared : name ∉ (operatorFields column).map (·.name))
    (operand : Json) :
    compileOperator column path name operand = .error (.unknownField path name) := by
  rw [mem_operatorFields, ← isSome_comparisonOfName?, ← isSome_patternOfName?,
    ← isSome_membershipOfName?, ← isSome_nullnessOfName?] at undeclared
  simp only [not_or, not_and, Bool.not_eq_true, Option.isSome_eq_false_iff,
    Option.isNone_iff_eq_none] at undeclared
  obtain ⟨notComparison, notPattern, notMembership, notNullness⟩ := undeclared
  rw [compileOperator, notNullness, notMembership, notComparison]
  cases isText : column.isText with
  | true => rw [notPattern isText]
  | false => cases patternOfName? name <;> rfl

/-- An operator is checked among fields that name the operators of its column. -/
theorem compileOperator_checksKeys
    {name : String}
    (leaf : ∀ field ∈ fields, field.name = name -> registry.namesOf? field.type.baseName = none)
    (sameNames : name ∈ fields.map (·.name) ↔ name ∈ (operatorFields column).map (·.name))
    (path : String)
    (operand : Json) :
    ChecksKeys (registry.EntryKey fields path (joinPath path name) (name, operand))
      (compileOperator column path name operand) := by
  refine checksKeys_name leaf (fun isDeclared => ?_) fun undeclared => ?_
  · exact compileOperator_knowsFields (sameNames.1 isDeclared) operand
  · exact compileOperator_eq_unknownField (fun isOperator => undeclared (sameNames.2 isOperator))
      operand

/-- An object of operators checks its keys where each operator checks those of its entry. -/
theorem compileOperatorObject_checksKeys
    (type : TypeRef)
    {compile : String -> Json -> Except ArgumentError (Option Filter)}
    (isInput : registry.namesOf? type.baseName = some fields)
    (notList : type.element? = none)
    (each : ∀ name operand, ChecksKeys
      (registry.EntryKey fields path (joinPath path name) (name, operand)) (compile name operand))
    (document : Json) :
    ChecksKeys (registry.KeyWithin type path document)
      (compileOperatorObject compile path document) := by
  cases document with
  | object entries =>
      rw [compileOperatorObject, compileOperators_eq_gather]
      have checks := @gatherConditions_checksKeys
        (fun name operand => (compile name operand).map Option.toList)
        (fun entry => registry.EntryKey fields path (joinPath path entry.1) entry) entries
        fun entry _ => (each entry.1 entry.2).andThen fun _ => .ok _
      refine (checks.andThen fun _ => .ok _).congr fun key => ?_
      rw [keyWithin_object, isInput]
      simp only [Option.some.injEq, exists_eq_left']
  | null => exact .of_none (not_keyWithin_of_kind (by simp) (by simp)) (.ok _)
  | array items =>
      exact .of_none (not_keyWithin_of_kind (by simp) fun _ _ => notList)
        (.refused (by simp))
  | _ =>
      exact .of_none (not_keyWithin_of_kind (by simp) (by simp))
        (.refused (by simp))

/-- The values of operators have no keys. -/
theorem namesOf?_operator
    (declares : registry.DeclaresInputs types)
    (isColumn : column ∈ types.columns) :
    ∀ field ∈ operatorFields column, registry.namesOf? field.type.baseName = none := by
  intro field isField
  have isValue := declares.values column isColumn
  have isString := declares.builtIn "String" (by decide)
  have isBoolean := declares.builtIn "Boolean" (by decide)
  simp only [operatorFields, List.mem_append, List.mem_map, List.mem_cons, List.not_mem_nil,
    or_false] at isField
  rcases isField with (⟨_, _, rfl⟩ | isPattern) | rfl | rfl | rfl | rfl
  · exact isValue
  · split at isPattern
    · obtain ⟨_, _, rfl⟩ := List.mem_map.1 isPattern
      exact isString
    · cases isPattern
  · rw [TypeRef.baseName, TypeRef.baseName_required]
    exact isValue
  · rw [TypeRef.baseName, TypeRef.baseName_required]
    exact isValue
  · exact isBoolean
  · exact isBoolean

/-- The alternatives of a column check their keys from any position on. -/
theorem compileAlternatives_checksKeys
    (declares : registry.DeclaresInputs types)
    (isColumn : column ∈ types.columns)
    (path : String)
    (index : Nat)
    (items : List Json) :
    ChecksKeys (ItemKey registry
        (.nonNull (.named (columnAlternativesName types.name column.column))) path index items)
      (compileAlternatives column path index items) := by
  induction items generalizing index with
  | nil =>
      rw [compileAlternatives]
      exact .of_none (by simp [ItemKey]) (.ok _)
  | cons item items inductionHypothesis =>
      have leaf := namesOf?_operator declares isColumn
      have first := compileOperatorObject_checksKeys
        (.nonNull (.named (columnAlternativesName types.name column.column)))
        (declares.alternatives column isColumn) rfl (fun name =>
          compileOperator_checksKeys (fun field isField _ => leaf field isField) Iff.rfl
            (itemPath path index)) item
      rw [compileAlternatives]
      refine first.bind (fun _ _ => ?_) fun _ => itemKey_cons
      exact (inductionHypothesis (index + 1)).andThen fun _ => .ok _

theorem compileColumnOr_checksKeys
    (declares : registry.DeclaresInputs types)
    (isColumn : column ∈ types.columns)
    (path : String)
    (document : Json) :
    ChecksKeys (registry.KeyWithin
        (.list (.nonNull (.named (columnAlternativesName types.name column.column)))) path document)
      (compileColumnOr column path document) := by
  cases document with
  | array items =>
      rw [compileColumnOr]
      refine ChecksKeys.array rfl ?_
      exact (compileAlternatives_checksKeys declares isColumn path 0 items).andThen fun _ => .ok _
  | null => exact .of_none (not_keyWithin_of_kind (by simp) (by simp)) (.ok _)
  | _ => exact .of_refused (by simp)

/-- The conditions on a column check the keys that they have as a document of its filter type. -/
theorem compileColumn_checksKeys
    (declares : registry.DeclaresInputs types)
    (isColumn : column ∈ types.columns)
    (path : String)
    (document : Json) :
    ChecksKeys (registry.KeyWithin (.named (columnFiltersName types.name column.column)) path
        document)
      (compileColumn column path document) := by
  have notOperator : "OR" ∉ (operatorFields column).map (·.name) := by
    rw [mem_operatorFields]
    simp [comparisonOperators, patternOperators]
  refine compileOperatorObject_checksKeys (.named (columnFiltersName types.name column.column))
    (declares.columnFilters column isColumn) rfl (fun name operand => ?_) document
  split
  · rename_i isOr
    subst isOr
    refine checksKeys_entry ⟨_, List.mem_append_right _ (List.mem_singleton_self _), rfl, rfl⟩
      (fun field isField isNamed => ?_) (compileColumnOr_checksKeys declares isColumn _ operand)
    rcases List.mem_append.1 isField with isOperator | isOr
    · exact absurd (isNamed ▸ List.mem_map_of_mem isOperator) notOperator
    · exact .inl (by rw [List.mem_singleton.1 isOr])
  · rename_i notOr
    refine compileOperator_checksKeys (fun field isField isNamed => ?_) ?_ path operand
    · rcases List.mem_append.1 isField with isOperator | isOr
      · exact namesOf?_operator declares isColumn field isOperator
      · rw [List.mem_singleton.1 isOr] at isNamed
        exact absurd isNamed.symm notOr
    · rw [columnFilterFields, List.map_append, List.mem_append]
      exact or_iff_left (by simpa using notOr)

theorem ofKey?_eq_none {key : String} :
    Combinator.ofKey? key = none ↔ key ∉ ["AND", "OR", "NOT"] := by
  rw [Combinator.ofKey?]
  split_ifs <;> simp_all

theorem combine_knowsFields
    (combinator : Combinator)
    (path : String)
    (branches : List (Option Filter)) :
    KnowsFields (combinator.combine path branches) := by
  cases combinator with
  | and => exact .ok _
  | or => exact .ok _
  | not =>
      rw [Combinator.combine]
      split <;> simp [KnowsFields]

/-- An entry for a column is checked as conditions on the column, and an entry for nothing is
reported. -/
theorem compileColumnEntry_checksKeys
    (declares : registry.DeclaresInputs types)
    {key : String}
    (notCombinator : Combinator.ofKey? key = none)
    (path : String)
    (document : Json) :
    ChecksKeys (registry.EntryKey (filterFields types.name types.columns) path (joinPath path key)
        (key, document))
      (compileColumnEntry types.columns path key document) := by
  rw [ofKey?_eq_none] at notCombinator
  have ofColumn : ∀ field ∈ filterFields types.name types.columns, field.name = key ->
      ∃ column ∈ types.columns, column.column = key ∧
        field.type = .named (columnFiltersName types.name key) := by
    intro field isField isNamed
    rcases List.mem_append.1 isField with ofColumn | ofCombinator
    · obtain ⟨column, isColumn, rfl⟩ := List.mem_map.1 ofColumn
      exact ⟨column, isColumn, isNamed, by rw [← isNamed]⟩
    · obtain ⟨name, isCombinator, rfl⟩ := List.mem_map.1 ofCombinator
      exact absurd (isNamed ▸ isCombinator) notCombinator
  rw [compileColumnEntry]
  split
  · rename_i column found
    have isColumn := List.mem_of_find?_eq_some found
    have isNamed : column.column = key := by simpa using List.find?_some found
    subst isNamed
    refine checksKeys_entry ⟨_, List.mem_append_left _ (List.mem_map_of_mem isColumn), rfl, rfl⟩
      (fun field isField isNamed => ?_) ?_
    · obtain ⟨_, _, _, hasType⟩ := ofColumn field isField isNamed
      exact .inl hasType
    · exact (compileColumn_checksKeys declares isColumn _ document).andThen fun _ => .ok _
  · rename_i absent
    rw [List.find?_eq_none] at absent
    have undeclared : key ∉ (filterFields types.name types.columns).map (·.name) := by
      intro isDeclared
      obtain ⟨field, isField, isNamed⟩ := List.mem_map.1 isDeclared
      obtain ⟨column, isColumn, sameName, _⟩ := ofColumn field isField isNamed
      exact absent column isColumn (beq_iff_eq.2 sameName)
    refine checksKeys_name (fun field isField isNamed => ?_) (fun isDeclared => ?_) fun _ => rfl
    · exact absurd (List.mem_map.2 ⟨field, isField, isNamed⟩) undeclared
    · exact absurd isDeclared undeclared

/-- An entry for a combinator is checked as the list of the combinator.  It is never read as
conditions on a column of the same name, as those are no list. -/
theorem checksKeys_combinator
    {α : Type}
    {outcome : Except ArgumentError α}
    {name place : String}
    {document : Json}
    (isCombinator : name ∈ ["AND", "OR", "NOT"])
    (notObject : ∀ entries, document ≠ .object entries)
    (checks : ChecksKeys (registry.KeyWithin
      (.list (.nonNull (.named (filtersName types.name)))) path document) outcome) :
    ChecksKeys (registry.EntryKey (filterFields types.name types.columns) place path
      (name, document)) outcome := by
  refine checksKeys_entry ⟨_, List.mem_append_right _ (List.mem_map_of_mem isCombinator), rfl, rfl⟩
    (fun field isField _ => ?_) checks
  rcases List.mem_append.1 isField with ofColumn | ofCombinator
  · obtain ⟨column, _, rfl⟩ := List.mem_map.1 ofColumn
    exact .inr (not_keyWithin_of_kind notObject fun _ _ => rfl)
  · obtain ⟨_, _, rfl⟩ := List.mem_map.1 ofCombinator
    exact .inl rfl

-- The recursion follows the document, as compiling does.
mutual

/-- A `where` argument checks the keys that it has as a document of the filter type. -/
theorem compileWhere_checksKeys (declares : registry.DeclaresInputs types) :
    (document : Json) -> ∀ (type : TypeRef) (path : String),
      type.baseName = filtersName types.name -> type.element? = none ->
        ChecksKeys (registry.KeyWithin type path document)
          (compileWhere types.columns path document)
  | .null, type, path, _, _ => by
      rw [compileWhere]
      exact .of_none (not_keyWithin_of_kind (by simp) (by simp)) (.ok _)
  | .object entries, type, path, isFilter, _ => by
      rw [compileWhere]
      refine ((compileEntries_checksKeys declares entries path).andThen fun _ => .ok _).congr
        fun key => ?_
      rw [keyWithin_object, isFilter, declares.filters]
      simp only [Option.some.injEq, exists_eq_left']
  | .array items, type, path, _, notList => by
      rw [compileWhere]
      · exact .of_refused (by simp)
      · simp
      · simp
  | .bool _, type, path, _, _ | .number _, type, path, _, _ | .string _, type, path, _, _ => by
      rw [compileWhere]
      · exact .of_refused (by simp)
      · simp
      · simp

theorem compileEntries_checksKeys (declares : registry.DeclaresInputs types) :
    (entries : List (String × Json)) -> ∀ path : String,
      ChecksKeys (fun key => ∃ entry ∈ entries, registry.EntryKey
          (filterFields types.name types.columns) path (joinPath path entry.1) entry key)
        (compileEntries types.columns path entries)
  | [], path => by
      rw [compileEntries]
      exact .of_none (by simp) (.ok _)
  | (name, document) :: entries, path => by
      rw [compileEntries]
      refine (compileEntry_checksKeys declares document name path).bind (fun _ _ =>
        (compileEntries_checksKeys declares entries path).andThen fun _ => .ok _) fun key => ?_
      exact List.exists_mem_cons_iff ..

theorem compileEntry_checksKeys (declares : registry.DeclaresInputs types) :
    (document : Json) -> ∀ name path : String,
      ChecksKeys (registry.EntryKey (filterFields types.name types.columns) path
          (joinPath path name) (name, document))
        (compileEntry types.columns path name document)
  | document, name, path => by
      cases ofKey : Combinator.ofKey? name with
      | none =>
          have checks := compileColumnEntry_checksKeys declares ofKey path document
          rw [compileEntry.eq_def, ofKey]
          exact checks
      | some combinator =>
          have isCombinator : name ∈ ["AND", "OR", "NOT"] := by
            by_contra notCombinator
            rw [ofKey?_eq_none.2 notCombinator] at ofKey
            cases ofKey
          rw [compileEntry.eq_def, ofKey]
          cases document with
          | null =>
              exact checksKeys_combinator isCombinator (by simp) <|
                .of_none (not_keyWithin_of_kind (by simp) (by simp)) (combine_knowsFields _ _ _)
          | array items =>
              refine checksKeys_combinator isCombinator (by simp) (.array rfl ?_)
              exact (compileBranches_checksKeys declares items _ 0).andThen
                fun _ => combine_knowsFields _ _ _
          | _ => exact .of_refused (by simp)

theorem compileBranches_checksKeys (declares : registry.DeclaresInputs types) :
    (items : List Json) -> ∀ (path : String) (index : Nat),
      ChecksKeys (ItemKey registry (.nonNull (.named (filtersName types.name))) path index items)
        (compileBranches types.columns path index items)
  | [], path, index => by
      rw [compileBranches]
      exact .of_none (by simp [ItemKey]) (.ok _)
  | item :: items, path, index => by
      rw [compileBranches]
      refine (compileWhere_checksKeys declares item (.nonNull (.named (filtersName types.name)))
        (itemPath path index) rfl rfl).bind (fun _ _ => ?_) fun _ => itemKey_cons
      exact (compileBranches_checksKeys declares items path (index + 1)).andThen fun _ => .ok _

end

end Filters

theorem directionAt_knowsFields
    (entries : JsonEntries)
    (path column : String) :
    KnowsFields (directionAt entries path column) := by
  rw [directionAt.eq_def]
  split <;> simp [KnowsFields]

theorem sortKeys_knowsFields
    (entries : JsonEntries)
    (path : String)
    (columns : List ColumnCodec) :
    KnowsFields (sortKeys entries path columns) := by
  induction columns with
  | nil => exact .ok _
  | cons column columns inductionHypothesis =>
      rw [sortKeys]
      exact (directionAt_knowsFields _ _ _).bind fun _ => inductionHypothesis.bind fun _ => .ok _

/-- An `orderBy` argument checks the keys that it has as a document of the order type. -/
theorem compileOrderBy_checksKeys
    {registry : TypeRegistry}
    {types : TableTypes}
    (declares : registry.DeclaresInputs types)
    (path : String)
    (document : Json) :
    ChecksKeys (registry.KeyWithin (.named (orderByName types.name)) path document)
      (compileOrderBy types.columns path document) := by
  cases document with
  | object entries =>
      refine ChecksKeys.congr (checksKeys_names
        (fun name => types.columns.any fun column => column.column == name) (fun name => ?_)
        (fun entry found => ?_) fun passed => ?_) fun key => keyWithin_leaves declares.orders ?_
      · simp [orderFields]
      · rw [compileOrderBy, found]
      · rw [compileOrderBy, passed]
        exact sortKeys_knowsFields entries path types.columns
      · intro field isField
        obtain ⟨_, _, rfl⟩ := List.mem_map.1 isField
        exact declares.direction
  | null => exact .of_none (not_keyWithin_of_kind (by simp) (by simp)) (.ok _)
  | array items =>
      exact .of_none (not_keyWithin_of_kind (by simp) fun _ _ => rfl)
        (.refused (by simp))
  | _ =>
      exact .of_none (not_keyWithin_of_kind (by simp) (by simp))
        (.refused (by simp))

end RelationalApi
