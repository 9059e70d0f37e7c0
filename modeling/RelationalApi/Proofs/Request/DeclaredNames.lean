import RelationalApi.Proofs.Interface.Paths
import RelationalApi.Proofs.Request.CheckedQueries
import RelationalApi.Proofs.Selection.PlanKeys
import RelationalApi.Request.Compilation

/-!
# Declared names of requests

The interface that clients read and the compiler of their requests name the same inputs.  A request
compiles only if the registered types declare every key of its arguments, at whatever depth and
wherever they are given.  An unknown field is reported only for a key that is not declared, or for a
selected field that the type of its object does not declare.
-/

namespace RelationalApi

open Outcome

open TypeRegistry

/-! ## Undeclared fields of selections

Selections are pruned by lists of columns and relations.  A field that is reported as unknown there
is a field that the registered type of its object does not declare. -/

namespace Interface

variable {interface : Interface} {schema : Schema} {config : EngineConfig} {shape : Shape}
variable {types : TableTypes} {path name : String} {plan : SelectionPlan} {selection : Selection}
variable {operation : Operation}

/-- The first undeclared field of a selection is a field that the registered types do not
declare. -/
theorem FindsUndeclared.selectsUndeclared
    (generated : generate schema config = .ok interface)
    (member : shape ∈ schema.shapes config.depthLimit)
    {place : String}
    (finds : interface.FindsUndeclared shape path selection place name) :
    interface.registry.SelectsUndeclared (interface.shapeTypeName shape) path selection place
      name := by
  induction finds with
  | @here _ _ before after field _ notTypename undeclared =>
      obtain ⟨_, definitions, describes⟩ := describesShape_of_mem_shapes generated member
      exact .here describes.isRegistered (by simp) notTypename fun isDeclared =>
        undeclared ⟨definitions, describes.isRegistered, isDeclared⟩
  | @inside shape _ _ _ before after field relation _ _ leads _ inductionHypothesis =>
      obtain ⟨along, reached, fields, last, definitions, selects, isSelected, isType, notTypename,
        undeclared, isPlace, isNamed⟩ :=
          inductionHypothesis (follow_mem_shapes generated member leads)
      have childType : (relationField config.depthLimit shape relation).type.baseName =
          interface.shapeTypeName (shape.follow relation) := by
        rw [baseName_relationField, shapeTypeName, (represents_of_generate generated).config_eq]
      rw [← childType] at selects
      exact ⟨field :: along, reached, fields, last, definitions,
        .inside (by simp) (field?_relation generated member leads) selects, isSelected, isType,
        notTypename, undeclared, isPlace, isNamed⟩

/-- A field of rows without relations is reported if it is not a column. -/
theorem pruneField_item_eq_unknownField
    {place : String}
    {field : SelectedField}
    (reported : interface.pruneField types none path plan field
      = .error (.unknownField place name)) :
    path = place ∧ field.name = name ∧ field.name ≠ typenameField ∧
      (types.column? field.name).isSome = false := by
  obtain ⟨fieldName, label, arguments, selection⟩ := field
  rw [pruneField] at reported
  by_cases isTypename : fieldName = typenameField
  · rw [if_pos isTypename] at reported
    rcases bind_eq_error.1 reported with impossible | ⟨_, _, impossible⟩
    · exact absurd impossible (checkLeaf_ne_unknownField _ _ _ _)
    · cases impossible
  · rw [if_neg isTypename] at reported
    cases isColumn : (types.column? fieldName).isSome with
    | true =>
        rw [isColumn, if_pos rfl] at reported
        rcases bind_eq_error.1 reported with impossible | ⟨_, _, impossible⟩
        · exact absurd impossible (checkLeaf_ne_unknownField _ _ _ _)
        · cases impossible
    | false =>
        rw [isColumn, if_neg Bool.false_ne_true] at reported
        rcases bind_eq_error.1 reported with refused | ⟨_, noShape, _⟩
        · cases refused
          exact ⟨rfl, rfl, isTypename, rfl⟩
        · cases noShape

theorem pruneFields_item_eq_unknownField
    {place : String}
    (reported : interface.pruneFields types none path plan selection
      = .error (.unknownField place name)) :
    path = place ∧ ∃ field ∈ selection, field.name = name ∧ field.name ≠ typenameField ∧
      (types.column? field.name).isSome = false := by
  induction selection generalizing plan with
  | nil => cases reported
  | cons field selection inductionHypothesis =>
      rw [pruneFields] at reported
      rcases bind_eq_error.1 reported with first | ⟨_, _, later⟩
      · obtain ⟨atPath, isReported⟩ := pruneField_item_eq_unknownField first
        exact ⟨atPath, field, List.mem_cons_self, isReported⟩
      · obtain ⟨atPath, other, isSelected, isReported⟩ := inductionHypothesis later
        exact ⟨atPath, other, List.mem_cons_of_mem _ isSelected, isReported⟩

theorem successEntry_eq_unknownField
    {place : String}
    {field : SelectedField}
    (reported : successEntry path field = .error (.unknownField place name)) :
    path = place ∧ field.name = name ∧ field.name ≠ typenameField ∧ field.name ≠ successField := by
  rw [successEntry] at reported
  rcases bind_eq_error.1 reported with impossible | ⟨_, _, refused⟩
  · exact absurd impossible (checkLeaf_ne_unknownField _ _ _ _)
  · split at refused
    · cases refused
    · split at refused
      · cases refused
      · rename_i notTypename notSuccess
        cases refused
        exact ⟨rfl, rfl, notTypename, notSuccess⟩

/-- What is reported for the selection of a mutation is a field that the type of its answer does not
declare. -/
theorem selectsUndeclared_of_mutationPlan
    (generated : generate schema config = .ok interface)
    (isMutation : operation.kind.isMutation = true)
    {place : String}
    (reported : interface.mutationPlan operation selection = .error (.unknownField place name)) :
    interface.registry.SelectsUndeclared (rootFieldOf interface.config operation).type.baseName
      operation.name selection place name := by
  have registers := registers_of_generate generated
  rw [mutationPlan] at reported
  split at reported
  · rename_i isSuccess
    rcases bind_eq_error.1 reported with refused | ⟨_, _, impossible⟩
    · rcases bind_eq_error.1 refused with failed | ⟨_, _, impossible⟩
      · obtain ⟨field, isSelected, entry⟩ := exists_of_mapM_eq_error failed
        obtain ⟨atPath, isNamed, notTypename, notSuccess⟩ := successEntry_eq_unknownField entry
        have isType := registers.objectFields?_success isMutation isSuccess
        rw [← atPath, ← isNamed]
        exact .here isType isSelected notTypename (by simpa using notSuccess)
      · cases impossible
    · cases impossible
  · rename_i isReturning
    rcases bind_eq_error.1 reported with refused | ⟨_, _, impossible⟩
    · rcases bind_eq_error.1 refused with noTypes | ⟨types, atTable, failed⟩
      · exact absurd noTypes (typesAt_ne_unknownField _)
      · rcases bind_eq_error.1 failed with failed | ⟨_, _, impossible⟩
        · obtain ⟨atPath, field, isSelected, isNamed, notTypename, notColumn⟩ :=
            pruneFields_item_eq_unknownField failed
          have isType := registers.objectFields?_returning isMutation isReturning
            (typesAt_eq_ok.1 atTable)
          rw [TableTypes.column?, Option.isSome_eq_false_iff, Option.isNone_iff_eq_none,
            List.find?_eq_none] at notColumn
          rw [← atPath, ← isNamed]
          exact .here isType isSelected notTypename (by simpa [columnFields] using notColumn)
        · cases impossible
    · cases impossible

end Interface

/-! ## Declared keys of arguments -/

namespace Interface

variable {interface : Interface} {schema : Schema} {config : EngineConfig} {types : TableTypes}
variable {operation : Operation} {arguments : JsonEntries} {selection : Selection} {name : String}

theorem requireArgument_knowsFields (operation : String) (arguments : JsonEntries) (name : String) :
    KnowsFields (requireArgument operation arguments name) := by
  rw [requireArgument]
  split <;> simp [KnowsFields]

theorem requireArgument_eq_ok {operation : String} {document : Json} :
    requireArgument operation arguments name = .ok document ↔
      given? arguments name = some document := by
  rw [requireArgument]
  split <;> simp_all

theorem readAssignments_knowsFields (operation : String) (document : Json) :
    KnowsFields (readAssignments operation document) := by
  rw [readAssignments]
  refine (readInputObject_knowsFields _ _).bind fun entries => ?_
  split
  · exact .refused (by simp)
  · exact .ok _

theorem readAssignments_eq_ok
    {operation : String}
    {document : Json}
    {entries : JsonEntries}
    (read : readAssignments operation document = .ok entries) :
    document = .object entries := by
  simp only [readAssignments, bind_eq_ok, readInputObject_eq_ok] at read
  obtain ⟨_, isObject, kept⟩ := read
  split at kept
  · cases kept
  · cases kept
    exact isObject

theorem mem_argumentNames (operation : Operation) (name : String) :
    name ∈ operation.kind.argumentNames ↔ name ∈ operation.arguments.map (·.name) := by
  obtain ⟨kind, table⟩ := operation
  cases kind <;> simp [OperationKind.argumentNames, Operation.arguments]

/-- The names of the arguments of an operation are checked before they are sorted. -/
theorem read_checksKeys (operation : Operation) (arguments : JsonEntries) :
    ChecksKeys (fun key => ∃ entry ∈ arguments,
        key = ⟨operation.name, entry.1, operation.arguments.map (·.name)⟩)
      (OperationArguments.read operation arguments) := by
  refine (checkArguments_checksKeys (mem_argumentNames operation) operation.name
    arguments).andThen fun _ => ?_
  obtain ⟨kind, table⟩ := operation
  have required := requireArgument_knowsFields
  cases kind with
  | selectMany | selectOne =>
      exact (SelectArguments.read_knowsFields _ _).bind fun _ => .ok _
  | insertMany =>
      exact (required _ _ _).bind fun _ => (readRowList_knowsFields _ _).bind fun _ => .ok _
  | insertOne =>
      exact (required _ _ _).bind fun _ => (readInputObject_knowsFields _ _).bind fun _ => .ok _
  | update =>
      exact (required _ _ _).bind fun _ => (readAssignments_knowsFields _ _).bind fun _ => .ok _
  | delete => exact .ok _

/-- The key that is reported for the selection of an operation. -/
def SelectionReport (interface : Interface) (operation : Operation) (selection : Selection)
    (key : InputKey) : Prop :=
  if operation.kind.isMutation then ReportedBy (interface.mutationPlan operation selection) key
  else ReportedBy
    (interface.prune (interface.topShape operation.table) operation.name selection) key

/-- Selects of whole rows declare a filter, an order and counts. -/
theorem documentKey_operation
    {registry : TypeRegistry}
    {key : InputKey}
    (isLeaf : registry.namesOf? "Int" = none)
    (isSelect : operation.kind.isMutation = false)
    {sorted : SelectArguments}
    (sameFilter : sorted.filter = (given? arguments "where").getD .null)
    (sameOrderBy : sorted.orderBy = (given? arguments "orderBy").getD .null) :
    DocumentKey registry operation.arguments "" arguments key ↔
      SortedKey registry operation.table "" sorted key := by
  rw [SortedKey, sameFilter, sameOrderBy]
  obtain ⟨kind, table⟩ := operation
  cases kind with
  | selectMany =>
      refine documentKey_select (by simp [Operation.arguments, whereArgument])
        (by simp [Operation.arguments, orderByArgument]) fun argument isDeclared => ?_
      simp only [Operation.arguments, List.mem_cons, List.not_mem_nil, or_false] at isDeclared
      rcases isDeclared with rfl | rfl | rfl | rfl
      · exact .inr (.inr isLeaf)
      · exact .inr (.inr isLeaf)
      · exact .inr (.inl rfl)
      · exact .inl rfl
  | selectOne =>
      refine documentKey_select (by simp [Operation.arguments, whereArgument])
        (by simp [Operation.arguments, orderByArgument]) fun argument isDeclared => ?_
      simp only [Operation.arguments, List.mem_cons, List.not_mem_nil, or_false] at isDeclared
      rcases isDeclared with rfl | rfl | rfl
      · exact .inr (.inr isLeaf)
      · exact .inr (.inl rfl)
      · exact .inl rfl
  | _ => cases isSelect

/-- What is compiled after the arguments are sorted checks the keys in their values and those of the
selection. -/
theorem compileArguments_checksKeys
    (generated : generate schema config = .ok interface)
    (isOperation : operation ∈ interface.operations)
    (found : interface.table? operation.table = some types)
    (wellFormed : selection.IsWellFormed)
    {sorted : OperationArguments}
    (read : OperationArguments.read operation arguments = .ok sorted) :
    ChecksKeys (fun key => interface.SelectionReport operation selection key ∨
        DocumentKey interface.registry operation.arguments "" arguments key ∨
          interface.registry.SelectionKey (rootFieldOf interface.config operation).type.baseName ""
            selection key)
      (interface.compileArguments types operation sorted selection) := by
  have isLeaf := (registers_of_generate generated).namesOf?_builtIn "Int" (by decide)
  have declares := (registers_of_generate generated).declaresInputs
    (List.mem_of_find?_eq_some found)
  obtain ⟨table, isTable, mapped⟩ :=
    (represents_of_generate generated).table?_eq_some.1 found
  have isNamed := name_of_table? found
  have filters := fun document => compileWhere_checksKeys declares document
    (.named (filtersName types.name)) "where" rfl rfl
  obtain ⟨kind, name⟩ := operation
  subst isNamed
  rw [OperationArguments.read, check_bind_eq_ok] at read
  replace read := read.2
  cases kind with
  | selectMany | selectOne =>
      simp only [bind_eq_ok, pure_eq_ok] at read
      obtain ⟨given, readGiven, rfl⟩ := read
      obtain ⟨sameFilter, sameOrderBy⟩ := SelectArguments.read_eq_ok readGiven
      refine (compileSelect_checksKeys generated isOperation found wellFormed given).congr
        fun key => ?_
      rw [documentKey_operation isLeaf rfl sameFilter sameOrderBy]
      exact Iff.rfl
  | insertMany =>
      simp only [bind_eq_ok, pure_eq_ok, requireArgument_eq_ok] at read
      obtain ⟨document, isGiven, rows, readRows, rfl⟩ := read
      refine (mutationPlan_checksKeys (fun planned =>
        (readInsertRows_checksKeys declares mapped readRows).andThen fun _ => .ok _) _).congr
          fun key => or_congr_right (or_congr_left ?_)
      rw [Operation.arguments, documentKey_singleton, isGiven]
      exact Iff.rfl
  | insertOne =>
      simp only [bind_eq_ok, pure_eq_ok, requireArgument_eq_ok, readInputObject_eq_ok] at read
      obtain ⟨_, isGiven, entries, rfl, rfl⟩ := read
      have checks := readInsertRow_checksKeys (.nonNull (.named (insertInputName types.name))) rfl
        declares mapped entries
      refine (mutationPlan_checksKeys (fun planned => checks.andThen fun _ => .ok _) _).congr
        fun key => or_congr_right (or_congr_left ?_)
      rw [Operation.arguments, documentKey_singleton, isGiven]
      exact Iff.rfl
  | update =>
      simp only [bind_eq_ok, pure_eq_ok, requireArgument_eq_ok] at read
      obtain ⟨document, isGiven, entries, readEntries, rfl⟩ := read
      have checks := readAssignmentRow_checksKeys declares mapped entries
      refine (mutationPlan_checksKeys (fun planned => checks.bind (fun _ _ =>
        (filters _).andThen fun _ => .ok _) fun _ => Iff.rfl) _).congr
          fun key => or_congr_right (or_congr_left ?_)
      rw [Operation.arguments, documentKey_cons, documentKey_singleton, isGiven,
        readAssignments_eq_ok readEntries]
      exact Iff.rfl
  | delete =>
      simp only [pure_eq_ok] at read
      subst read
      refine (mutationPlan_checksKeys (fun planned => (filters _).andThen fun _ => .ok _) _).congr
        fun key => or_congr_right (or_congr_left ?_)
      rw [Operation.arguments, documentKey_singleton]
      exact Iff.rfl

/-- A request checks the keys of its input, apart from what is reported for its selection. -/
theorem compile_checksKeys
    (generated : generate schema config = .ok interface)
    (found : interface.operation? name = some operation)
    (argumentsWellFormed : (Json.object arguments).isWellFormed = true)
    (wellFormed : selection.IsWellFormed) :
    ChecksKeys (fun key => interface.registry.InputKeyOf name arguments selection key ∨
        interface.SelectionReport operation selection key)
      (interface.compile name arguments selection) := by
  have isOperation := List.mem_of_find?_eq_some found
  have isNamed : operation.name = name := by simpa using List.find?_some found
  have compiles := fun sorted read types atTable => @compileArguments_checksKeys interface schema
    config types operation arguments selection generated isOperation atTable wellFormed sorted read
  rw [compile, found]
  refine (read_checksKeys operation arguments).bind (fun sorted read =>
    .after (fun _ _ => typesAt_ne_unknownField _) fun types atTable =>
      (compiles sorted read types (typesAt_eq_ok.1 atTable)).andThen fun _ => .ok _) fun key => ?_
  rw [InputKeyOf, rootField?_eq generated found, argumentsOf, Option.map_some, Option.getD_some]
  simp only [Option.some.injEq, exists_eq_left', argumentKey_iff (keys_nodup argumentsWellFormed)]
  rw [← isNamed]
  have rootArguments : (rootFieldOf interface.config operation).arguments = operation.arguments :=
    rfl
  rw [rootArguments]
  simp only [or_assoc, or_left_comm, or_comm]

theorem SelectionReport.undeclaredField
    (generated : generate schema config = .ok interface)
    (found : interface.operation? name = some operation)
    {key : InputKey}
    (report : interface.SelectionReport operation selection key) :
    interface.registry.UndeclaredFieldOf name selection key.path key.name := by
  have isNamed : operation.name = name := by simpa using List.find?_some found
  have isOperation := List.mem_of_find?_eq_some found
  refine ⟨_, rootField?_eq generated found, ?_⟩
  rw [← isNamed]
  rw [SelectionReport] at report
  split at report
  · rename_i isMutation
    obtain ⟨place, field, reported, rfl⟩ := report
    exact selectsUndeclared_of_mutationPlan generated isMutation reported
  · rename_i notMutation
    obtain ⟨place, field, reported, rfl⟩ := report
    have member := topShape_mem generated isOperation
    have finds := (prune_eq_unknownField_iff_findsUndeclared generated member selection).1 reported
    have undeclared := finds.selectsUndeclared generated member
    obtain ⟨kind, table⟩ := operation
    cases kind with
    | selectMany | selectOne => exact undeclared
    | _ => exact absurd rfl notMutation

/-- The compiler of requests and the registered types name the same inputs.  A request compiles only
if every key of its input is declared where it is given: the arguments of its root field and of the
fields that are selected below it, and inside them the keys of filters with all their nested items,
of the operators of columns and their alternatives, of orders, of rows and of assignments.  Where an
unknown field is reported, it is a key of the input that is not declared, or a selected field that
the type of its object does not declare. -/
theorem arguments_match_types
    (generated : generate schema config = .ok interface)
    (name : String)
    (argumentsWellFormed : (Json.object arguments).isWellFormed = true)
    (selectionWellFormed : selection.IsWellFormed) :
    (∀ compiled, interface.compile name arguments selection = .ok compiled ->
      ∀ key, interface.registry.InputKeyOf name arguments selection key -> key.IsDeclared) ∧
    ∀ path field, interface.compile name arguments selection = .error (.unknownField path field) ->
      (∃ key, interface.registry.InputKeyOf name arguments selection key ∧
        key.path = path ∧ key.name = field ∧ ¬key.IsDeclared) ∨
      interface.registry.UndeclaredFieldOf name selection path field := by
  cases found : interface.operation? name with
  | none =>
      rw [compile, found]
      simp
  | some operation =>
      have checks := compile_checksKeys generated found argumentsWellFormed selectionWellFormed
      refine ⟨fun compiled compiles key isKey => ?_, fun path field reported => ?_⟩
      · exact checks.declared compiled compiles key (.inl isKey)
      · obtain ⟨key, isKey | isReport, rfl, rfl, undeclared⟩ :=
          checks.undeclared path field reported
        · exact .inl ⟨key, isKey, rfl, rfl, undeclared⟩
        · exact .inr (isReport.undeclaredField generated found)

/-- A filter on names with alternatives, and a count. -/
def namesLike : JsonEntries :=
  [("where", .object [("name", .object [("OR", .array
      [.object [("like", .string "a%")], .object [("eq", .string "b")]])])]),
    ("limit", .int 5)]

/-- Names, and posts in an order that an operator or a negation accepts. -/
def namesAndPosts (operator : String) : Selection :=
  [{ name := "name" },
    { name := "posts"
      arguments :=
        [("where", .object [("OR", .array
            [.object [("id", .object [(operator, .int 1)])],
              .object [("NOT", .array [.object [("user_id", .object [("gte", .int 1)])]])]])]),
          ("orderBy", .object [("id", .string "desc")])]
      selection := [{ name := "id" }] }]

theorem isWellFormed_namesAndPosts (operator : String) :
    (namesAndPosts operator).IsWellFormed := by
  rw [namesAndPosts]
  simp only [Selection.isWellFormed_cons, Selection.isWellFormed_nil, and_true, true_and]
  exact ⟨rfl, rfl, rfl⟩

/-- No operator is selected as a field. -/
theorem name_ne_like
    {registry : TypeRegistry}
    {type reached operator : String}
    {along : List SelectedField}
    {fields : Selection}
    (selects : registry.Selects type (namesAndPosts operator) along reached fields) :
    ∀ field ∈ fields, field.name ≠ "like" := by
  cases selects with
  | here => simp [namesAndPosts]
  | @inside _ _ _ _ first _ _ isFirst _ inner =>
      simp only [namesAndPosts, List.mem_cons, List.not_mem_nil, or_false] at isFirst
      rcases isFirst with rfl | rfl
      · simp [inner.of_nil]
      · cases inner with
        | here => simp
        | @inside _ _ _ _ second _ _ isSecond _ inner =>
            rw [List.mem_singleton.1 isSecond] at inner
            simp [inner.of_nil]

/-- The unknown field that is reported, if one is. -/
def unknownField? {α : Type} : Except ArgumentError α -> Option (String × String)
  | .error (.unknownField path field) => some (path, field)
  | _ => none

theorem unknownField?_eq_some
    {α : Type}
    {outcome : Except ArgumentError α}
    {path field : String} :
    unknownField? outcome = some (path, field) ↔ outcome = .error (.unknownField path field) := by
  rw [unknownField?.eq_def]
  split <;> simp_all

/-- The filter of the posts is refused where it names another operator, which the operators of
integers do not declare. -/
theorem arguments_match_types_blog :
    ∃ interface, generate blog {} = .ok interface ∧
      (∃ compiled, interface.compile "users" namesLike (namesAndPosts "gt") = .ok compiled) ∧
      (∀ key, interface.registry.InputKeyOf "users" namesLike (namesAndPosts "gt") key ->
        key.IsDeclared) ∧
      interface.compile "users" namesLike (namesAndPosts "like")
        = .error (.unknownField "posts.where.OR.0.id" "like") ∧
      ∃ key, interface.registry.InputKeyOf "users" namesLike (namesAndPosts "like") key ∧
        key.path = "posts.where.OR.0.id" ∧ key.name = "like" ∧ ¬key.IsDeclared := by
  have runs : ((generate blog {}).toOption.map fun interface =>
      ((interface.compile "users" namesLike (namesAndPosts "gt")).toOption.isSome,
        unknownField? (interface.compile "users" namesLike (namesAndPosts "like")))) =
      some (true, some ("posts.where.OR.0.id", "like")) := by
    decide +kernel
  obtain ⟨interface, generated, made⟩ := Option.map_eq_some_iff.1 runs
  rw [toOption_eq_some] at generated
  rw [Prod.mk.injEq, Option.isSome_iff_exists, unknownField?_eq_some] at made
  simp only [toOption_eq_some] at made
  obtain ⟨⟨compiled, compiles⟩, reported⟩ := made
  have wellFormed : (Json.object namesLike).isWellFormed = true := by decide
  obtain ⟨declared, _⟩ :=
    arguments_match_types generated "users" wellFormed (isWellFormed_namesAndPosts "gt")
  obtain ⟨_, undeclared⟩ :=
    arguments_match_types generated "users" wellFormed (isWellFormed_namesAndPosts "like")
  refine ⟨interface, generated, ⟨compiled, compiles⟩, declared compiled compiles, reported, ?_⟩
  refine (undeclared _ _ reported).resolve_right ?_
  rintro ⟨root, _, along, reached, fields, field, _, selects, isSelected, _, _, _, _, isNamed⟩
  exact name_ne_like selects field isSelected isNamed

end Interface

end RelationalApi
