import RelationalApi.Arguments.OrderBy
import RelationalApi.Proofs.Arguments.Rearrangement

/-!
# The fields of filters and orders

Whatever the argument, the filter that it is compiled to tests no field but the columns it was
compiled for, and the keys of a compiled order name columns in the order of their declaration, each
at most once.
-/

namespace RelationalApi

open Outcome

mutual

/-- The fields that a filter tests. -/
def Filter.fields : Filter -> List String
  | compare _ field _ => [field]
  | member _ field _ => [field]
  | nullness _ field => [field]
  | pattern _ field _ => [field]
  | and filters => Filter.fieldsOfAll filters
  | or filters => Filter.fieldsOfAll filters
  | not filter => filter.fields

def Filter.fieldsOfAll : List Filter -> List String
  | [] => []
  | filter :: filters => filter.fields ++ Filter.fieldsOfAll filters

end

namespace Filter

variable {filters : List Filter} {filter : Filter} {names : List String}

/-- A filter tests no fields but those of some names. -/
def Tests (names : List String) (filter : Filter) : Prop :=
  ∀ field ∈ filter.fields, field ∈ names

theorem fieldsOfAll_within (tested : ∀ filter ∈ filters, filter.Tests names) :
    ∀ field ∈ fieldsOfAll filters, field ∈ names := by
  induction filters with
  | nil =>
      rw [fieldsOfAll]
      simp
  | cons filter filters inductionHypothesis =>
      rw [List.forall_mem_cons] at tested
      rw [fieldsOfAll]
      exact List.forall_mem_append.2 ⟨tested.1, inductionHypothesis tested.2⟩

theorem fields_all (joined : all filters = some filter) : filter.fields = fieldsOfAll filters := by
  rw [all.eq_def] at joined
  split at joined
  · cases joined
  · cases joined
    rw [fieldsOfAll, fieldsOfAll, List.append_nil]
  · cases joined
    rw [fields]

theorem fields_any (joined : any filters = some filter) : filter.fields = fieldsOfAll filters := by
  rw [any.eq_def] at joined
  split at joined
  · cases joined
  · cases joined
    rw [fieldsOfAll, fieldsOfAll, List.append_nil]
  · cases joined
    rw [fields]

end Filter

section Conditions

variable {names : List String} {path name : String} {operand : Json}
variable {branches : List (Option Filter)} {filter : Filter} {conditions : List Filter}

/-- All filters that were compiled, if any, test fields of some names only. -/
def BranchesTest (names : List String) (branches : List (Option Filter)) : Prop :=
  ∀ filter, some filter ∈ branches -> filter.Tests names

theorem BranchesTest.filterMap (tested : BranchesTest names branches) :
    ∀ filter ∈ branches.filterMap id, filter.Tests names := by
  intro filter member
  obtain ⟨branch, branchMember, same⟩ := List.mem_filterMap.1 member
  exact tested filter (same ▸ branchMember)

theorem tests_of_disjunction
    (tested : BranchesTest names branches)
    (joined : disjunction branches = some filter) :
    filter.Tests names := by
  rw [disjunction] at joined
  split at joined
  · cases joined
  · rw [Filter.Tests, Filter.fields_any joined]
    exact Filter.fieldsOfAll_within tested.filterMap

theorem combine_tests
    {combinator : Combinator}
    (tested : BranchesTest names branches)
    (combined : combinator.combine path branches = .ok conditions) :
    ∀ filter ∈ conditions, filter.Tests names := by
  cases combinator with
  | and =>
      cases combined
      exact tested.filterMap
  | or =>
      cases combined
      exact fun filter member => tests_of_disjunction tested (Option.mem_toList.1 member)
  | not =>
      rw [Combinator.combine] at combined
      split at combined
      · rename_i inner joined
        cases combined
        rw [List.forall_mem_singleton, Filter.Tests, Filter.fields, Filter.fields_all joined]
        exact Filter.fieldsOfAll_within tested.filterMap
      · cases combined

/-- The conditions of entries test what the conditions of each of them test. -/
theorem gatherConditions_tests
    {compile : String -> Json -> Except ArgumentError (List Filter)}
    {entries : JsonEntries}
    (each : ∀ key document part, compile key document = .ok part ->
      ∀ filter ∈ part, filter.Tests names)
    (gathered : gatherConditions compile entries = .ok conditions) :
    ∀ filter ∈ conditions, filter.Tests names := by
  induction entries generalizing conditions with
  | nil =>
      cases gathered
      simp
  | cons entry entries inductionHypothesis =>
      simp only [gatherConditions, bind_eq_ok, pure_eq_ok] at gathered
      obtain ⟨first, compiled, later, rest, rfl⟩ := gathered
      exact List.forall_mem_append.2 ⟨each _ _ first compiled, inductionHypothesis rest⟩

end Conditions

section Columns

variable {column : ColumnCodec} {path name : String} {operand : Json} {filter : Filter}
variable {branches : List (Option Filter)}

/-- The condition of an operator tests its column. -/
theorem compileOperator_tests
    (compiled : compileOperator column path name operand = .ok (some filter)) :
    filter.Tests [column.column] := by
  have tests : filter.fields = [column.column] := by
    rw [compileOperator] at compiled
    split at compiled
    · rw [compileNullness.eq_def] at compiled
      split at compiled <;> cases compiled
      rw [Filter.fields]
    · split at compiled
      · rw [compileMembership.eq_def] at compiled
        split at compiled
        · obtain ⟨values, _, same⟩ := bind_eq_ok.1 compiled
          cases same
          rw [Filter.fields]
        · cases compiled
      · split at compiled
        · rw [compilePattern.eq_def] at compiled
          split at compiled <;> cases compiled
          rw [Filter.fields]
        · split at compiled
          · rw [compileComparison] at compiled
            split at compiled
            · cases compiled
            · obtain ⟨value, _, same⟩ := bind_eq_ok.1 compiled
              cases same
              rw [Filter.fields]
          · cases compiled
  rw [Filter.Tests, tests]
  exact fun field member => member

/-- An object of operators tests what each of its operators tests. -/
theorem compileOperatorObject_tests
    {names : List String}
    {compile : String -> Json -> Except ArgumentError (Option Filter)}
    (each : ∀ name operand filter, compile name operand = .ok (some filter) -> filter.Tests names)
    (compiled : compileOperatorObject compile path operand = .ok (some filter)) :
    filter.Tests names := by
  cases operand with
  | object entries =>
      obtain ⟨conditions, gathered, joined⟩ := bind_eq_ok.1 compiled
      rw [compileOperators_eq_gather] at gathered
      rw [pure_eq_ok] at joined
      rw [Filter.Tests, Filter.fields_all joined]
      refine Filter.fieldsOfAll_within (gatherConditions_tests ?_ gathered)
      intro name operand part compiledEntry filter member
      cases outcome : compile name operand with
      | error fault =>
          rw [outcome] at compiledEntry
          cases compiledEntry
      | ok condition =>
          rw [outcome] at compiledEntry
          cases compiledEntry
          exact each name operand filter (Option.mem_toList.1 member ▸ outcome)
  | _ => cases compiled

theorem compileAlternatives_tests
    {index : Nat}
    {items : List Json}
    (compiled : compileAlternatives column path index items = .ok branches) :
    BranchesTest [column.column] branches := by
  induction items generalizing index branches with
  | nil =>
      rw [compileAlternatives] at compiled
      cases compiled
      intro filter member
      cases member
  | cons item items inductionHypothesis =>
      simp only [compileAlternatives, bind_eq_ok, pure_eq_ok] at compiled
      obtain ⟨branch, compiledFirst, others, compiledOthers, rfl⟩ := compiled
      intro filter member
      rcases List.mem_cons.1 member with rfl | later
      · exact compileOperatorObject_tests (fun _ _ _ => compileOperator_tests) compiledFirst
      · exact inductionHypothesis compiledOthers filter later

/-- The filter of a column entry tests the column. -/
theorem compileColumn_tests
    (compiled : compileColumn column path operand = .ok (some filter)) :
    filter.Tests [column.column] := by
  refine compileOperatorObject_tests ?_ compiled
  intro name operand filter compiledEntry
  split at compiledEntry
  · cases operand with
    | array items =>
        obtain ⟨branches, compiledItems, joined⟩ := bind_eq_ok.1 compiledEntry
        rw [pure_eq_ok] at joined
        exact tests_of_disjunction (compileAlternatives_tests compiledItems) joined
    | _ => cases compiledEntry
  · exact compileOperator_tests compiledEntry

theorem compileColumnEntry_tests
    {columns : List ColumnCodec}
    {key : String}
    {conditions : List Filter}
    (compiled : compileColumnEntry columns path key operand = .ok conditions) :
    ∀ filter ∈ conditions, filter.Tests (columns.map (·.column)) := by
  rw [compileColumnEntry] at compiled
  split at compiled
  · rename_i column found
    obtain ⟨condition, compiledColumn, same⟩ := bind_eq_ok.1 compiled
    rw [pure_eq_ok] at same
    intro filter member field isField
    rw [← same, Option.mem_toList] at member
    rw [List.mem_singleton.1 (compileColumn_tests (member ▸ compiledColumn) field isField)]
    exact List.mem_map_of_mem (List.mem_of_find?_eq_some found)
  · cases compiled

end Columns

section Objects

variable {columns : List ColumnCodec}

-- The recursion follows the compiler, which calls itself on the items of combinators only.
mutual

/-- A filter tests no fields but the columns that it was compiled for. -/
theorem compileWhere_tests :
    (document : Json) -> ∀ {path filter}, compileWhere columns path document = .ok (some filter) ->
      filter.Tests (columns.map (·.column))
  | .object entries, path, filter, compiled => by
      rw [compileWhere] at compiled
      obtain ⟨conditions, compiledEntries, joined⟩ := bind_eq_ok.1 compiled
      rw [pure_eq_ok] at joined
      rw [Filter.Tests, Filter.fields_all joined]
      exact Filter.fieldsOfAll_within (compileEntries_tests entries compiledEntries)
  | .null, path, filter, compiled => by
      rw [compileWhere] at compiled
      cases compiled
  | .bool _, path, filter, compiled => by cases compiled
  | .number _, path, filter, compiled => by cases compiled
  | .string _, path, filter, compiled => by cases compiled
  | .array _, path, filter, compiled => by cases compiled

theorem compileEntries_tests :
    (entries : List (String × Json)) -> ∀ {path conditions},
      compileEntries columns path entries = .ok conditions ->
        ∀ filter ∈ conditions, filter.Tests (columns.map (·.column))
  | [], path, conditions, compiled => by
      rw [compileEntries] at compiled
      cases compiled
      simp
  | (key, document) :: entries, path, conditions, compiled => by
      simp only [compileEntries, bind_eq_ok, pure_eq_ok] at compiled
      obtain ⟨first, compiledFirst, others, compiledOthers, rfl⟩ := compiled
      exact List.forall_mem_append.2
        ⟨compileEntry_tests document compiledFirst, compileEntries_tests entries compiledOthers⟩

theorem compileEntry_tests :
    (document : Json) -> ∀ {path key conditions},
      compileEntry columns path key document = .ok conditions ->
        ∀ filter ∈ conditions, filter.Tests (columns.map (·.column))
  | document, path, key, conditions, compiled => by
      cases named : Combinator.ofKey? key with
      | none =>
          rw [compileEntry.eq_def, named] at compiled
          exact compileColumnEntry_tests compiled
      | some combinator =>
          rw [compileEntry.eq_def, named] at compiled
          match document with
          | .null => exact combine_tests (fun _ member => absurd member List.not_mem_nil) compiled
          | .array items =>
              obtain ⟨branches, compiledItems, combined⟩ := bind_eq_ok.1 compiled
              exact combine_tests (compileBranches_tests items compiledItems) combined
          | .bool _ => cases compiled
          | .number _ => cases compiled
          | .string _ => cases compiled
          | .object _ => cases compiled

theorem compileBranches_tests :
    (items : List Json) -> ∀ {path index branches},
      compileBranches columns path index items = .ok branches ->
        BranchesTest (columns.map (·.column)) branches
  | [], path, index, branches, compiled => by
      rw [compileBranches] at compiled
      cases compiled
      intro filter member
      cases member
  | item :: items, path, index, branches, compiled => by
      simp only [compileBranches, bind_eq_ok, pure_eq_ok] at compiled
      obtain ⟨branch, compiledFirst, others, compiledOthers, rfl⟩ := compiled
      intro filter member
      rcases List.mem_cons.1 member with rfl | later
      · exact compileWhere_tests item compiledFirst
      · exact compileBranches_tests items compiledOthers filter later

end

end Objects

section Orders

variable {columns : List ColumnCodec} {path : String}

theorem sortKeys_sublist
    {entries : JsonEntries}
    {keys : List SortKey}
    (sorted : sortKeys entries path columns = .ok keys) :
    (keys.map (·.field)).Sublist (columns.map (·.column)) := by
  induction columns generalizing keys with
  | nil =>
      rw [sortKeys] at sorted
      cases sorted
      exact .slnil
  | cons column columns inductionHypothesis =>
      simp only [sortKeys, bind_eq_ok, pure_eq_ok] at sorted
      obtain ⟨direction, _, others, sortedOthers, rfl⟩ := sorted
      have rest := inductionHypothesis sortedOthers
      cases direction with
      | none => exact rest.cons _
      | some direction => exact rest.cons_cons _

/-- The keys of an order name columns in the order of their declaration. -/
theorem compileOrderBy_sublist
    {document : Json}
    {keys : List SortKey}
    (compiled : compileOrderBy columns path document = .ok keys) :
    (keys.map (·.field)).Sublist (columns.map (·.column)) := by
  rw [compileOrderBy.eq_def] at compiled
  split at compiled
  · cases compiled
    exact List.nil_sublist _
  · split at compiled
    · cases compiled
    · exact sortKeys_sublist compiled
  · cases compiled

end Orders

end RelationalApi
