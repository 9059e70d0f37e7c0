import RelationalApi.Arguments.Where
import RelationalApi.Proofs.Scalar.Decoding
import RelationalApi.Proofs.Storage.Filters

/-!
# The meaning of where arguments

A `where` argument can be read on a row as it stands, without a filter in between.  Compiling it
leaves out what holds on every row, takes single conditions out of their lists, puts the parts of
`AND` lists next to the other parts, and drops a disjunction with a branch that always holds; the
filter that results accepts exactly the rows on which the argument holds as it is read.
-/

namespace RelationalApi

open Outcome

namespace WhereMeaning

/-- The value that an operand stands for. -/
def operand? (column : ColumnCodec) (document : Json) : Option Value :=
  (column.decodeNonNull document "").toOption

/-- The values that a list of operands stands for. -/
def operands? (column : ColumnCodec) : Json -> Option (List Value)
  | .array items => (readItems column.decodeNonNull "" 0 items).toOption
  | _ => none

/-- Whether a stored text matches a pattern. -/
def textMatches (test : PatternTest) : Json -> Value -> Bool
  | .string pattern, .string text => test.holds text pattern
  | _, _ => false

/-- Whether a stored value that is not null passes the test of an operator. -/
def passes (column : ColumnCodec) (name : String) (operand : Json) (stored : Value) : Bool :=
  match name with
  | "eq" => (operand? column operand).any fun value => stored.equal value
  | "ne" => (operand? column operand).any fun value => !stored.equal value
  | "lt" => (operand? column operand).any fun value => stored.order? value == some .lt
  | "lte" => (operand? column operand).any fun value =>
      stored.order? value == some .lt || stored.order? value == some .eq
  | "gt" => (operand? column operand).any fun value => stored.order? value == some .gt
  | "gte" => (operand? column operand).any fun value =>
      stored.order? value == some .gt || stored.order? value == some .eq
  | "inArray" => (operands? column operand).any fun values =>
      values.any fun value => stored.equal value
  | "notInArray" => (operands? column operand).any fun values =>
      !values.any fun value => stored.equal value
  | "like" => textMatches ⟨false, false⟩ operand stored
  | "notLike" => textMatches ⟨false, true⟩ operand stored
  | "ilike" => textMatches ⟨true, false⟩ operand stored
  | "notIlike" => textMatches ⟨true, true⟩ operand stored
  | _ => false

/-- Whether an operator holds: the tests for null hold unless they are switched on and fail, and
every other operator asks for a value that passes its test. -/
def operatorHolds (column : ColumnCodec) (row : StoredRow) (name : String) (operand : Json) :
    Bool :=
  match name, operand with
  | "isNull", .bool true => (present? row column.column).isNone
  | "isNull", _ => true
  | "isNotNull", .bool true => (present? row column.column).isSome
  | "isNotNull", _ => true
  | name, operand => (present? row column.column).any (passes column name operand)

/-- Whether an object of operators holds: null does, and an object whose entries do. -/
def operatorsHold (holds : String -> Json -> Bool) : Json -> Bool
  | .null => true
  | .object entries => entries.all fun entry => holds entry.1 entry.2
  | _ => false

/-- Whether a column's own `OR` list holds: it is null or empty, or some item holds. -/
def alternativesHold (column : ColumnCodec) (row : StoredRow) : Json -> Bool
  | .null => true
  | .array items => items.isEmpty || items.any (operatorsHold (operatorHolds column row))
  | _ => false

/-- Whether an entry for a column holds. -/
def columnHolds (column : ColumnCodec) (row : StoredRow) : Json -> Bool :=
  operatorsHold fun name operand =>
    if name = "OR" then alternativesHold column row operand
    else operatorHolds column row name operand

/-- Whether an entry whose key is the name of a column holds. -/
def namedColumnHolds (columns : List ColumnCodec) (row : StoredRow) (key : String)
    (document : Json) : Bool :=
  match columns.find? fun column => column.column == key with
  | some column => columnHolds column row document
  | none => false

mutual

/-- Whether a `where` argument holds on a row: null does, and an object whose entries do. -/
def whereHolds (columns : List ColumnCodec) (row : StoredRow) : Json -> Bool
  | .null => true
  | .object entries => entriesHold columns row entries
  | _ => false

def entriesHold (columns : List ColumnCodec) (row : StoredRow) : List (String × Json) -> Bool
  | [] => true
  | (key, document) :: entries =>
      entryHolds columns row key document && entriesHold columns row entries

/-- Whether an entry holds: an `AND` entry if all its items hold, an `OR` entry if it has none or
some item holds, and a `NOT` entry if not all its items hold. -/
def entryHolds (columns : List ColumnCodec) (row : StoredRow) (key : String) (document : Json) :
    Bool :=
  if key = "AND" then
    match document with
    | .null => true
    | .array items => allHold columns row items
    | _ => false
  else if key = "OR" then
    match document with
    | .null => true
    | .array items => items.isEmpty || someHold columns row items
    | _ => false
  else if key = "NOT" then
    match document with
    | .array items => !allHold columns row items
    | _ => false
  else namedColumnHolds columns row key document

def allHold (columns : List ColumnCodec) (row : StoredRow) : List Json -> Bool
  | [] => true
  | item :: items => whereHolds columns row item && allHold columns row items

def someHold (columns : List ColumnCodec) (row : StoredRow) : List Json -> Bool
  | [] => false
  | item :: items => whereHolds columns row item || someHold columns row items

end

theorem allHold_eq_all (columns : List ColumnCodec) (row : StoredRow) (items : List Json) :
    allHold columns row items = items.all (whereHolds columns row) := by
  induction items with
  | nil => rfl
  | cons item items inductionHypothesis =>
      rw [allHold, List.all_cons, inductionHypothesis]

theorem someHold_eq_any (columns : List ColumnCodec) (row : StoredRow) (items : List Json) :
    someHold columns row items = items.any (whereHolds columns row) := by
  induction items with
  | nil => rfl
  | cons item items inductionHypothesis =>
      rw [someHold, List.any_cons, inductionHypothesis]

section Operators

variable {column : ColumnCodec} {row : StoredRow} {path name : String} {operand : Json}
variable {condition : Option Filter}

theorem operand?_eq_some
    {value : Value}
    (read : column.decodeNonNull operand path = .ok value) :
    operand? column operand = some value := by
  rw [operand?, ColumnCodec.decodeNonNull, Codec.read_toOption column.codec operand "" path]
  exact toOption_eq_some.2 read

theorem operands?_eq_some
    {items : List Json}
    {index : Nat}
    {values : List Value}
    (read : readItems column.decodeNonNull path index items = .ok values) :
    operands? column (.array items) = some values := by
  have readAnywhere : ∀ item first second,
      (column.decodeNonNull item first).toOption = (column.decodeNonNull item second).toOption :=
    Codec.read_toOption column.codec
  rw [operands?, readItems_toOption readAnywhere items "" path 0 index]
  exact toOption_eq_some.2 read

/-- A condition on the present value of a field holds when there is one that passes. -/
theorem holds_compare (comparison : Comparison) (field : String) (value : Value) :
    Filter.holds row (.compare comparison field value) =
      (present? row field).any fun stored => comparison.holds stored value := by
  rw [Filter.holds]
  cases present? row field <;> rfl

theorem holds_member (negated : Bool) (field : String) (values : List Value) :
    Filter.holds row (.member negated field values) =
      (present? row field).any fun stored =>
        (values.any fun value => stored.equal value) != negated := by
  rw [Filter.holds]
  cases present? row field <;> rfl

theorem holds_pattern (test : PatternTest) (field pattern : String) :
    Filter.holds row (.pattern test field pattern) =
      (present? row field).any (textMatches test (.string pattern)) := by
  rw [Filter.holds, present?]
  cases fieldValue? row field with
  | none => rfl
  | some stored => cases stored <;> rfl

theorem operatorHolds_of_ne
    (notIsNull : name ≠ "isNull")
    (notIsNotNull : name ≠ "isNotNull") :
    operatorHolds column row name operand =
      (present? row column.column).any (passes column name operand) := by
  rw [operatorHolds]
  all_goals grind

theorem compileNullness_accepts
    {negated : Bool}
    (named : nullnessOfName? name = some negated)
    (compiled : compileNullness column negated operand path = .ok condition) :
    Filter.accepts condition row = operatorHolds column row name operand := by
  have names : name = "isNull" ∧ negated = false ∨ name = "isNotNull" ∧ negated = true := by
    grind [nullnessOfName?]
  rcases names with ⟨rfl, rfl⟩ | ⟨rfl, rfl⟩ <;>
    unfold compileNullness at compiled <;> split at compiled <;> cases compiled
  · rfl
  · rfl
  · simp [operatorHolds, Filter.holds]
  · rfl
  · rfl
  · simp [operatorHolds, Filter.holds]

theorem compileMembership_accepts
    {negated : Bool}
    (named : membershipOfName? name = some negated)
    (compiled : compileMembership column negated operand path = .ok condition) :
    Filter.accepts condition row = operatorHolds column row name operand := by
  cases operand with
  | array items =>
      obtain ⟨values, read, kept⟩ := bind_eq_ok.1 compiled
      rw [pure_eq_ok] at kept
      subst kept
      have names : name = "inArray" ∧ negated = false ∨ name = "notInArray" ∧ negated = true := by
        grind [membershipOfName?]
      rw [Filter.accepts_some, holds_member]
      rcases names with ⟨rfl, rfl⟩ | ⟨rfl, rfl⟩
      all_goals
        rw [operatorHolds_of_ne (by decide) (by decide)]
        refine congrArg (Option.any · (present? row column.column)) (funext fun stored => ?_)
        simp [passes, operands?_eq_some read]
  | _ => cases compiled

theorem compilePattern_accepts
    {test : PatternTest}
    (named : patternOfName? name = some test)
    (compiled : compilePattern column test operand path = .ok condition) :
    Filter.accepts condition row = operatorHolds column row name operand := by
  cases operand with
  | string pattern =>
      cases compiled
      rw [Filter.accepts_some, holds_pattern]
      have names : name = "like" ∧ test = ⟨false, false⟩ ∨ name = "notLike" ∧ test = ⟨false, true⟩ ∨
          name = "ilike" ∧ test = ⟨true, false⟩ ∨ name = "notIlike" ∧ test = ⟨true, true⟩ := by
        grind [patternOfName?]
      rcases names with ⟨rfl, rfl⟩ | ⟨rfl, rfl⟩ | ⟨rfl, rfl⟩ | ⟨rfl, rfl⟩
      all_goals
        rw [operatorHolds_of_ne (by decide) (by decide)]
        rfl
  | _ => cases compiled

theorem compileComparison_accepts
    {comparison : Comparison}
    (named : comparisonOfName? name = some comparison)
    (compiled : compileComparison column comparison operand path = .ok condition) :
    Filter.accepts condition row = operatorHolds column row name operand := by
  rw [compileComparison] at compiled
  split at compiled
  · cases compiled
  · obtain ⟨value, read, kept⟩ := bind_eq_ok.1 compiled
    rw [pure_eq_ok] at kept
    subst kept
    rw [Filter.accepts_some, holds_compare]
    have names : name = "eq" ∧ comparison = .equal ∨ name = "ne" ∧ comparison = .notEqual ∨
        name = "lt" ∧ comparison = .less ∨ name = "lte" ∧ comparison = .lessOrEqual ∨
          name = "gt" ∧ comparison = .greater ∨ name = "gte" ∧ comparison = .greaterOrEqual := by
      unfold comparisonOfName? at named
      split_ifs at named <;> simp_all
    rcases names with ⟨rfl, rfl⟩ | ⟨rfl, rfl⟩ | ⟨rfl, rfl⟩ | ⟨rfl, rfl⟩ | ⟨rfl, rfl⟩ | ⟨rfl, rfl⟩
    all_goals
      rw [operatorHolds_of_ne (by decide) (by decide)]
      refine congrArg (Option.any · (present? row column.column)) (funext fun stored => ?_)
      simp [passes, operand?_eq_some read, Comparison.holds]

/-- The condition of an operator accepts the rows on which the operator holds. -/
theorem compileOperator_accepts
    (compiled : compileOperator column path name operand = .ok condition) :
    Filter.accepts condition row = operatorHolds column row name operand := by
  rw [compileOperator] at compiled
  split at compiled
  · rename_i negated named
    exact compileNullness_accepts named compiled
  · split at compiled
    · rename_i negated named
      exact compileMembership_accepts named compiled
    · split at compiled
      · rename_i test named isText
        exact compilePattern_accepts named compiled
      · split at compiled
        · rename_i comparison named
          exact compileComparison_accepts named compiled
        · cases compiled

/-- The conditions of entries all hold on the rows on which every entry holds. -/
theorem compileOperators_holds
    {compile : String -> Json -> Except ArgumentError (Option Filter)}
    {holds : String -> Json -> Bool}
    (compiles : ∀ name operand condition, compile name operand = .ok condition ->
      Filter.accepts condition row = holds name operand)
    {entries : JsonEntries}
    {conditions : List Filter}
    (compiled : compileOperators compile entries = .ok conditions) :
    conditions.all (Filter.holds row) = entries.all fun entry => holds entry.1 entry.2 := by
  induction entries generalizing conditions with
  | nil =>
      rw [compileOperators] at compiled
      cases compiled
      rfl
  | cons entry entries inductionHypothesis =>
      simp only [compileOperators, bind_eq_ok, pure_eq_ok] at compiled
      obtain ⟨condition, compiledFirst, others, compiledOthers, rfl⟩ := compiled
      rw [List.all_append, Filter.all_toList, List.all_cons, compiles _ _ _ compiledFirst,
        inductionHypothesis compiledOthers]

theorem compileOperatorObject_accepts
    {compile : String -> Json -> Except ArgumentError (Option Filter)}
    {holds : String -> Json -> Bool}
    (compiles : ∀ name operand condition, compile name operand = .ok condition ->
      Filter.accepts condition row = holds name operand)
    {document : Json}
    (compiled : compileOperatorObject compile path document = .ok condition) :
    Filter.accepts condition row = operatorsHold holds document := by
  cases document with
  | null =>
      cases compiled
      rfl
  | object entries =>
      obtain ⟨conditions, compiledEntries, kept⟩ := bind_eq_ok.1 compiled
      rw [pure_eq_ok] at kept
      rw [← kept, Filter.accepts_all, operatorsHold,
        compileOperators_holds compiles compiledEntries]
  | _ => cases compiled

/-- A disjunction of branches holds when there are none, or one that accepts the row. -/
theorem accepts_disjunction (branches : List (Option Filter)) :
    Filter.accepts (disjunction branches) row =
      (branches.isEmpty || branches.any fun branch => Filter.accepts branch row) := by
  rw [disjunction]
  split
  · rename_i unconditional
    obtain ⟨branch, member, isNone⟩ := List.any_eq_true.1 unconditional
    rw [Option.isNone_iff_eq_none] at isNone
    subst isNone
    have accepted : (branches.any fun branch => Filter.accepts branch row) = true :=
      List.any_eq_true.2 ⟨none, member, rfl⟩
    rw [accepted, Bool.or_true, Filter.accepts_none]
  · rename_i conditional
    have isMap : branches = (branches.filterMap id).map some := by
      induction branches with
      | nil => rfl
      | cons branch branches inductionHypothesis =>
          rw [List.any_cons, Bool.or_eq_true, not_or] at conditional
          cases branch with
          | none => exact absurd rfl conditional.1
          | some filter => exact congrArg (some filter :: ·) (inductionHypothesis conditional.2)
    rw [Filter.accepts_any]
    generalize branches.filterMap id = filters at isMap
    rw [isMap, List.isEmpty_map, List.any_map]
    rfl

theorem compileAlternatives_accepts
    {index : Nat}
    {items : List Json}
    {branches : List (Option Filter)}
    (compiled : compileAlternatives column path index items = .ok branches) :
    branches.map (fun branch => Filter.accepts branch row) =
      items.map (operatorsHold (operatorHolds column row)) := by
  induction items generalizing index branches with
  | nil =>
      rw [compileAlternatives] at compiled
      cases compiled
      rfl
  | cons item items inductionHypothesis =>
      simp only [compileAlternatives, bind_eq_ok, pure_eq_ok] at compiled
      obtain ⟨branch, compiledFirst, others, compiledOthers, rfl⟩ := compiled
      rw [List.map_cons, List.map_cons, inductionHypothesis compiledOthers,
        compileOperatorObject_accepts (fun _ _ _ => compileOperator_accepts) compiledFirst]

/-- Branches that accept a row where items hold form a disjunction of the items. -/
theorem accepts_disjunction_of_map
    {α : Type}
    {holds : α -> Bool}
    {items : List α}
    {branches : List (Option Filter)}
    (same : branches.map (fun branch => Filter.accepts branch row) = items.map holds) :
    Filter.accepts (disjunction branches) row = (items.isEmpty || items.any holds) := by
  have anySame := congrArg (List.any · id) same
  have emptySame := congrArg List.isEmpty same
  rw [List.isEmpty_map, List.isEmpty_map] at emptySame
  simp only [List.any_map, Function.id_comp] at anySame
  rw [accepts_disjunction, emptySame, ← anySame]

theorem compileColumnOr_accepts
    (compiled : compileColumnOr column path operand = .ok condition) :
    Filter.accepts condition row = alternativesHold column row operand := by
  cases operand with
  | null =>
      cases compiled
      rfl
  | array items =>
      obtain ⟨branches, compiledItems, kept⟩ := bind_eq_ok.1 compiled
      rw [pure_eq_ok] at kept
      rw [← kept, alternativesHold]
      exact accepts_disjunction_of_map (compileAlternatives_accepts compiledItems)
  | _ => cases compiled

/-- The filter of a column entry accepts the rows on which the entry holds. -/
theorem compileColumn_accepts
    {document : Json}
    (compiled : compileColumn column path document = .ok condition) :
    Filter.accepts condition row = columnHolds column row document := by
  refine compileOperatorObject_accepts ?_ compiled
  intro name operand condition compiledEntry
  split at compiledEntry
  · rename_i isOr
    rw [if_pos isOr]
    exact compileColumnOr_accepts compiledEntry
  · rename_i notOr
    rw [if_neg notOr]
    exact compileOperator_accepts compiledEntry

theorem compileColumnEntry_holds
    {columns : List ColumnCodec}
    {key : String}
    {document : Json}
    {conditions : List Filter}
    (compiled : compileColumnEntry columns path key document = .ok conditions) :
    conditions.all (Filter.holds row) = namedColumnHolds columns row key document := by
  rw [compileColumnEntry] at compiled
  split at compiled
  · rename_i column found
    have holds : namedColumnHolds columns row key document = columnHolds column row document := by
      rw [namedColumnHolds, found]
    rw [holds]
    obtain ⟨condition, compiledColumn, kept⟩ := bind_eq_ok.1 compiled
    rw [pure_eq_ok] at kept
    rw [← kept, Filter.all_toList]
    exact compileColumn_accepts compiledColumn
  · cases compiled

end Operators

section Objects

variable {columns : List ColumnCodec} {row : StoredRow}

/-- The conditions of a combinator hold on the rows on which an entry for it holds. -/
theorem combine_holds
    {combinator : Combinator}
    {path key : String}
    {branches : List (Option Filter)}
    {conditions : List Filter}
    {items : List Json}
    (named : Combinator.ofKey? key = some combinator)
    (same : branches.map (fun branch => Filter.accepts branch row) =
      items.map (whereHolds columns row))
    (combined : combinator.combine path branches = .ok conditions) :
    conditions.all (Filter.holds row) = entryHolds columns row key (.array items) := by
  have names : key = "AND" ∧ combinator = .and ∨ key = "OR" ∧ combinator = .or ∨
      key = "NOT" ∧ combinator = .not := by
    grind [Combinator.ofKey?]
  have allSame : (branches.filterMap id).all (Filter.holds row) = allHold columns row items := by
    have mapped := congrArg (List.all · id) same
    simp only [List.all_map, Function.id_comp] at mapped
    rw [Filter.all_filterMap, allHold_eq_all, ← mapped]
  rcases names with ⟨rfl, rfl⟩ | ⟨rfl, rfl⟩ | ⟨rfl, rfl⟩
  · cases combined
    rw [allSame]
    rfl
  · cases combined
    rw [Filter.all_toList, accepts_disjunction_of_map same, ← someHold_eq_any]
    rfl
  · rw [Combinator.combine] at combined
    split at combined
    · rename_i inner found
      cases combined
      have innerHolds := Filter.accepts_all row (branches.filterMap id)
      rw [found, Filter.accepts_some, allSame] at innerHolds
      rw [List.all_cons, List.all_nil, Bool.and_true, Filter.holds, innerHolds]
      rfl
    · cases combined

/-- Null stands for an empty list in an entry for a combinator. -/
theorem entryHolds_null
    {combinator : Combinator}
    {key : String}
    (named : Combinator.ofKey? key = some combinator) :
    entryHolds columns row key .null = entryHolds columns row key (.array []) := by
  have names : key = "AND" ∧ combinator = .and ∨ key = "OR" ∧ combinator = .or ∨
      key = "NOT" ∧ combinator = .not := by
    grind [Combinator.ofKey?]
  rcases names with ⟨rfl, rfl⟩ | ⟨rfl, rfl⟩ | ⟨rfl, rfl⟩ <;> rfl

theorem entryHolds_column
    {key : String}
    {document : Json}
    (named : Combinator.ofKey? key = none) :
    entryHolds columns row key document = namedColumnHolds columns row key document := by
  unfold Combinator.ofKey? at named
  split_ifs at named with isAnd isOr isNot
  rw [entryHolds.eq_def, if_neg isAnd, if_neg isOr, if_neg isNot]

-- The recursion follows the compiler, which calls itself on the items of combinators only.
mutual

/-- The filter of a `where` argument accepts exactly the rows on which the argument holds. -/
theorem compileWhere_accepts :
    (document : Json) -> ∀ {path filter}, compileWhere columns path document = .ok filter ->
      Filter.accepts filter row = whereHolds columns row document
  | .null, path, filter, compiled => by
      rw [compileWhere] at compiled
      cases compiled
      rw [whereHolds]
      rfl
  | .object entries, path, filter, compiled => by
      rw [compileWhere] at compiled
      obtain ⟨conditions, compiledEntries, kept⟩ := bind_eq_ok.1 compiled
      rw [pure_eq_ok] at kept
      rw [← kept, Filter.accepts_all, whereHolds, compileEntries_holds entries compiledEntries]
  | .bool _, path, filter, compiled => by cases compiled
  | .number _, path, filter, compiled => by cases compiled
  | .string _, path, filter, compiled => by cases compiled
  | .array _, path, filter, compiled => by cases compiled

theorem compileEntries_holds :
    (entries : List (String × Json)) -> ∀ {path conditions},
      compileEntries columns path entries = .ok conditions ->
        conditions.all (Filter.holds row) = entriesHold columns row entries
  | [], path, conditions, compiled => by
      rw [compileEntries] at compiled
      cases compiled
      rw [entriesHold]
      rfl
  | (key, document) :: entries, path, conditions, compiled => by
      simp only [compileEntries, bind_eq_ok, pure_eq_ok] at compiled
      obtain ⟨first, compiledFirst, others, compiledOthers, rfl⟩ := compiled
      rw [List.all_append, entriesHold, compileEntry_holds document compiledFirst,
        compileEntries_holds entries compiledOthers]

theorem compileEntry_holds :
    (document : Json) -> ∀ {path key conditions},
      compileEntry columns path key document = .ok conditions ->
        conditions.all (Filter.holds row) = entryHolds columns row key document
  | document, path, key, conditions, compiled => by
      cases named : Combinator.ofKey? key with
      | none =>
          rw [entryHolds_column named]
          rw [compileEntry.eq_def, named] at compiled
          exact compileColumnEntry_holds compiled
      | some combinator =>
          rw [compileEntry.eq_def, named] at compiled
          match document with
          | .null =>
              rw [entryHolds_null named]
              exact combine_holds named rfl compiled
          | .array items =>
              obtain ⟨branches, compiledItems, combined⟩ := bind_eq_ok.1 compiled
              exact combine_holds named (compileBranches_accepts items compiledItems) combined
          | .bool _ => cases compiled
          | .number _ => cases compiled
          | .string _ => cases compiled
          | .object _ => cases compiled

theorem compileBranches_accepts :
    (items : List Json) -> ∀ {path index branches},
      compileBranches columns path index items = .ok branches ->
        branches.map (fun branch => Filter.accepts branch row) =
          items.map (whereHolds columns row)
  | [], path, index, branches, compiled => by
      rw [compileBranches] at compiled
      cases compiled
      rfl
  | item :: items, path, index, branches, compiled => by
      simp only [compileBranches, bind_eq_ok, pure_eq_ok] at compiled
      obtain ⟨branch, compiledFirst, others, compiledOthers, rfl⟩ := compiled
      rw [List.map_cons, List.map_cons, compileWhere_accepts item compiledFirst,
        compileBranches_accepts items compiledOthers]

end

end Objects

/-- Compiling preserves meaning: whatever the argument and wherever it stands, the filter that it is
compiled to accepts a row exactly when the argument, read on the row as it stands, holds. -/
theorem accepts_compileWhere
    (columns : List ColumnCodec)
    (document : Json)
    (path : String)
    (filter : Option Filter)
    (row : StoredRow)
    (compiled : compileWhere columns path document = .ok filter) :
    Filter.accepts filter row = whereHolds columns row document :=
  compileWhere_accepts document compiled

/-- Columns for a number and a text. -/
def noteColumns : List ColumnCodec :=
  [⟨"id", false, .integer 32 false⟩, ⟨"title", true, .text none⟩]

/-- An argument with lists in lists, a branch that always holds and a column's own alternatives. -/
def noteArgument : Json :=
  .object
    [ ("AND", .array [.object [("id", .object [("gt", .int 1)])], .object []]),
      ("OR", .array [.object [("title", .object [("isNull", .bool false)])],
        .object [("id", .object [("eq", .int 7)])]]),
      ("NOT", .array [.object [("title", .object [("like", .string "a%"),
        ("OR", .array [.object [("ne", .string "ab")], .object [("isNotNull", .null)]])])]]) ]

theorem accepts_noteArgument :
    ∃ filter, compileWhere noteColumns "where" noteArgument = .ok filter ∧
      filter.isSome = true ∧
      (∀ row, Filter.accepts filter row = whereHolds noteColumns row noteArgument) ∧
      whereHolds noteColumns [⟨"id", .int 2⟩, ⟨"title", .string "ba"⟩] noteArgument = true ∧
      whereHolds noteColumns [⟨"id", .int 2⟩, ⟨"title", .string "ab"⟩] noteArgument = false :=
  ⟨_, rfl, rfl, fun row => accepts_compileWhere _ _ "where" _ row rfl, by decide +kernel,
    by decide +kernel⟩

end WhereMeaning
end RelationalApi
