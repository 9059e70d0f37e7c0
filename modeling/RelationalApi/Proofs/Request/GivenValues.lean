import RelationalApi.Proofs.Arguments.FoundAgain
import RelationalApi.Proofs.Request.ColumnCalls
import RelationalApi.Proofs.Request.SiblingFields
import RelationalApi.Proofs.Request.WrittenFields
import RelationalApi.Proofs.Scalar.Kinds
import RelationalApi.Proofs.Storage.Defaults

/-!
# Rows found by what was given for them

A row that was inserted with some document in a column is among the rows that equal the document
there, and not among those that differ from it.  Inserts and conditions read the document by the
same codec, and a value that was read is equal to itself; so the row and the two conditions agree on
what the document stands for.
-/

namespace RelationalApi

open Outcome

/-! ## Rows that a value divides -/

/-- Whether a row holds a value under a name, other than null, that is equal to a certain one, or
that is not. -/
def holdsValue (name : String) (value : Value) (isEqual : Bool) (row : StoredRow) : Bool :=
  match present? row name with
  | some stored => stored.equal value == isEqual
  | none => false

/-- The comparison that holds on values that are equal, or on values that are not. -/
def Comparison.ofEquality (isEqual : Bool) : Comparison :=
  if isEqual then .equal else .notEqual

/-- The operator that asks for rows with an equal value, or for those with another one. -/
def equalityOperator (isEqual : Bool) : String :=
  if isEqual then "eq" else "ne"

theorem comparisonOfName?_equalityOperator (isEqual : Bool) :
    comparisonOfName? (equalityOperator isEqual) = some (.ofEquality isEqual) := by
  cases isEqual <;> rfl

theorem accepts_ofEquality (name : String) (value : Value) (isEqual : Bool) :
    Filter.accepts (some (.compare (.ofEquality isEqual) name value)) =
      holdsValue name value isEqual := by
  funext row
  rw [Filter.accepts_some, Filter.holds, holdsValue]
  cases present? row name with
  | none => rfl
  | some stored =>
      cases isEqual
      · exact (beq_false (stored.equal value)).symm
      · exact (beq_true (stored.equal value)).symm

/-- Of two conditions, to be equal and not to be, exactly one holds on a row with a value. -/
theorem holdsValue_true_iff
    {name : String}
    {value : Value}
    {row : StoredRow}
    (isPresent : (present? row name).isSome = true) :
    holdsValue name value true row = true ↔ holdsValue name value false row = false := by
  obtain ⟨stored, isStored⟩ := Option.isSome_iff_exists.1 isPresent
  rw [holdsValue, holdsValue, isStored]
  cases stored.equal value <;> simp

/-! ## Input objects -/

section Inputs

variable {types : TableTypes} {path name : String} {entries : JsonEntries} {document : Json}
variable {values : List FieldValue} {row : StoredRow} {table : Table} {now : Timestamp}

/-- What an input object gives a field is read by the codec of the column. -/
theorem exists_read_of_readInputFields
    {fields : List InputField}
    (isField : name ∈ fields.map (·.name))
    (given : entries.lookup name = some document)
    (read : readInputFields types path entries fields = .ok values) :
    ∃ codec value path, types.column? name = some codec ∧
      codec.decode document path = .ok value ∧ fieldValue? values name = some value := by
  induction fields generalizing values with
  | nil => cases isField
  | cons field fields inductionHypothesis =>
      rw [readInputFields.eq_def] at read
      dsimp only at read
      by_cases isNamed : field.name = name
      · rw [isNamed, given] at read
        split at read
        · contradiction
        · cases read
        · rename_i other column isGiven isColumn
          cases isGiven
          simp only [bind_eq_ok, pure_eq_ok] at read
          obtain ⟨value, decoded, others, _, rfl⟩ := read
          exact ⟨column, value, _, isColumn, decoded, by rw [fieldValue?_cons, if_pos rfl]⟩
      · have isLater : name ∈ fields.map (·.name) :=
          (List.mem_cons.1 isField).resolve_left (Ne.symm isNamed)
        split at read
        · split at read
          · cases read
          · exact inductionHypothesis isLater read
        · cases read
        · simp only [bind_eq_ok, pure_eq_ok] at read
          obtain ⟨first, _, others, readOthers, rfl⟩ := read
          obtain ⟨codec, value, codecPath, isColumn, decoded, held⟩ :=
            inductionHypothesis isLater readOthers
          refine ⟨codec, value, codecPath, isColumn, decoded, ?_⟩
          rw [fieldValue?_cons, if_neg isNamed, held]

/-- A row that was completed from an input object holds what the object gives a field. -/
theorem exists_read_of_completeRow
    {fields : List InputField}
    {rows : List StoredRow}
    (given : entries.lookup name = some document)
    (read : readInputRow types fields path entries = .ok values)
    (completed : Store.completeRow table now rows values = .ok row) :
    ∃ codec value path, types.column? name = some codec ∧
      codec.decode document path = .ok value ∧ fieldValue? row name = some value := by
  obtain ⟨known, readFields⟩ := readInputRow_eq_ok.1 read
  have isField : name ∈ fields.map (·.name) := known _ (JsonEntries.mem_of_lookup given)
  obtain ⟨codec, value, codecPath, isColumn, decoded, held⟩ :=
    exists_read_of_readInputFields isField given readFields
  obtain ⟨areColumns, completedFields, _⟩ := Store.completeRow_eq_ok.1 completed
  have isStored : name ∈ table.columnNames := by
    refine Store.checkColumns_eq_ok.1 areColumns name ((isSome_fieldValue?_iff values name).1 ?_)
    rw [held]
    rfl
  exact ⟨codec, value, codecPath, isColumn, decoded,
    Store.fieldValue?_of_given completedFields isStored held⟩

/-- A row that holds what a column reads from a document, other than null, holds a value that is
equal to it. -/
theorem holdsValue_of_decode
    {codec : ColumnCodec}
    {value : Value}
    (wellFormed : document.isWellFormed = true)
    (notNull : document ≠ .null)
    (decoded : codec.decode document path = .ok value)
    (held : fieldValue? row name = some value) :
    holdsValue name value true row = true := by
  rcases ColumnCodec.decode_eq_ok.1 decoded with ⟨isNull, _⟩ | ⟨_, read⟩
  · exact absurd isNull notNull
  · rw [holdsValue, present?_eq_some.2 ⟨held, codec.codec.isNull_of_read read⟩]
    dsimp only
    rw [codec.codec.equal_self_of_read wellFormed read]
    rfl

end Inputs

namespace Store

variable {table : Table} {now : Timestamp} {action : ConflictAction}

/-- The rows that an insert admits are completed from some of the given ones, in their order. -/
theorem exists_admitted
    {α : Type}
    {related : α -> List FieldValue -> Prop}
    {inputs : List α}
    {rows : List (List FieldValue)}
    {stored pending inserted : List StoredRow}
    (pairs : List.Forall₂ related inputs rows)
    (admitted : admitRows table now action stored pending rows = .ok inserted) :
    ∃ added sources, inserted = pending ++ added ∧ sources.Sublist inputs ∧
      List.Forall₂ (fun row input => ∃ given before, related input given ∧
        completeRow table now before given = .ok row) added sources := by
  induction pairs generalizing pending with
  | nil =>
      rw [admitRows] at admitted
      cases admitted
      exact ⟨[], [], (List.append_nil _).symm, .slnil, .nil⟩
  | @cons input given inputs rows isRelated _ inductionHypothesis =>
      rw [admitRows, bind_eq_ok] at admitted
      obtain ⟨row, completed, rest⟩ := admitted
      split at rest
      · obtain ⟨added, sources, rfl, inOrder, areAdded⟩ := inductionHypothesis rest
        exact ⟨row :: added, input :: sources, List.append_assoc _ _ _, inOrder.cons_cons input,
          .cons ⟨given, _, isRelated, completed⟩ areAdded⟩
      · obtain ⟨added, sources, rfl, inOrder, areAdded⟩ := inductionHypothesis rest
        exact ⟨added, sources, rfl, inOrder.cons input, areAdded⟩
      · cases rest

end Store

/-! ## Answers of selects -/

namespace Interface

variable {interface : Interface} {schema storage : Schema} {config : EngineConfig}
variable {table : Table} {types : TableTypes} {selection : Selection} {arguments : JsonEntries}
variable {now : Timestamp} {store changed : Store} {answer : Json}

/-- What a select of many rows shows of a stored row. -/
def AnswersRow (interface : Interface) (storage : Schema) (store : Store) (table : String)
    (selection : Selection) (stored : StoredRow) (item : Json) : Prop :=
  ∃ types plan query row, interface.table? table = some types ∧
    interface.prune (interface.topShape table) (OperationKind.selectMany.operationName table)
      selection = .ok plan ∧
    plan.toQuery interface types {} "" = .ok query ∧
    Store.Returns storage store query stored row ∧
    fillObject interface plan.output row = .ok item

/-- An answer shows certain stored rows, one after another. -/
def AnswersWith (interface : Interface) (storage : Schema) (store : Store) (table : String)
    (selection : Selection) (rows : List StoredRow) (answer : Json) : Prop :=
  ∃ items, answer = .array items ∧
    List.Forall₂ (interface.AnswersRow storage store table selection) rows items

/-- A condition changes in the query for a plan nothing but its filter. -/
theorem toQuery_where
    {plan : SelectionPlan}
    {document : Json}
    {query : SelectQuery} :
    plan.toQuery interface types { filter := document } "" = .ok query ↔
      ∃ filter unfiltered, compileWhere types.columns "where" document = .ok filter ∧
        plan.toQuery interface types {} "" = .ok unfiltered ∧
        { unfiltered with filter := filter } = query := by
  simp only [toQuery_eq_ok]
  constructor
  · rintro ⟨filter, orderBy, includes, filters, orders, pairs, rfl⟩
    exact ⟨filter, _, filters, ⟨none, orderBy, includes, compileWhere.eq_1 _ _, orders, pairs, rfl⟩,
      rfl⟩
  · rintro ⟨filter, _, filters, ⟨_, orderBy, includes, _, orders, pairs, rfl⟩, rfl⟩
    exact ⟨filter, orderBy, includes, filters, orders, pairs, rfl⟩

section Selects

variable (represents : interface.Represents schema config) (member : table ∈ schema.tables)
variable (found : interface.table? table.name = some types) (onlyWhere : OnlyWhere arguments)

include represents member found onlyWhere

/-- A select that is given only a condition compiles if the condition does and the select of all
rows does. -/
theorem Represents.compiles_selectMany
    {filter : Option Filter}
    {whole : CompiledOperation}
    (compiles : compileWhere types.columns "where" (whereOf arguments) = .ok filter)
    (compilesWhole : interface.compile (OperationKind.selectMany.operationName table.name) []
      selection = .ok whole) :
    ∃ compiled, interface.compile (OperationKind.selectMany.operationName table.name) arguments
      selection = .ok compiled := by
  have isOperation := represents.operation?_name member .selectMany
  obtain ⟨_, _, plan, unfiltered, read, isTable, pruned, queried, _⟩ :=
    (compile_selectMany_eq_ok isOperation rfl).1 compilesWhole
  cases Option.some.inj (found.symm.trans isTable)
  have noCondition : OnlyWhere [] := fun argument member => absurd member List.not_mem_nil
  rw [noCondition.read_selectMany] at read
  cases read
  exact ⟨_, (compile_selectMany_eq_ok isOperation rfl).2 ⟨_, types, plan, _,
    onlyWhere.read_selectMany table.name, found, pruned,
    toQuery_where.2 ⟨filter, unfiltered, compiles, queried, rfl⟩, rfl⟩⟩

/-- A select that is given only a condition shows, in their stored order, the rows that the
condition holds on. -/
theorem Represents.answersWith_of_execute
    (succeeded : interface.execute (Store.executor storage now)
      (OperationKind.selectMany.operationName table.name) arguments selection store
        = (.ok answer, changed)) :
    changed = store ∧ ∃ filter,
      compileWhere types.columns "where" (whereOf arguments) = .ok filter ∧
        interface.AnswersWith storage store table.name selection
          ((store.rows table.name).filter (Filter.accepts filter)) answer := by
  obtain ⟨kept, given, _, plan, query, rows, items, read, isTable, pruned, queried, selects, filled,
    rfl⟩ := (execute_selectMany_eq_ok (represents.operation?_name member .selectMany) rfl).1
      succeeded
  cases Option.some.inj (found.symm.trans isTable)
  rw [onlyWhere.read_selectMany] at read
  cases read
  obtain ⟨filter, unfiltered, compiles, queriedWhole, rfl⟩ := toQuery_where.1 queried
  have plain : unfiltered.table = table.name ∧ unfiltered.orderBy = [] ∧
      unfiltered.offset = none ∧ unfiltered.limit = none := by
    obtain ⟨_, _, _, _, orders, _, rfl⟩ := toQuery_eq_ok.1 queriedWhole
    cases orders
    exact ⟨name_of_table? found, rfl, rfl, rfl⟩
  obtain ⟨isNamed, unordered, offset, limit⟩ := plain
  have selected : Store.selected { unfiltered with filter := filter }
      (store.rows unfiltered.table) =
        (store.rows table.name).filter (Filter.accepts filter) := by
    rw [← isNamed]
    exact @Store.selected_eq_filter { unfiltered with filter := filter } unordered offset limit _
  rw [Store.select, Store.selectFrom_eq_ok, selected] at selects
  refine ⟨kept.symm, filter, compiles, items, rfl, ?_⟩
  refine forall₂_trans ?_ selects.2 (mapM_eq_ok.1 filled)
  intro stored _ row item returned fills
  exact ⟨types, plan, unfiltered, row, found, pruned, queriedWhole, returned, fills⟩

end Selects

/-! ## Rows behind an insert -/

/-- The arguments that compare a column with a document. -/
def comparing (operator name : String) (document : Json) : JsonEntries :=
  [("where", .object [(name, .object [(operator, document)])])]

theorem onlyWhere_comparing (operator name : String) (document : Json) :
    OnlyWhere (comparing operator name document) := by
  intro argument isArgument
  rw [List.mem_singleton.1 isArgument]

/-- A condition on a column is compiled to the comparison with the value that the column reads from
the document, which it reads there as it does elsewhere. -/
theorem compileWhere_comparing
    {name path : String}
    {document : Json}
    {value : Value}
    {codec : ColumnCodec}
    (isColumn : types.column? name = some codec)
    (isPlain : Combinator.ofKey? name = none)
    (notNull : document ≠ .null)
    (decoded : codec.decode document path = .ok value)
    (isEqual : Bool) :
    compileWhere types.columns "where"
        (whereOf (comparing (equalityOperator isEqual) name document)) =
      .ok (some (.compare (.ofEquality isEqual) name value)) := by
  have isNamed : codec.column = name := by simpa using List.find?_some isColumn
  have isOperand : document.isNull = false := by
    cases document <;> first | rfl | exact absurd rfl notNull
  have readAnywhere : ∀ path, codec.decodeNonNull document path = .ok value := fun path =>
    ((ColumnCodec.decode_eq_ok.1 (ColumnCodec.decode_anywhere decoded path)).resolve_left
      fun ⟨isNull, _⟩ => notNull isNull).2
  change compileWhere types.columns "where" (.object _) = _
  rw [compileWhere_comparison (comparisonOfName?_equalityOperator isEqual) isColumn isPlain
    isOperand, readAnywhere, isNamed]
  rfl

/-- The selects of the rows that equal a document in a column and of those that do not divide the
rows of a table that have a value there.  Both compile where the select of all rows does, and show
the rows whose value is equal to the one that the document stands for, and the other ones. -/
structure Divides (interface : Interface) (storage : Schema) (store : Store) (table name : String)
    (document : Json) (value : Value) : Prop where
  compiles : ∀ isEqual selection whole,
    interface.compile (OperationKind.selectMany.operationName table) [] selection = .ok whole ->
      ∃ compiled, interface.compile (OperationKind.selectMany.operationName table)
        (comparing (equalityOperator isEqual) name document) selection = .ok compiled
  answers : ∀ isEqual selection now answer changed,
    interface.execute (Store.executor storage now) (OperationKind.selectMany.operationName table)
        (comparing (equalityOperator isEqual) name document) selection store
        = (.ok answer, changed) ->
      changed = store ∧ interface.AnswersWith storage store table selection
        ((store.rows table).filter (holdsValue name value isEqual)) answer
  exactlyOne : ∀ row ∈ store.rows table, (present? row name).isSome = true ->
    (holdsValue name value true row = true ↔ holdsValue name value false row = false)

/-- A stored row is found by every value that an input object gives a column whose name does not
combine conditions. -/
def FindsGiven (interface : Interface) (storage : Schema) (store : Store) (table : String)
    (row : StoredRow) (entries : JsonEntries) : Prop :=
  ∀ name document, entries.lookup name = some document -> document ≠ .null ->
    document.isWellFormed = true -> Combinator.ofKey? name = none ->
      ∃ value, fieldValue? row name = some value ∧ holdsValue name value true row = true ∧
        interface.Divides storage store table name document value

section Inserts

variable (represents : interface.Represents schema config) (member : table ∈ schema.tables)
variable (found : interface.table? table.name = some types)

include represents member found

/-- What a column reads from a document divides the rows of its table. -/
theorem Represents.divides
    {name path : String}
    {document : Json}
    {value : Value}
    {codec : ColumnCodec}
    (isColumn : types.column? name = some codec)
    (isPlain : Combinator.ofKey? name = none)
    (notNull : document ≠ .null)
    (decoded : codec.decode document path = .ok value)
    (storage : Schema)
    (store : Store) :
    interface.Divides storage store table.name name document value := by
  have compiled := compileWhere_comparing isColumn isPlain notNull decoded
  have onlyWhere := fun isEqual => onlyWhere_comparing (equalityOperator isEqual) name document
  refine ⟨fun isEqual selection whole compilesWhole => ?_,
    fun isEqual selection now answer changed succeeded => ?_, fun row _ => holdsValue_true_iff⟩
  · exact represents.compiles_selectMany member found (onlyWhere isEqual) (compiled isEqual)
      compilesWhole
  · obtain ⟨kept, filter, compiles, answered⟩ :=
      represents.answersWith_of_execute member found (onlyWhere isEqual) succeeded
    cases Except.ok.inj (compiles.symm.trans (compiled isEqual))
    rw [accepts_ofEquality] at answered
    exact ⟨kept, answered⟩

/-- Whatever becomes of an insert, it puts behind the stored rows only ones that are completed from
some of its input objects, in their order. -/
theorem Represents.exists_added
    {kind : OperationKind}
    {given : List JsonEntries}
    {outcome : Except EngineError Json}
    (read : OperationArguments.read ⟨kind, table.name⟩ arguments = .ok (.insert given))
    (executed : interface.execute (Store.executor storage now) (kind.operationName table.name)
      arguments selection store = (outcome, changed)) :
    ∃ added sources, changed.rows table.name = store.rows table.name ++ added ∧
      sources.Sublist given ∧
      List.Forall₂ (fun row entries => ∃ path values stored before,
        readInputRow types (insertFields types.table types.columns) path entries = .ok values ∧
          Store.completeRow stored now before values = .ok row) added sources := by
  rw [execute] at executed
  cases compiles : interface.compile (kind.operationName table.name) arguments selection with
  | error fault =>
      rw [compiles] at executed
      cases executed
      exact ⟨[], [], (List.append_nil _).symm, List.nil_sublist _, .nil⟩
  | ok compiled =>
      rw [compiles] at executed
      obtain ⟨_, _, _, readAgain, compilesInsert, rfl⟩ :=
        (represents.compile_eq_ok member found).1 compiles
      cases Except.ok.inj (read.symm.trans readAgain)
      simp only [compileArguments, bind_eq_ok, pure_eq_ok, Prod.exists, Prod.mk.injEq]
        at compilesInsert
      obtain ⟨_, _, _, rows, readRows, rfl, rfl⟩ := compilesInsert
      have isChanged : (store.apply storage now _).2 = changed := congrArg Prod.snd executed
      rw [Store.apply] at isChanged
      split at isChanged
      · rename_i mutated
        cases isChanged
        obtain ⟨stored, added, isTable, admitted, _, rfl⟩ := Store.insert_eq_ok.1 mutated
        obtain ⟨_, sources, rfl, inOrder, areAdded⟩ :=
          Store.exists_admitted (readInsertRows_eq_ok readRows) admitted
        have sameName : stored.name = table.name :=
          (Schema.name_of_table? isTable).trans (name_of_table? found)
        refine ⟨added, sources, ?_, inOrder, areAdded.imp ?_⟩
        · rw [sameName, Store.rows_setRows]
        · rintro row entries ⟨values, before, ⟨path, readRow⟩, completed⟩
          exact ⟨path, values, stored, before, readRow, completed⟩
      · cases isChanged
        exact ⟨[], [], (List.append_nil _).symm, List.nil_sublist _, .nil⟩

end Inserts

/-- Rows are found by the values that they were inserted with.  After an insert, however it is
answered, every row that it has put behind the stored ones belongs to one of its input objects.  For
a column whose name does not combine conditions and a document other than null that the object gives
it, the row holds a value that is equal to what the document stands for; and the selects of the rows
that equal the document there and of those that do not divide the rows of the table by this
value. -/
theorem given_values_find_rows
    {kind : OperationKind}
    {given : List JsonEntries}
    {outcome : Except EngineError Json}
    (generated : generate schema config = .ok interface)
    (member : table ∈ schema.tables)
    (read : OperationArguments.read ⟨kind, table.name⟩ arguments = .ok (.insert given))
    (executed : interface.execute (Store.executor storage now) (kind.operationName table.name)
      arguments selection store = (outcome, changed)) :
    ∃ added sources, changed.rows table.name = store.rows table.name ++ added ∧
      sources.Sublist given ∧
      List.Forall₂ (interface.FindsGiven storage changed table.name) added sources := by
  have represents := represents_of_generate generated
  obtain ⟨types, _, _, found⟩ := represents.exists_table? member
  obtain ⟨added, sources, stored, inOrder, areAdded⟩ :=
    represents.exists_added member found read executed
  refine ⟨added, sources, stored, inOrder, areAdded.imp ?_⟩
  rintro row entries ⟨path, values, _, _, readRow, completed⟩ name document isGiven notNull
    wellFormed isPlain
  obtain ⟨codec, value, _, isColumn, decoded, held⟩ :=
    exists_read_of_completeRow isGiven readRow completed
  exact ⟨value, held, holdsValue_of_decode wellFormed notNull decoded held,
    represents.divides member found isColumn isPlain notNull decoded storage changed⟩

/-- Bins with the counts of what is in them. -/
def bins : Table where
  name := "bins"
  columns :=
    [ { name := "id", kind := .integer 32 false, primaryKey := true },
      { name := "counts", kind := .array (.integer 32 false), nullable := true } ]

/-- A bin with two counts, and one that was not counted. -/
def countedBins : Store :=
  ⟨[("bins", [[⟨"id", .int 1⟩, ⟨"counts", .array [.int 7, .int 8]⟩],
    [⟨"id", .int 2⟩, ⟨"counts", .null⟩]])]⟩

/-- Another bin, with the counts in another order. -/
def thirdBin : JsonEntries :=
  [("id", .int 3), ("counts", .array [.int 8, .int 7])]

theorem given_values_find_rows_bins :
    let schema := Schema.empty.withTable bins
    ∃ interface changed row value, generate schema {} = .ok interface ∧
      changed.rows "bins" = countedBins.rows "bins" ++ [row] ∧
      interface.Divides schema changed "bins" "counts" (.array [.int 8, .int 7]) value ∧
      (changed.rows "bins").map (holdsValue "counts" value true) = [false, false, true] ∧
      (changed.rows "bins").map (holdsValue "counts" value false) = [true, false, false] := by
  intro schema
  let arguments : JsonEntries := [("values", .object thirdBin)]
  let inserted (interface : Interface) : Store :=
    (interface.execute (Store.executor schema default)
      (OperationKind.insertOne.operationName "bins") arguments [] countedBins).2
  have runs : ((generate schema {}).toOption.map fun interface =>
      ((inserted interface).rows "bins").length) = some 3 := by
    decide +kernel
  have divided : ((generate schema {}).toOption.bind fun interface =>
      (((inserted interface).rows "bins").getLast?.bind (fieldValue? · "counts")).map fun value =>
        [true, false].map fun isEqual =>
          ((inserted interface).rows "bins").map (holdsValue "counts" value isEqual)) =
      some [[false, false, true], [true, false, false]] := by
    decide +kernel
  obtain ⟨interface, generated, length⟩ := Option.map_eq_some_iff.1 runs
  rw [generated, Option.bind_some] at divided
  rw [toOption_eq_some] at generated
  have read : OperationArguments.read ⟨.insertOne, "bins"⟩ arguments = .ok (.insert [thirdBin]) :=
    rfl
  obtain ⟨added, sources, stored, inOrder, finds⟩ :=
    given_values_find_rows generated (List.mem_cons_self : bins ∈ schema.tables) read
      (Prod.ext rfl rfl : interface.execute (Store.executor schema default) _ arguments []
        countedBins = (_, inserted interface))
  change (inserted interface).rows "bins" = countedBins.rows "bins" ++ added at stored
  have one : added.length = 1 := by
    rw [stored, List.length_append] at length
    exact Nat.add_left_cancel length
  obtain ⟨row, rfl⟩ := List.length_eq_one_iff.1 one
  rw [stored, List.getLast?_concat, Option.bind_some] at divided
  obtain ⟨value, held, divides⟩ := Option.map_eq_some_iff.1 divided
  cases finds with
  | @cons _ entries _ _ findsGiven _ =>
      cases List.mem_singleton.1 (inOrder.subset List.mem_cons_self)
      obtain ⟨_, heldAgain, _, divisible⟩ :=
        findsGiven "counts" (.array [.int 8, .int 7]) rfl Json.noConfusion (by decide) rfl
      cases Option.some.inj (held.symm.trans heldAgain)
      rw [List.map_cons, List.map_cons, List.map_nil, List.cons.injEq, List.cons.injEq] at divides
      exact ⟨interface, inserted interface, row, value, generated, stored, divisible,
        stored ▸ divides.1, stored ▸ divides.2.1⟩

end Interface

end RelationalApi
