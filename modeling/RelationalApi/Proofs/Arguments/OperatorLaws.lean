import RelationalApi.Proofs.Arguments.FoundAgain
import RelationalApi.Proofs.Arguments.WhereMeaning

/-!
# Laws of operators

What one operator of a column tests on rows, next to what its siblings test.  The comparisons that
include equality hold where the strict comparison or equality does, on every column whose values are
ordered; documents and lists have an equality but no order, so there they never hold.  The operators
for lists test what the comparisons with the single operands test, except that a column of documents
reads a null in a list, which no comparison takes.
-/

namespace RelationalApi

open Outcome

open RelationalApi.WhereMeaning (operand? operand?_eq_some holds_compare holds_member)

/-- A value of a kind that has an order. -/
def Value.isOrdered : Value -> Bool
  | .json _ => false
  | .array _ => false
  | _ => true

/-- A codec whose values have an order. -/
def Codec.isOrdered : Codec -> Bool
  | .json => false
  | .list _ => false
  | _ => true

namespace Value

variable {stored value : Value}

/-- Between values that have an order, equality is that of the order. -/
theorem equal_of_isOrdered (ordered : value.isOrdered = true) :
    stored.equal value = (stored.order? value == some .eq) := by
  apply equal_eq_order
  · rintro _ _ _ rfl
    cases ordered
  · rintro _ _ _ rfl
    cases ordered

theorem order?_of_not_isOrdered (unordered : value.isOrdered = false) :
    stored.order? value = none := by
  cases value with
  | json document => cases stored <;> rfl
  | array items => cases stored <;> rfl
  | _ => cases unordered

/-- A comparison that includes equality holds where the strict one does, and where equality does if
there is an order. -/
theorem holds_inclusive {inclusive strict : Comparison}
    (pair : (inclusive, strict) ∈
      [(Comparison.lessOrEqual, Comparison.less), (.greaterOrEqual, .greater)]) :
    inclusive.holds stored value =
      (strict.holds stored value || (value.isOrdered && stored.equal value)) := by
  simp only [List.mem_cons, List.not_mem_nil, or_false, Prod.mk.injEq] at pair
  cases ordered : value.isOrdered with
  | true =>
      rw [equal_of_isOrdered ordered]
      rcases pair with ⟨rfl, rfl⟩ | ⟨rfl, rfl⟩ <;> rfl
  | false =>
      rcases pair with ⟨rfl, rfl⟩ | ⟨rfl, rfl⟩ <;>
        simp [Comparison.holds, order?_of_not_isOrdered ordered]

end Value

namespace Codec

variable {codec : Codec} {document : Json} {path : String} {value : Value}

/-- Values have an order where their codec has one. -/
theorem isOrdered_of_read (succeeded : codec.read document path = .ok value) :
    value.isOrdered = codec.isOrdered := by
  rcases read_eq_ok succeeded with
    ⟨_, _, rfl, read⟩ | ⟨_, rfl, read⟩ | ⟨_, _, _, rfl, _, _, rfl⟩ | plain
  · rcases readInteger_kind read with ⟨_, rfl⟩ | ⟨_, rfl⟩ <;> rfl
  · obtain ⟨_, _, rfl⟩ := readText_eq_ok read
    rfl
  · rfl
  · unfold plainValue? at plain
    split at plain <;>
      grind [Option.map_eq_some_iff, Value.isOrdered, Codec.isOrdered]

/-- Only documents are read from null. -/
theorem eq_json_of_read_null (succeeded : codec.read .null path = .ok value) : codec = .json := by
  rcases read_eq_ok succeeded with
    ⟨_, _, _, read⟩ | ⟨_, _, read⟩ | ⟨_, _, _, _, impossible, _⟩ | plain
  · rcases readInteger_eq_ok read with ⟨_, _, impossible, _⟩ | ⟨_, _, _, impossible, _⟩ <;>
      cases impossible
  · obtain ⟨_, impossible, _⟩ := readText_eq_ok read
    cases impossible
  · cases impossible
  · cases codec <;> first | rfl | cases plain

end Codec

namespace ColumnCodec

variable {column : ColumnCodec} {path name : String} {operand : Json} {items : List Json}
variable {test : StoredRow -> Bool}

/-- What one operator of a column tests on rows, if it compiles with an operand. -/
def operatorTest (column : ColumnCodec) (path name : String) (operand : Json) :
    Except ArgumentError (StoredRow -> Bool) :=
  (compileColumn column path (.object [(name, operand)])).map Filter.accepts

theorem decodeNonNull_eq_ok {value : Value} :
    column.decodeNonNull operand path = .ok value ↔ operand? column operand = some value := by
  refine ⟨operand?_eq_some, fun isOperand => ?_⟩
  rw [operand?, decodeNonNull, Codec.read_toOption column.codec operand "" path] at isOperand
  exact toOption_eq_some.1 isOperand

/-- Whether the value of a column passes a test, on the rows where it is not null. -/
def onPresent (column : ColumnCodec) (passes : Value -> Bool) (row : StoredRow) : Bool :=
  (present? row column.column).any passes

/-- A single operator is the only condition of its object. -/
theorem operatorTest_eq_ok (notAlternatives : name ≠ "OR") :
    column.operatorTest path name operand = .ok test ↔
      ∃ condition, compileOperator column path name operand = .ok condition ∧
        Filter.accepts condition = test := by
  rw [operatorTest, compileColumn, compileOperatorObject, compileOperators, compileOperators,
    if_neg notAlternatives]
  cases compileOperator column path name operand with
  | error fault => simp [Except.map, bind, Except.bind]
  | ok condition => cases condition <;> simp [Except.map, bind, Except.bind, pure, Except.pure]

theorem compileComparison_eq_ok {comparison : Comparison} {condition : Option Filter} :
    compileComparison column comparison operand path = .ok condition ↔
      operand ≠ .null ∧ ∃ value, operand? column operand = some value ∧
        some (.compare comparison column.column value) = condition := by
  have reads : ∀ value, operand? column operand = some value ↔
      column.decodeNonNull operand path = .ok value :=
    fun _ => decodeNonNull_eq_ok.symm
  simp only [compileComparison, reads]
  cases operand with
  | null => simp [Json.isNull]
  | _ =>
      rw [Json.isNull, if_neg Bool.false_ne_true, bind_eq_ok]
      · simp [pure_eq_ok]
      all_goals simp

/-- A comparison compiles with the operands other than null that the column reads. -/
theorem operatorTest_comparison {comparison : Comparison}
    (named : comparisonOfName? name = some comparison) :
    column.operatorTest path name operand = .ok test ↔
      operand ≠ .null ∧ ∃ value, operand? column operand = some value ∧
        column.onPresent (comparison.holds · value) = test := by
  have notAlternatives : name ≠ "OR" := by
    rintro rfl
    cases named
  have accepts : ∀ value, Filter.accepts (some (.compare comparison column.column value)) =
      column.onPresent (comparison.holds · value) := by
    intro value
    funext row
    rw [Filter.accepts_some, holds_compare, onPresent]
  rw [operatorTest_eq_ok notAlternatives, compileOperator_comparison named]
  constructor
  · rintro ⟨_, compiled, rfl⟩
    obtain ⟨notNull, value, isOperand, rfl⟩ := compileComparison_eq_ok.1 compiled
    exact ⟨notNull, value, isOperand, (accepts value).symm⟩
  · rintro ⟨notNull, value, isOperand, rfl⟩
    exact ⟨_, compileComparison_eq_ok.2 ⟨notNull, value, isOperand, rfl⟩, accepts value⟩

/-- A list is read where each of its items is an operand. -/
theorem readItems_decodeNonNull_eq_ok {index : Nat} {values : List Value} :
    readItems column.decodeNonNull path index items = .ok values ↔
      List.Forall₂ (fun item value => operand? column item = some value) items values :=
  counted_eq_ok (readItems column.decodeNonNull path) (fun _ => rfl) (fun _ _ _ => rfl)
    fun _ _ _ => decodeNonNull_eq_ok

/-- A test for membership compiles with the lists of which the column reads every item. -/
theorem operatorTest_membership {negated : Bool}
    (named : membershipOfName? name = some negated) :
    column.operatorTest path name (.array items) = .ok test ↔
      ∃ values, List.Forall₂ (fun item value => operand? column item = some value) items values ∧
        column.onPresent (fun stored => (values.any (stored.equal ·)) != negated) = test := by
  have names : name = "inArray" ∨ name = "notInArray" := by
    rw [membershipOfName?] at named
    split_ifs at named with isMember isNotMember
    · exact .inl isMember
    · exact .inr isNotMember
  have notAlternatives : name ≠ "OR" := by
    rcases names with rfl | rfl <;> decide
  have isMembership : compileOperator column path name (.array items) =
      compileMembership column negated (.array items) (joinPath path name) := by
    rcases names with rfl | rfl <;> cases named <;> rfl
  have accepts : ∀ values, Filter.accepts (some (.member negated column.column values)) =
      column.onPresent fun stored => (values.any (stored.equal ·)) != negated := by
    intro values
    funext row
    rw [Filter.accepts_some, holds_member, onPresent]
  rw [operatorTest_eq_ok notAlternatives, isMembership, compileMembership]
  simp only [bind_eq_ok, pure_eq_ok, readItems_decodeNonNull_eq_ok]
  constructor
  · rintro ⟨_, ⟨values, areOperands, rfl⟩, rfl⟩
    exact ⟨values, areOperands, (accepts values).symm⟩
  · rintro ⟨values, areOperands, rfl⟩
    exact ⟨_, ⟨values, areOperands, rfl⟩, accepts values⟩

/-! ## Comparisons that include equality -/

/-- An inclusive comparison holds on a row, for every operand that it compiles with, where the
strict comparison or equality does. -/
def IncludesEquality (column : ColumnCodec) (inclusive strict : String) : Prop :=
  ∀ path operand test, column.operatorTest path inclusive operand = .ok test ->
    ∃ strictTest equalTest, column.operatorTest path strict operand = .ok strictTest ∧
      column.operatorTest path "eq" operand = .ok equalTest ∧
        ∀ row, test row = (strictTest row || equalTest row)

/-- What an inclusive comparison tests: the strict comparison, and equality where values have an
order. -/
theorem operatorTest_inclusive {inclusive strict : String}
    (pair : (inclusive, strict) ∈ [("lte", "lt"), ("gte", "gt")])
    (compiled : column.operatorTest path inclusive operand = .ok test) :
    ∃ strictTest equalTest, column.operatorTest path strict operand = .ok strictTest ∧
      column.operatorTest path "eq" operand = .ok equalTest ∧
        ∀ row, test row = (strictTest row || (column.codec.isOrdered && equalTest row)) := by
  obtain ⟨comparison, strictComparison, named, strictNamed, ofPair⟩ :
      ∃ comparison strictComparison, comparisonOfName? inclusive = some comparison ∧
        comparisonOfName? strict = some strictComparison ∧ (comparison, strictComparison) ∈
          [(Comparison.lessOrEqual, Comparison.less), (.greaterOrEqual, .greater)] := by
    simp only [List.mem_cons, List.not_mem_nil, or_false, Prod.mk.injEq] at pair
    rcases pair with ⟨rfl, rfl⟩ | ⟨rfl, rfl⟩
    · exact ⟨_, _, rfl, rfl, by simp⟩
    · exact ⟨_, _, rfl, rfl, by simp⟩
  have equalNamed : comparisonOfName? "eq" = some .equal := rfl
  obtain ⟨notNull, value, isOperand, isTest⟩ := (operatorTest_comparison named).1 compiled
  have isRead : column.decodeNonNull operand path = .ok value := decodeNonNull_eq_ok.2 isOperand
  have ordered : value.isOrdered = column.codec.isOrdered := Codec.isOrdered_of_read isRead
  refine ⟨_, _, (operatorTest_comparison strictNamed).2 ⟨notNull, value, isOperand, rfl⟩,
    (operatorTest_comparison equalNamed).2 ⟨notNull, value, isOperand, rfl⟩, fun row => ?_⟩
  rw [← isTest, onPresent, onPresent, onPresent, ← ordered]
  cases present? row column.column with
  | none => simp
  | some stored => exact Value.holds_inclusive ofPair

/-- A column whose values have no order has values that equal themselves. -/
theorem exists_equal_of_not_isOrdered (unordered : column.codec.isOrdered = false) :
    ∃ operand value, operand ≠ Json.null ∧ operand? column operand = some value ∧
      value.isNull = false ∧ value.isOrdered = false ∧ value.equal value = true := by
  obtain ⟨name, nullable, codec⟩ := column
  cases codec with
  | json => exact ⟨.bool true, .json (.bool true), by simp, rfl, rfl, rfl, rfl⟩
  | list element => exact ⟨.array [], .array [], by simp, rfl, rfl, rfl, rfl⟩
  | _ => cases unordered

/-- A column with a comparison that includes equality has values with an order: the others hold no
value that is less than or equal to itself. -/
theorem isOrdered_of_includesEquality (includes : column.IncludesEquality "lte" "lt") :
    column.codec.isOrdered = true := by
  by_contra unordered
  rw [Bool.not_eq_true] at unordered
  obtain ⟨operand, value, notNull, isOperand, valueNotNull, valueUnordered, isEqual⟩ :=
    exists_equal_of_not_isOrdered unordered
  have named : comparisonOfName? "lte" = some .lessOrEqual := rfl
  have equalNamed : comparisonOfName? "eq" = some .equal := rfl
  have compiled : column.operatorTest "" "lte" operand = .ok _ :=
    (operatorTest_comparison named).2 ⟨notNull, value, isOperand, rfl⟩
  obtain ⟨strictTest, equalTest, _, compiledEqual, holds⟩ := includes _ _ _ compiled
  have isPresent : present? [⟨column.column, value⟩] column.column = some value := by
    simp [present?, fieldValue?, valueNotNull]
  have equals : equalTest [⟨column.column, value⟩] = true := by
    obtain ⟨_, again, isAgain, rfl⟩ := (operatorTest_comparison equalNamed).1 compiledEqual
    cases isOperand.symm.trans isAgain
    rw [onPresent, isPresent]
    exact isEqual
  have never : column.onPresent (Comparison.lessOrEqual.holds · value) [⟨column.column, value⟩] =
      false := by
    rw [onPresent, isPresent, Option.any_some, Comparison.holds,
      Value.order?_of_not_isOrdered valueUnordered]
    rfl
  rw [holds, equals, Bool.or_true] at never
  cases never

theorem includesEquality_of_isOrdered {inclusive strict : String}
    (pair : (inclusive, strict) ∈ [("lte", "lt"), ("gte", "gt")])
    (ordered : column.codec.isOrdered = true) :
    column.IncludesEquality inclusive strict := by
  intro path operand test compiled
  have tests := operatorTest_inclusive pair compiled
  simpa only [ordered, Bool.true_and] using tests

/-- The inclusive comparisons include equality exactly on the columns whose values have an order,
which are all but those of documents and lists. -/
theorem includesEquality_iff (column : ColumnCodec) :
    (column.IncludesEquality "lte" "lt" ∧ column.IncludesEquality "gte" "gt") ↔
      column.codec.isOrdered = true := by
  constructor
  · rintro ⟨includes, _⟩
    exact isOrdered_of_includesEquality includes
  · intro ordered
    exact ⟨includesEquality_of_isOrdered (by simp) ordered,
      includesEquality_of_isOrdered (by simp) ordered⟩

/-- A column for documents. -/
def metadata : ColumnCodec :=
  ⟨"metadata", true, .json⟩

/-- A column for lists. -/
def labels : ColumnCodec :=
  ⟨"labels", true, .list (.text none)⟩

/-- A document is equal to itself, but not less than or equal to itself; nor is a list. -/
theorem not_includesEquality_metadata :
    (∃ inclusive strict equal,
      metadata.operatorTest "where.metadata" "lte" (.object [("a", .int 1)]) = .ok inclusive ∧
      metadata.operatorTest "where.metadata" "lt" (.object [("a", .int 1)]) = .ok strict ∧
      metadata.operatorTest "where.metadata" "eq" (.object [("a", .int 1)]) = .ok equal ∧
      inclusive [⟨"metadata", .json (.object [("a", .int 1)])⟩] = false ∧
      strict [⟨"metadata", .json (.object [("a", .int 1)])⟩] = false ∧
      equal [⟨"metadata", .json (.object [("a", .int 1)])⟩] = true) ∧
    ∃ inclusive strict equal,
      labels.operatorTest "where.labels" "gte" (.array [.string "a"]) = .ok inclusive ∧
      labels.operatorTest "where.labels" "gt" (.array [.string "a"]) = .ok strict ∧
      labels.operatorTest "where.labels" "eq" (.array [.string "a"]) = .ok equal ∧
      inclusive [⟨"labels", .array [.string "a"]⟩] = false ∧
      strict [⟨"labels", .array [.string "a"]⟩] = false ∧
      equal [⟨"labels", .array [.string "a"]⟩] = true :=
  ⟨⟨_, _, _, rfl, rfl, rfl, by decide, by decide, by decide⟩,
    ⟨_, _, _, rfl, rfl, rfl, by decide, by decide, by decide⟩⟩

/-! ## Lists of operands -/

/-- The operators for a list of operands compile and hold as the comparisons with the single
operands do. -/
structure AgreesWithSingles (column : ColumnCodec) (path : String) (items : List Json) : Prop where
  member_compiles :
    (∃ test, column.operatorTest path "inArray" (.array items) = .ok test) ↔
      ∀ item ∈ items, ∃ single, column.operatorTest path "eq" item = .ok single
  notMember_compiles :
    (∃ test, column.operatorTest path "notInArray" (.array items) = .ok test) ↔
      ∀ item ∈ items, ∃ single, column.operatorTest path "eq" item = .ok single
  member_holds : ∀ test, column.operatorTest path "inArray" (.array items) = .ok test ->
    ∀ row, test row = true ↔
      ∃ item ∈ items, ∃ single, column.operatorTest path "eq" item = .ok single ∧
        single row = true
  notMember_holds : ∀ test, column.operatorTest path "notInArray" (.array items) = .ok test ->
    ∀ row, test row = true ↔
      ∀ item ∈ items, ∃ single, column.operatorTest path "ne" item = .ok single ∧
        single row = true

/-- A list of operands compiles where the column reads each of them. -/
theorem exists_operatorTest_membership {negated : Bool}
    (named : membershipOfName? name = some negated) :
    (∃ test, column.operatorTest path name (.array items) = .ok test) ↔
      ∀ item ∈ items, ∃ value, operand? column item = some value := by
  simp only [operatorTest_membership named]
  constructor
  · rintro ⟨_, values, areOperands, _⟩ item member
    obtain ⟨value, _, isOperand⟩ := exists_result areOperands item member
    exact ⟨value, isOperand⟩
  · intro each
    obtain ⟨values, areOperands⟩ := exists_results each
    exact ⟨_, values, areOperands, rfl⟩

/-- A comparison compiles with every operand that is no null and is read. -/
theorem exists_operatorTest_comparison {comparison : Comparison}
    (named : comparisonOfName? name = some comparison) :
    (∃ test, column.operatorTest path name operand = .ok test) ↔
      operand ≠ .null ∧ ∃ value, operand? column operand = some value := by
  simp only [operatorTest_comparison named]
  constructor
  · rintro ⟨_, notNull, value, isOperand, _⟩
    exact ⟨notNull, value, isOperand⟩
  · rintro ⟨notNull, value, isOperand⟩
    exact ⟨_, notNull, value, isOperand, rfl⟩

/-- A comparison with a single operand holds on a row. -/
theorem exists_single_holds {comparison : Comparison} {row : StoredRow}
    (named : comparisonOfName? name = some comparison) :
    (∃ single, column.operatorTest path name operand = .ok single ∧ single row = true) ↔
      operand ≠ .null ∧ ∃ value, operand? column operand = some value ∧
        column.onPresent (comparison.holds · value) row = true := by
  simp only [operatorTest_comparison named]
  constructor
  · rintro ⟨_, ⟨notNull, value, isOperand, rfl⟩, holds⟩
    exact ⟨notNull, value, isOperand, holds⟩
  · rintro ⟨notNull, value, isOperand, holds⟩
    exact ⟨_, ⟨notNull, value, isOperand, rfl⟩, holds⟩

theorem onPresent_member {values : List Value} {row : StoredRow} :
    column.onPresent (fun stored => (values.any (stored.equal ·)) != false) row = true ↔
      ∃ value ∈ values, column.onPresent (Comparison.equal.holds · value) row = true := by
  simp only [onPresent]
  cases present? row column.column with
  | none => simp
  | some stored => simp [Comparison.holds]

theorem onPresent_notMember {values : List Value} {row : StoredRow} (notEmpty : values ≠ []) :
    column.onPresent (fun stored => (values.any (stored.equal ·)) != true) row = true ↔
      ∀ value ∈ values, column.onPresent (Comparison.notEqual.holds · value) row = true := by
  simp only [onPresent]
  cases present? row column.column with
  | none => simpa using List.exists_mem_of_ne_nil values notEmpty
  | some stored => simp [Comparison.holds]

/-- None of the items that the column reads is a null. -/
def ReadsNoNull (column : ColumnCodec) (items : List Json) : Prop :=
  ∀ item ∈ items, ∀ value, operand? column item = some value -> item ≠ .null

theorem readsNoNull_of_not
    (noNulls : ¬(column.codec = .json ∧ Json.null ∈ items)) :
    column.ReadsNoNull items := by
  rintro _ isItem value isOperand rfl
  have isRead : column.decodeNonNull .null "" = .ok value := decodeNonNull_eq_ok.2 isOperand
  exact noNulls ⟨Codec.eq_json_of_read_null isRead, isItem⟩

/-- Without nulls, a list compiles where the comparison with each of its items does. -/
theorem exists_operatorTest_membership_iff_singles {negated : Bool}
    (readsNoNull : column.ReadsNoNull items)
    (named : membershipOfName? name = some negated) :
    (∃ test, column.operatorTest path name (.array items) = .ok test) ↔
      ∀ item ∈ items, ∃ single, column.operatorTest path "eq" item = .ok single := by
  have equal : comparisonOfName? "eq" = some .equal := rfl
  rw [exists_operatorTest_membership named]
  refine forall₂_congr fun item isItem => ?_
  rw [exists_operatorTest_comparison equal]
  constructor
  · rintro ⟨value, isOperand⟩
    exact ⟨readsNoNull item isItem value isOperand, value, isOperand⟩
  · exact And.right

/-- Without nulls, a list has a row as a member where the comparison with one item holds. -/
theorem member_holds_iff_singles {row : StoredRow}
    (readsNoNull : column.ReadsNoNull items)
    (compiled : column.operatorTest path "inArray" (.array items) = .ok test) :
    test row = true ↔ ∃ item ∈ items, ∃ single,
      column.operatorTest path "eq" item = .ok single ∧ single row = true := by
  have member : membershipOfName? "inArray" = some false := rfl
  have equal : comparisonOfName? "eq" = some .equal := rfl
  obtain ⟨values, areOperands, rfl⟩ := (operatorTest_membership member).1 compiled
  rw [onPresent_member]
  simp only [exists_single_holds equal]
  constructor
  · rintro ⟨value, isValue, holds⟩
    obtain ⟨item, isItem, isOperand⟩ := exists_item areOperands value isValue
    exact ⟨item, isItem, readsNoNull item isItem value isOperand, value, isOperand, holds⟩
  · rintro ⟨item, isItem, _, value, isOperand, holds⟩
    obtain ⟨other, isOther, sameOperand⟩ := exists_result areOperands item isItem
    cases isOperand.symm.trans sameOperand
    exact ⟨value, isOther, holds⟩

/-- Without nulls, a list has a row as no member where the comparisons with all items hold. -/
theorem notMember_holds_iff_singles {row : StoredRow}
    (notEmpty : items ≠ [])
    (readsNoNull : column.ReadsNoNull items)
    (compiled : column.operatorTest path "notInArray" (.array items) = .ok test) :
    test row = true ↔ ∀ item ∈ items, ∃ single,
      column.operatorTest path "ne" item = .ok single ∧ single row = true := by
  have notMember : membershipOfName? "notInArray" = some true := rfl
  have notEqual : comparisonOfName? "ne" = some .notEqual := rfl
  obtain ⟨values, areOperands, rfl⟩ := (operatorTest_membership notMember).1 compiled
  have hasValues : values ≠ [] := by
    rintro rfl
    exact notEmpty (List.forall₂_nil_right_iff.1 areOperands)
  rw [onPresent_notMember hasValues]
  simp only [exists_single_holds notEqual]
  constructor
  · intro holds item isItem
    obtain ⟨value, isValue, isOperand⟩ := exists_result areOperands item isItem
    exact ⟨readsNoNull item isItem value isOperand, value, isOperand, holds value isValue⟩
  · intro holds value isValue
    obtain ⟨item, isItem, isOperand⟩ := exists_item areOperands value isValue
    obtain ⟨_, other, sameOperand, otherHolds⟩ := holds item isItem
    cases isOperand.symm.trans sameOperand
    exact otherHolds

/-- The operators for lists agree with the comparisons exactly where no column of documents is given
a null: as an item of a list it is read, and as a single operand it is refused. -/
theorem agreesWithSingles_iff (column : ColumnCodec) (path : String) (first : Json)
    (others : List Json) :
    column.AgreesWithSingles path (first :: others) ↔
      ¬(column.codec = .json ∧ Json.null ∈ first :: others) := by
  have member : membershipOfName? "inArray" = some false := rfl
  have notMember : membershipOfName? "notInArray" = some true := rfl
  have equal : comparisonOfName? "eq" = some .equal := rfl
  constructor
  · rintro agrees ⟨isJson, isNull⟩
    have reads : ∀ item ∈ first :: others, ∃ value, operand? column item = some value := by
      intro item _
      obtain ⟨name, nullable, codec⟩ := column
      subst isJson
      exact ⟨.json item, rfl⟩
    have single := agrees.member_compiles.1 ((exists_operatorTest_membership member).2 reads)
    exact ((exists_operatorTest_comparison equal).1 (single .null isNull)).1 rfl
  · intro noNulls
    have readsNoNull : column.ReadsNoNull (first :: others) := readsNoNull_of_not noNulls
    exact
      { member_compiles := exists_operatorTest_membership_iff_singles readsNoNull member
        notMember_compiles := exists_operatorTest_membership_iff_singles readsNoNull notMember
        member_holds := fun _ compiled _ => member_holds_iff_singles readsNoNull compiled
        notMember_holds := fun _ compiled _ =>
          notMember_holds_iff_singles (List.cons_ne_nil first others) readsNoNull compiled }

/-- Documents that are null are found by a list, while the comparison with null is refused. -/
theorem not_agreesWithSingles_metadata :
    (∃ test, metadata.operatorTest "where.metadata" "inArray" (.array [.null]) = .ok test ∧
      test [⟨"metadata", .json .null⟩] = true) ∧
    ∀ single, metadata.operatorTest "where.metadata" "eq" .null ≠ .ok single := by
  refine ⟨⟨_, rfl, by decide⟩, fun single compiled => ?_⟩
  cases compiled

end ColumnCodec
end RelationalApi
