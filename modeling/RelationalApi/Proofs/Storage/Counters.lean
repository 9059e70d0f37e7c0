import RelationalApi.Proofs.Scalar.Kinds
import RelationalApi.Proofs.Scalar.Rereading
import RelationalApi.Proofs.Storage.Defaults

/-!
# Counted columns

A column that counts takes in each inserted row the number after the greatest one that stands in
it.  The numbers that an insert counts on to are new and the column has room for them, unless they
leave the range of the column or that of 64 bits, at the end of which counting goes on at the
least number.
-/

namespace RelationalApi

open Outcome

namespace Store

/-- The number of a row in a column, if it has 64 bits with a sign. -/
def number? (name : String) (row : StoredRow) : Option Int :=
  ((fieldValue? row name).bind Value.int?).map Int64.toInt

/-- The numbers of rows in a column. -/
def numbers (name : String) (rows : List StoredRow) : List Int :=
  rows.filterMap (number? name)

/-- The greatest number of rows in a column, which is zero where there is none. -/
def greatestNumber (name : String) (rows : List StoredRow) : Int :=
  match numbers name rows with
  | [] => 0
  | first :: others => others.foldl max first

variable {name : String} {rows : List StoredRow} {row : StoredRow} {number : Int}

theorem toInt_max (left right : Int64) : (max left right).toInt = max left.toInt right.toInt := by
  change (if left ≤ right then right else left).toInt = _
  split <;> rename_i compared <;> rw [Int64.le_iff_toInt_le] at compared <;> omega

theorem toInt_foldl_max (first : Int64) (others : List Int64) :
    (others.foldl max first).toInt = (others.map Int64.toInt).foldl max first.toInt := by
  induction others generalizing first with
  | nil => rfl
  | cons other others inductionHypothesis =>
      rw [List.foldl_cons, inductionHypothesis, toInt_max]
      rfl

theorem numbers_eq_map (name : String) (rows : List StoredRow) :
    numbers name rows =
      (rows.filterMap fun row => (fieldValue? row name).bind Value.int?).map Int64.toInt := by
  rw [numbers, List.map_filterMap]
  rfl

/-- The next number follows the greatest one. -/
theorem nextNumber_eq (name : String) (rows : List StoredRow) :
    nextNumber name rows = Int64.ofInt (greatestNumber name rows + 1) := by
  rw [nextNumber, greatestNumber, numbers_eq_map]
  cases rows.filterMap fun row => (fieldValue? row name).bind Value.int? with
  | nil => rfl
  | cons first others =>
      rw [List.map_cons]
      dsimp only
      rw [← toInt_foldl_max, Int64.ofInt_add, Int64.ofInt_toInt]
      rfl

theorem greatestNumber_of_ne_nil (hasNumbers : numbers name rows ≠ []) :
    greatestNumber name rows ∈ numbers name rows ∧
      ∀ number ∈ numbers name rows, number ≤ greatestNumber name rows := by
  rw [greatestNumber]
  cases found : numbers name rows with
  | nil => exact absurd found hasNumbers
  | cons first others => exact List.max?_eq_some_iff.1 rfl

/-- No number in a column is greater than the greatest one. -/
theorem le_greatestNumber (member : number ∈ numbers name rows) :
    number ≤ greatestNumber name rows :=
  (greatestNumber_of_ne_nil (List.ne_nil_of_mem member)).2 number member

theorem greatestNumber_eq_of_forall_le
    (member : number ∈ numbers name rows)
    (greatest : ∀ other ∈ numbers name rows, other ≤ number) :
    greatestNumber name rows = number :=
  Int.le_antisymm (greatest _ (greatestNumber_of_ne_nil (List.ne_nil_of_mem member)).1)
    (le_greatestNumber member)

/-- All numbers in a column have 64 bits, and so has the greatest one. -/
theorem bounds_of_mem_numbers (member : number ∈ numbers name rows) :
    -2 ^ 63 ≤ number ∧ number < 2 ^ 63 := by
  rw [numbers_eq_map] at member
  obtain ⟨whole, _, rfl⟩ := List.mem_map.1 member
  exact ⟨whole.le_toInt, whole.toInt_lt⟩

theorem greatestNumber_bounds (name : String) (rows : List StoredRow) :
    -2 ^ 63 ≤ greatestNumber name rows ∧ greatestNumber name rows < 2 ^ 63 := by
  by_cases noNumbers : numbers name rows = []
  · rw [greatestNumber, noNumbers]
    decide
  · exact bounds_of_mem_numbers (greatestNumber_of_ne_nil noNumbers).1

/-- The number at a position of those that follow the greatest one.  After the greatest number of 64
bits it is the least one, and it stays there. -/
def countedNumber (greatest : Int) (position : Nat) : Int :=
  if greatest + position < 2 ^ 63 - 1 then greatest + position + 1 else -2 ^ 63

theorem countedNumber_bounds
    {greatest : Int}
    (least : -2 ^ 63 ≤ greatest)
    (position : Nat) :
    -2 ^ 63 ≤ countedNumber greatest position ∧ countedNumber greatest position < 2 ^ 63 := by
  rw [countedNumber]
  split <;> omega

theorem toInt_countedNumber (name : String) (rows : List StoredRow) (position : Nat) :
    (Int64.ofInt (countedNumber (greatestNumber name rows) position)).toInt =
      countedNumber (greatestNumber name rows) position := by
  obtain ⟨least, most⟩ := countedNumber_bounds (greatestNumber_bounds name rows).1 position
  exact Int64.toInt_ofInt_of_le least most

theorem toInt_nextNumber (name : String) (rows : List StoredRow) :
    (nextNumber name rows).toInt = countedNumber (greatestNumber name rows) 0 := by
  have bounds := greatestNumber_bounds name rows
  rw [nextNumber_eq, countedNumber]
  split
  · rw [Int64.toInt_ofInt_of_le (by omega) (by omega), Int.natCast_zero, Int.add_zero]
  · have isGreatest : greatestNumber name rows = 2 ^ 63 - 1 := by omega
    rw [isGreatest]
    decide

theorem number?_int {whole : Int64} (found : fieldValue? row name = some (.int whole)) :
    number? name row = some whole.toInt := by
  rw [number?, found]
  rfl

theorem numbers_append_singleton
    (rows : List StoredRow)
    {whole : Int64}
    (found : fieldValue? row name = some (.int whole)) :
    numbers name (rows ++ [row]) = numbers name rows ++ [whole.toInt] := by
  rw [numbers, List.filterMap_append, List.filterMap_cons, number?_int found]
  rfl

/-- Counting goes on from a counted row, but it stays at the greatest number of 64 bits. -/
theorem greatestNumber_append_next
    (counted : fieldValue? row name = some (.int (nextNumber name rows))) :
    greatestNumber name (rows ++ [row]) = min (greatestNumber name rows + 1) (2 ^ 63 - 1) := by
  have bounds := greatestNumber_bounds name rows
  have appended := numbers_append_singleton rows counted
  rw [toInt_nextNumber, countedNumber, Int.natCast_zero, Int.add_zero] at appended
  refine greatestNumber_eq_of_forall_le ?_ ?_
  · rw [appended, List.mem_append, List.mem_singleton]
    by_cases more : greatestNumber name rows < 2 ^ 63 - 1
    · rw [if_pos more]
      omega
    · have hasNumbers : numbers name rows ≠ [] := by
        intro noNumbers
        rw [greatestNumber, noNumbers] at more
        exact more (by decide)
      have isGreatest : min (greatestNumber name rows + 1) (2 ^ 63 - 1) =
          greatestNumber name rows := by
        omega
      rw [isGreatest]
      exact .inl (greatestNumber_of_ne_nil hasNumbers).1
  · rw [appended, List.forall_mem_append, List.forall_mem_singleton]
    refine ⟨fun other member => ?_, ?_⟩
    · have := le_greatestNumber member
      omega
    · split <;> omega

variable {table : Table} {column : Column} {now : Timestamp} {given : List FieldValue}

/-- A row that leaves a column to be counted takes the next number there. -/
theorem fieldValue?_counted
    (isColumn : table.column? name = some column)
    (counts : column.default = some .autoIncrement)
    (missing : fieldValue? given name = none)
    (completed : completeRow table now rows given = .ok row) :
    fieldValue? row name = some (.int (nextNumber name rows)) := by
  obtain ⟨_, fields, _⟩ := completeRow_eq_ok.1 completed
  obtain ⟨value, found, completedField⟩ := exists_fieldValue? fields isColumn
  obtain rfl := Table.name_of_column? isColumn
  rw [completeField, missing, counts] at completedField
  cases completedField
  exact found

/-- Rows have the numbers after the greatest one that is stored in a column, in their order. -/
def TakesNumbers (name : String) (stored inserted : List StoredRow) : Prop :=
  inserted.map (fieldValue? · name) = (List.range inserted.length).map fun position =>
    some (.int (.ofInt (countedNumber (greatestNumber name stored) position)))

/-- Rows that have taken numbers and a row that takes the next one. -/
theorem TakesNumbers.append_next
    {stored pending : List StoredRow}
    (takes : TakesNumbers name stored pending)
    (greatest : greatestNumber name (stored ++ pending) =
      min (greatestNumber name stored + pending.length) (2 ^ 63 - 1))
    (found : fieldValue? row name = some (.int (nextNumber name (stored ++ pending)))) :
    TakesNumbers name stored (pending ++ [row]) := by
  have next : countedNumber (greatestNumber name (stored ++ pending)) 0 =
      countedNumber (greatestNumber name stored) pending.length := by
    rw [greatest, countedNumber, countedNumber]
    split <;> split <;> omega
  rw [TakesNumbers] at takes ⊢
  rw [List.map_append, takes, List.length_append, List.length_singleton, List.range_succ,
    List.map_append, List.map_singleton, List.map_singleton, found,
    ← Int64.ofInt_toInt (nextNumber _ _), toInt_nextNumber, next]

/-- The rows of an insert that leave a column to be counted take the numbers after the greatest one
that was stored. -/
theorem takesNumbers_of_admitRows
    {action : ConflictAction}
    {stored inserted : List StoredRow}
    {rows : List (List FieldValue)}
    (isColumn : table.column? name = some column)
    (counts : column.default = some .autoIncrement)
    (omitted : ∀ given ∈ rows, fieldValue? given name = none)
    (admitted : admitRows table now action stored [] rows = .ok inserted) :
    TakesNumbers name stored inserted := by
  have bounds := greatestNumber_bounds name stored
  refine (admitRows_induction (fun pending => TakesNumbers name stored pending ∧
    greatestNumber name (stored ++ pending) =
      min (greatestNumber name stored + pending.length) (2 ^ 63 - 1)) ?_ ?_ admitted).1
  · refine ⟨rfl, ?_⟩
    rw [List.append_nil, List.length_nil]
    omega
  · rintro pending row given isGiven ⟨takes, greatest⟩ completed _
    have found := fieldValue?_counted isColumn counts (omitted given isGiven) completed
    refine ⟨takes.append_next greatest found, ?_⟩
    rw [← List.append_assoc, greatestNumber_append_next found, greatest, List.length_append,
      List.length_singleton]
    omega

/-! ## Numbers of their own -/

variable {bits : Nat} {unsigned : Bool}

/-- All values of rows in a column are null or whole numbers. -/
def HoldsIntegers (bits : Nat) (unsigned : Bool) (name : String) (rows : List StoredRow) : Prop :=
  ∀ row ∈ rows, ∀ value, fieldValue? row name = some value ->
    value = .null ∨ (Codec.integer bits unsigned).Yields value

/-- A row with a number agrees with the rows of the same number. -/
theorem agree_int_iff
    {other : StoredRow}
    {whole : Int64}
    (found : fieldValue? row name = some (.int whole))
    (isInteger : ∀ value, fieldValue? other name = some value ->
      value = .null ∨ (Codec.integer bits unsigned).Yields value) :
    agree row other name = true ↔ number? name other = some whole.toInt := by
  have present : present? row name = some (.int whole) := present?_eq_some.2 ⟨found, rfl⟩
  rw [agree, present, number?]
  cases foundOther : fieldValue? other name with
  | none => simp
  | some value =>
      rcases isInteger value foundOther with rfl | yields
      · simp [Value.equal_null_right, Value.int?]
      · dsimp only [Option.bind_some]
        cases yields with
        | signed number =>
            rw [Value.equal_eq_order (by simp) (by simp), Value.order?, Value.int?, Option.map_some,
              beq_iff_eq, Option.some.injEq, Std.LawfulEqOrd.compare_eq_iff_eq, Option.some.injEq,
              eq_comm]
        | unsigned number =>
            have below := whole.toInt_lt
            rw [Value.equal_eq_order (by simp) (by simp), Value.order?, Value.int?, beq_iff_eq,
              Option.some.injEq, Std.LawfulEqOrd.compare_eq_iff_eq]
            split
            · rename_i small
              rw [Option.map_some, Int64.toInt_ofNat_of_lt small, Option.some.injEq, eq_comm]
            · rename_i great
              have power : Nat.pow 2 63 = 2 ^ 63 := rfl
              rw [power] at great
              refine iff_of_false ?_ (by simp)
              omega

/-- A whole number of 64 bits is read from its text, unless it would need a sign. -/
theorem exists_wideInteger?
    {whole : Int64}
    (least : (integerRange 64 unsigned).1 ≤ whole.toInt) :
    ∃ again, wideInteger? unsigned (toString whole.toInt).toList = some again ∧
      (Value.int whole).equal again = true := by
  have power : Int.pow 2 63 = 2 ^ 63 ∧ Nat.pow 2 64 = 2 ^ 64 := ⟨rfl, rfl⟩
  have bounds := And.intro whole.le_toInt whole.toInt_lt
  cases unsigned with
  | false =>
      refine ⟨.int whole, ?_, Value.equal_int_self whole⟩
      have inRange : (decide (-2 ^ 63 ≤ whole.toInt) && decide (whole.toInt < 2 ^ 63)) = true := by
        rw [Bool.and_eq_true, decide_eq_true_iff, decide_eq_true_iff]
        exact bounds
      rw [wideInteger?, if_neg Bool.false_ne_true, Text.integer?_toString, power.1,
        Option.bind_eq_bind, Option.bind_some, if_pos inRange, Int64.ofInt_toInt]
  | true =>
      change 0 ≤ whole.toInt at least
      have small : whole.toInt.natAbs < 2 ^ 64 := by omega
      refine ⟨.uint (.ofNat whole.toInt.natAbs), ?_, ?_⟩
      · rw [wideInteger?, if_pos rfl, Text.toList_toString, if_neg (by omega),
          Text.natural?_toDigits, power.2]
        exact if_pos small
      · rw [Value.equal_eq_order (by simp) (by simp), Value.order?,
          UInt64.toNat_ofNat_of_lt' small, Int.natAbs_of_nonneg least, Std.ReflOrd.compare_self]
        rfl

/-- A whole number in the range of a width that is shown to clients can be given back by them. -/
theorem rereads_of_inRange
    (width : bits ∈ [8, 16, 32, 64])
    {whole : Int64}
    (least : (integerRange bits unsigned).1 ≤ whole.toInt)
    (most : whole.toInt ≤ (integerRange bits unsigned).2) :
    ∃ shown, (Codec.integer bits unsigned).show? (.int whole) = some shown ∧
      ∀ path, (Codec.integer bits unsigned).Rereads path (.int whole) shown := by
  refine ⟨showInteger bits unsigned whole.toInt, rfl, fun path => ?_⟩
  by_cases isText : integerForm bits unsigned = .text
  · have isWide : bits = 64 := by
      simp only [List.mem_cons, List.not_mem_nil, or_false] at width
      rcases width with rfl | rfl | rfl | rfl <;> first | rfl | cases unsigned <;> cases isText
    subst isWide
    obtain ⟨again, read, same⟩ := exists_wideInteger? least
    refine ⟨again, ?_, same⟩
    rw [Codec.read, readInteger.eq_def, showInteger, isText]
    dsimp only
    rw [integerText?_toString, Option.bind_some, read]
  · refine ⟨.int whole, ?_, Value.equal_int_self whole⟩
    have shown : showInteger bits unsigned whole.toInt = .int whole.toInt := by
      rw [showInteger]
      split
      · rename_i impossible
        exact absurd impossible isText
      · rfl
    have isWhole : wholeInt64? (.int whole.toInt) = some whole.toInt := by
      have power : Int.pow 2 63 = 2 ^ 63 := rfl
      have := whole.toInt_lt
      rw [wholeInt64?, power, Option.some.injEq]
      omega
    rw [shown, Codec.read, readInteger.eq_def]
    split
    · rename_i impossible
      exact absurd impossible isText
    · dsimp only [Json.int]
      rw [isWhole]
      dsimp only
      rw [if_neg, Int64.ofInt_toInt]
      rw [Bool.or_eq_true, decide_eq_true_iff, decide_eq_true_iff]
      omega

/-- The rows that an insert added have numbers of their own in a column: numbers in the range of its
width which no other row has, and which clients can give back when they are shown. -/
structure Numbered (bits : Nat) (unsigned : Bool) (name : String)
    (stored inserted : List StoredRow) : Prop where
  inRange : ∀ row ∈ inserted, ∃ number, number? name row = some number ∧
    (integerRange bits unsigned).1 ≤ number ∧ number ≤ (integerRange bits unsigned).2
  fresh : ∀ row ∈ inserted, ∀ other ∈ stored, agree row other name = false
  distinct : inserted.Pairwise fun row other => agree row other name = false
  givenBack : ∀ row ∈ inserted, ∃ value shown, fieldValue? row name = some value ∧
    (Codec.integer bits unsigned).show? value = some shown ∧
      ∀ path, (Codec.integer bits unsigned).Rereads path value shown

/-- Some more numbers follow the greatest one of a column: they are in the range of its width and of
64 bits, or the last of them is the least number of 64 bits, in a column that has all of these. -/
inductive HasRoom (bits : Nat) (unsigned : Bool) (name : String) (stored : List StoredRow) :
    Nat -> Prop
  | none : HasRoom bits unsigned name stored 0
  | within
      {count : Nat}
      (least : (integerRange bits unsigned).1 ≤ greatestNumber name stored + 1)
      (most : greatestNumber name stored + count ≤ (integerRange bits unsigned).2)
      (wide : greatestNumber name stored + count < 2 ^ 63) :
      HasRoom bits unsigned name stored count
  | turned
      {count : Nat}
      (isWide : bits = 64)
      (isSigned : unsigned = false)
      (last : greatestNumber name stored + count = 2 ^ 63)
      (free : -2 ^ 63 ∉ numbers name stored) :
      HasRoom bits unsigned name stored count

theorem countedNumber_of_lt
    {greatest : Int}
    {position : Nat}
    (isLess : greatest + position < 2 ^ 63 - 1) :
    countedNumber greatest position = greatest + position + 1 :=
  if_pos isLess

theorem countedNumber_of_ge
    {greatest : Int}
    {position : Nat}
    (notLess : 2 ^ 63 - 1 ≤ greatest + position) :
    countedNumber greatest position = -2 ^ 63 :=
  if_neg (Int.not_lt.2 notLess)

/-- Only signed numbers of 64 bits begin at the least one of these. -/
theorem eq_of_least
    (width : bits ∈ [8, 16, 32, 64])
    (least : (integerRange bits unsigned).1 ≤ -2 ^ 63) :
    bits = 64 ∧ unsigned = false := by
  simp only [List.mem_cons, List.not_mem_nil, or_false] at width
  rcases width with rfl | rfl | rfl | rfl <;> cases unsigned <;> revert least <;> decide

/-- The numbers that follow the greatest one are in the range of a width, new and different from
each other. -/
structure CountsAnew (bits : Nat) (unsigned : Bool) (name : String) (stored : List StoredRow)
    (count : Nat) : Prop where
  inRange : ∀ position < count,
    (integerRange bits unsigned).1 ≤ countedNumber (greatestNumber name stored) position ∧
      countedNumber (greatestNumber name stored) position ≤ (integerRange bits unsigned).2
  fresh : ∀ position < count,
    countedNumber (greatestNumber name stored) position ∉ numbers name stored
  distinct : ∀ last < count, ∀ position < last,
    countedNumber (greatestNumber name stored) position ≠
      countedNumber (greatestNumber name stored) last

variable {stored inserted : List StoredRow} {count : Nat}

/-- Within the range of 64 bits the numbers increase. -/
theorem countsAnew_of_within
    (least : (integerRange bits unsigned).1 ≤ greatestNumber name stored + 1)
    (most : greatestNumber name stored + count ≤ (integerRange bits unsigned).2)
    (wide : greatestNumber name stored + count < 2 ^ 63) :
    CountsAnew bits unsigned name stored count := by
  have counted : ∀ position < count, countedNumber (greatestNumber name stored) position =
      greatestNumber name stored + position + 1 :=
    fun position before => countedNumber_of_lt (by omega)
  refine ⟨fun position before => ?_, fun position before member => ?_,
    fun last before position earlier => ?_⟩
  · rw [counted position before]
    omega
  · have isLess := le_greatestNumber member
    rw [counted position before] at isLess
    omega
  · rw [counted position (by omega), counted last before]
    omega

/-- Up to the least number of 64 bits, which is the last one, the numbers increase. -/
theorem countsAnew_of_turned
    (last : greatestNumber name stored + count = 2 ^ 63)
    (free : -2 ^ 63 ∉ numbers name stored) :
    CountsAnew 64 false name stored count := by
  have bounds := greatestNumber_bounds name stored
  have counted : ∀ position, position + 1 < count ->
      countedNumber (greatestNumber name stored) position =
        greatestNumber name stored + position + 1 :=
    fun position before => countedNumber_of_lt (by omega)
  have turns : ∀ position, position + 1 = count ->
      countedNumber (greatestNumber name stored) position = -2 ^ 63 :=
    fun position isLast => countedNumber_of_ge (by omega)
  refine ⟨fun position _ => ?_, fun position before member => ?_,
    fun last before position earlier => ?_⟩
  · have inRange := countedNumber_bounds bounds.1 position
    exact ⟨inRange.1, Int.le_sub_one_of_lt inRange.2⟩
  · by_cases isLast : position + 1 = count
    · rw [turns position isLast] at member
      exact free member
    · have isLess := le_greatestNumber member
      rw [counted position (by omega)] at isLess
      omega
  · rw [counted position (by omega)]
    by_cases isLast : last + 1 = count
    · rw [turns last isLast]
      omega
    · rw [counted last (by omega)]
      omega

theorem hasRoom_of_countsAnew
    (width : bits ∈ [8, 16, 32, 64])
    (anew : CountsAnew bits unsigned name stored count) :
    HasRoom bits unsigned name stored count := by
  have bounds := greatestNumber_bounds name stored
  cases count with
  | zero => exact .none
  | succ last =>
      have final := anew.inRange last (Nat.lt_succ_self last)
      by_cases isLess : greatestNumber name stored + last < 2 ^ 63 - 1
      · have first := anew.inRange 0 (Nat.succ_pos last)
        rw [countedNumber_of_lt (by omega)] at first
        rw [countedNumber_of_lt isLess] at final
        exact .within (by omega) (by omega) (by omega)
      · have turns : countedNumber (greatestNumber name stored) last = -2 ^ 63 :=
          countedNumber_of_ge (by omega)
        rw [turns] at final
        obtain ⟨isWide, isSigned⟩ := eq_of_least width final.1
        have free := anew.fresh last (Nat.lt_succ_self last)
        rw [turns] at free
        refine .turned isWide isSigned ?_ free
        -- The number before the last one would be the least one, too.
        by_contra isBeyond
        refine anew.distinct last (Nat.lt_succ_self last) (last - 1) (by omega) ?_
        rw [turns, countedNumber_of_ge (by omega)]

/-- The numbers that follow the greatest one are in range, new and different from each other where
there is room for them. -/
theorem hasRoom_iff_countsAnew (width : bits ∈ [8, 16, 32, 64]) :
    HasRoom bits unsigned name stored count ↔ CountsAnew bits unsigned name stored count := by
  refine ⟨fun room => ?_, hasRoom_of_countsAnew width⟩
  cases room with
  | none => exact ⟨nofun, nofun, nofun⟩
  | within least most wide => exact countsAnew_of_within least most wide
  | turned isWide isSigned last free =>
      subst isWide isSigned
      exact countsAnew_of_turned last free

namespace TakesNumbers

variable (takes : TakesNumbers name stored inserted)
include takes

theorem fieldValue?_getElem {position : Nat} (before : position < inserted.length) :
    fieldValue? inserted[position] name =
      some (.int (.ofInt (countedNumber (greatestNumber name stored) position))) := by
  have same := congrArg (fun values => values[position]?) takes
  simpa [before] using same

theorem number?_getElem {position : Nat} (before : position < inserted.length) :
    number? name inserted[position] =
      some (countedNumber (greatestNumber name stored) position) := by
  rw [number?_int (takes.fieldValue?_getElem before), toInt_countedNumber]

/-- A row with a number agrees with the rows of integers that have the same one. -/
theorem agree_getElem_iff
    {rows : List StoredRow}
    (holdsIntegers : HoldsIntegers bits unsigned name rows)
    {position : Nat}
    (before : position < inserted.length)
    {other : StoredRow}
    (member : other ∈ rows) :
    agree inserted[position] other name = true ↔
      number? name other = some (countedNumber (greatestNumber name stored) position) := by
  rw [agree_int_iff (takes.fieldValue?_getElem before) (holdsIntegers other member),
    toInt_countedNumber]

theorem holdsIntegers : HoldsIntegers bits unsigned name inserted := by
  intro row member value found
  obtain ⟨position, before, rfl⟩ := List.getElem_of_mem member
  cases (takes.fieldValue?_getElem before).symm.trans found
  exact .inr (.signed _)

theorem countsAnew
    (holdsIntegers : HoldsIntegers bits unsigned name stored)
    (numbered : Numbered bits unsigned name stored inserted) :
    CountsAnew bits unsigned name stored inserted.length := by
  refine ⟨fun position before => ?_, fun position before member => ?_,
    fun last before position earlier same => ?_⟩
  · obtain ⟨number, isNumber, bounds⟩ := numbered.inRange _ (List.getElem_mem before)
    cases (takes.number?_getElem before).symm.trans isNumber
    exact bounds
  · obtain ⟨other, isOther, sameNumber⟩ := List.mem_filterMap.1 member
    have agreeing := (takes.agree_getElem_iff holdsIntegers before isOther).2 sameNumber
    rw [numbered.fresh _ (List.getElem_mem before) other isOther] at agreeing
    cases agreeing
  · have apart := List.pairwise_iff_getElem.1 numbered.distinct position last (by omega) before
      earlier
    have integers : HoldsIntegers bits unsigned name inserted := takes.holdsIntegers
    have agreeing := (takes.agree_getElem_iff integers (by omega) (List.getElem_mem before)).2
        ((takes.number?_getElem before).trans (congrArg some same.symm))
    rw [apart] at agreeing
    cases agreeing

theorem numbered
    (width : bits ∈ [8, 16, 32, 64])
    (holdsIntegers : HoldsIntegers bits unsigned name stored)
    (anew : CountsAnew bits unsigned name stored inserted.length) :
    Numbered bits unsigned name stored inserted := by
  refine ⟨?_, ?_, ?_, ?_⟩
  · intro row member
    obtain ⟨position, before, rfl⟩ := List.getElem_of_mem member
    exact ⟨_, takes.number?_getElem before, anew.inRange position before⟩
  · intro row member other isOther
    obtain ⟨position, before, rfl⟩ := List.getElem_of_mem member
    rw [← Bool.not_eq_true, takes.agree_getElem_iff holdsIntegers before isOther]
    exact fun sameNumber =>
      anew.fresh position before (List.mem_filterMap.2 ⟨other, isOther, sameNumber⟩)
  · refine List.pairwise_iff_getElem.2 fun position last earlierBefore before earlier => ?_
    have integers : HoldsIntegers bits unsigned name inserted := takes.holdsIntegers
    rw [← Bool.not_eq_true,
      takes.agree_getElem_iff integers earlierBefore (List.getElem_mem before),
      takes.number?_getElem before]
    exact fun same => anew.distinct last before position earlier (Option.some.inj same).symm
  · intro row member
    obtain ⟨position, before, rfl⟩ := List.getElem_of_mem member
    have bounds := anew.inRange position before
    rw [← toInt_countedNumber] at bounds
    obtain ⟨shown, isShown, again⟩ := rereads_of_inRange width bounds.1 bounds.2
    exact ⟨_, shown, takes.fieldValue?_getElem before, isShown, again⟩

/-- Rows that took the numbers after the greatest one have numbers of their own where there was room
for them. -/
theorem numbered_iff_hasRoom
    (width : bits ∈ [8, 16, 32, 64])
    (holdsIntegers : HoldsIntegers bits unsigned name stored) :
    Numbered bits unsigned name stored inserted ↔
      HasRoom bits unsigned name stored inserted.length := by
  rw [hasRoom_iff_countsAnew width]
  exact ⟨takes.countsAnew holdsIntegers, takes.numbered width holdsIntegers⟩

end TakesNumbers

end Store
end RelationalApi
