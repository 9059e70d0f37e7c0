import RelationalApi.Arguments.Where
import RelationalApi.Proofs.Interface.Generation
import RelationalApi.Proofs.Scalar.Kinds
import RelationalApi.Proofs.Scalar.Rereading
import RelationalApi.Proofs.Storage.Filters

/-!
# Rows that are found again

A client that was shown a value of a row can ask for the rows with this value.  The row is among
them exactly if its value was shown in full.  Decimals that are shown with an exponent, timestamps
with digits below a millisecond, timestamps of years that need a sign, and lists with any of these
are lost.
-/

namespace RelationalApi

open Outcome

variable {columns : List ColumnCodec} {codec : ColumnCodec} {path name : String} {operand : Json}
variable {row : StoredRow} {value : Value}

/-- The `where` argument that asks for one value of a column is accepted, and holds on a row. -/
def FindsRow (columns : List ColumnCodec) (path name : String) (operand : Json) (row : StoredRow) :
    Prop :=
  ∃ filter, compileWhere columns path (.object [(name, .object [("eq", operand)])]) = .ok filter ∧
    Filter.accepts filter row = true

/-- What a codec shows of a value that it read from a document other than null is no null either. -/
theorem Codec.isNull_show?
    {codec : Codec}
    {document shown : Json}
    (read : codec.read document path = .ok value)
    (notNull : document ≠ .null)
    (isShown : codec.show? value = some shown) :
    shown.isNull = false := by
  cases codec.read_solid read with
  | array _ =>
      rw [Codec.show?.eq_def] at isShown
      dsimp only at isShown
      split at isShown
      · obtain ⟨_, _, rfl⟩ := Option.map_eq_some_iff.1 isShown
        rfl
      · cases isShown
  | plain valueNotNull notArray =>
      rw [show?_eq_showItem? valueNotNull notArray] at isShown
      cases shown with
      | null =>
          obtain ⟨rfl, isDocument⟩ := showItem?_eq_null isShown
          cases read
          rcases isDocument with same | ⟨_, impossible, _⟩
          · exact absurd (Value.json.inj same) notNull
          · cases impossible
      | _ => rfl

/-- The operand of an operator that compares is read by the column. -/
theorem compileOperator_comparison
    {comparison : Comparison}
    (named : comparisonOfName? name = some comparison) :
    compileOperator codec path name operand =
      compileComparison codec comparison operand (joinPath path name) := by
  rw [comparisonOfName?] at named
  split_ifs at named
  all_goals
    cases named
    subst_vars
    rfl

/-- A column whose only entry is an operator that compares is compared with the operand. -/
theorem compileColumn_comparison
    {comparison : Comparison}
    (named : comparisonOfName? name = some comparison)
    (notNull : operand.isNull = false) :
    compileColumn codec path (.object [(name, operand)]) =
      (codec.decodeNonNull operand (joinPath path name)).map fun value =>
        some (.compare comparison codec.column value) := by
  have notAlternatives : name ≠ "OR" := by
    rintro rfl
    cases named
  rw [compileColumn, compileOperatorObject, compileOperators, compileOperators,
    if_neg notAlternatives, compileOperator_comparison named, compileComparison, notNull,
    if_neg Bool.false_ne_true]
  cases codec.decodeNonNull operand (joinPath path name) <;> rfl

/-- The argument that compares a column with one value is compiled to this comparison. -/
theorem compileWhere_comparison
    {operator : String}
    {comparison : Comparison}
    (named : comparisonOfName? operator = some comparison)
    (found : columns.find? (fun other => other.column == name) = some codec)
    (isColumn : Combinator.ofKey? name = none)
    (notNull : operand.isNull = false) :
    compileWhere columns path (.object [(name, .object [(operator, operand)])]) =
      (codec.decodeNonNull operand (joinPath (joinPath path name) operator)).map fun value =>
        some (.compare comparison codec.column value) := by
  rw [compileWhere, compileEntries, compileEntries, compileEntry.eq_def, isColumn]
  dsimp only
  rw [compileColumnEntry, found]
  dsimp only
  rw [compileColumn_comparison named notNull]
  cases codec.decodeNonNull operand (joinPath (joinPath path name) operator) <;> rfl

/-- A row is found by its value in a column if the name of the column is no key that combines
conditions, and the operand is read as a value that is equal to the stored one. -/
theorem findsRow_iff
    (found : columns.find? (fun other => other.column == name) = some codec)
    (stored : fieldValue? row name = some value)
    (valueNotNull : value.isNull = false)
    (notNull : operand.isNull = false) :
    FindsRow columns path name operand row ↔
      Combinator.ofKey? name = none ∧
        codec.codec.Rereads (joinPath (joinPath path name) "eq") value operand := by
  have isNamed : codec.column = name := by simpa using List.find?_some found
  have present : present? row name = some value := present?_eq_some.2 ⟨stored, valueNotNull⟩
  have holds : ∀ again, Filter.accepts (some (.compare .equal codec.column again)) row =
      value.equal again := by
    intro again
    rw [Filter.accepts_some, Filter.holds, isNamed, present]
    rfl
  rw [FindsRow]
  cases isKey : Combinator.ofKey? name with
  | some combinator =>
      -- The key combines a list of conditions, and an object of operators is none.
      refine iff_of_false ?_ ?_
      · rintro ⟨_, impossible, _⟩
        rw [compileWhere, compileEntries, compileEntry.eq_def, isKey] at impossible
        cases impossible
      · rintro ⟨impossible, _⟩
        cases impossible
  | none =>
      rw [compileWhere_comparison rfl found isKey notNull, Codec.Rereads]
      change _ ↔ _ ∧ ∃ again, codec.decodeNonNull operand _ = .ok again ∧ _
      cases codec.decodeNonNull operand (joinPath (joinPath path name) "eq") with
      | error fault =>
          refine iff_of_false ?_ ?_
          · rintro ⟨_, impossible, _⟩
            cases impossible
          · rintro ⟨_, _, impossible, _⟩
            cases impossible
      | ok again =>
          constructor
          · rintro ⟨_, ⟨⟩, accepted⟩
            exact ⟨rfl, again, rfl, (holds again).symm.trans accepted⟩
          · rintro ⟨_, _, ⟨⟩, same⟩
            exact ⟨_, rfl, (holds again).trans same⟩

namespace ColumnCodec

/-- The value of a column that was read from a document is shown, and what is shown of it is read as
an equal value and finds the row again exactly where the value is shown in full. -/
theorem finds_again_iff
    (table : String)
    (column : Column)
    (codec : ColumnCodec)
    (mapped : ofColumn table column = .ok codec)
    (document : Json)
    (wellFormed : document.isWellFormed = true)
    (path : String)
    (value : Value)
    (decoded : codec.decode document path = .ok value)
    (notNull : value ≠ .null) :
    ∃ shown, codec.encode value = .ok shown ∧
      (∀ path, (∃ again, codec.decodeNonNull shown path = .ok again ∧ value.equal again = true) ↔
        codec.codec.showsInFull value = true) ∧
      ∀ columns path row, columns.find? (fun other => other.column == column.name) = some codec ->
        fieldValue? row column.name = some value ->
          (FindsRow columns path column.name shown row ↔
            Combinator.ofKey? column.name = none ∧ codec.codec.showsInFull value = true) := by
  obtain ⟨kind, mappedKind, same⟩ := bind_eq_ok.1 mapped
  rw [pure_eq_ok] at same
  subst same
  rcases decode_eq_ok.1 decoded with ⟨_, _, isNull⟩ | ⟨documentNotNull, read⟩
  · exact absurd isNull notNull
  · obtain ⟨shown, isShown, again⟩ :=
      Codec.rereads_iff kind (Codec.findsMembers_of_ofKind mappedKind) wellFormed read
    refine ⟨shown, by rw [encode, isShown], again, fun columns path row found stored => ?_⟩
    have valueNotNull : value.isNull = false := by
      cases value <;> first | rfl | exact absurd rfl notNull
    rw [findsRow_iff found stored valueNotNull (Codec.isNull_show? read documentNotNull isShown),
      again]

/-- A column for the moment of an event. -/
def moment : Column where
  name := "at"
  kind := .timestamp true

/-- A column for prices. -/
def price : Column where
  name := "price"
  kind := .decimal none none

theorem read_moment
    {text : String}
    {timestamp : Timestamp}
    (isTimestamp : Timestamp.ofText? text = some timestamp)
    (path : String) :
    Codec.timestamp.read (.string text) path = .ok (.timestamp timestamp) := by
  rw [Codec.read, plainValue?, isTimestamp]
  · rfl
  all_goals simp

theorem finds_again_moment :
    ∃ codec value shown, ofColumn "events" moment = .ok codec ∧
      codec.decode (.string "2024-02-29T23:30:00.25-01:30") "values.at" = .ok value ∧
      codec.encode value = .ok shown ∧ FindsRow [codec] "where" "at" shown [⟨"at", value⟩] := by
  have isTimestamp : Timestamp.ofText? "2024-02-29T23:30:00.25-01:30" =
      some ⟨⟨2024, 3, 1⟩, ⟨3600, 250000000⟩⟩ := by
    decide +kernel
  have decoded := read_moment isTimestamp "values.at"
  obtain ⟨shown, isShown, _, finds⟩ := finds_again_iff "events" moment ⟨"at", false, .timestamp⟩ rfl
    (.string "2024-02-29T23:30:00.25-01:30") rfl "values.at" _ decoded Value.noConfusion
  exact ⟨_, _, shown, rfl, decoded, isShown, (finds _ _ _ rfl rfl).2 ⟨rfl, rfl⟩⟩

/-- A moment with microseconds is shown without them, and what is shown does not find its row.  A
price that was given as a great number is shown with an exponent, which is refused. -/
theorem not_finds_again :
    (∃ codec value shown again, ofColumn "events" moment = .ok codec ∧
      codec.decode (.string "2024-01-02T03:04:05.123456Z") "values.at" = .ok value ∧
      codec.encode value = .ok shown ∧ codec.decodeNonNull shown "where.at.eq" = .ok again ∧
      value.equal again = false ∧ ¬FindsRow [codec] "where" "at" shown [⟨"at", value⟩]) ∧
      ∃ codec value shown, ofColumn "offers" price = .ok codec ∧
        codec.decode (.number (.float 1e30)) "values.price" = .ok value ∧
        codec.encode value = .ok shown ∧
        ∀ path again, codec.decodeNonNull shown path ≠ .ok again := by
  constructor
  · have isTimestamp : Timestamp.ofText? "2024-01-02T03:04:05.123456Z" =
        some ⟨⟨2024, 1, 2⟩, ⟨11045, 123456000⟩⟩ := by
      decide +kernel
    have isShown : Timestamp.toMillisecondText ⟨⟨2024, 1, 2⟩, ⟨11045, 123456000⟩⟩ =
        "2024-01-02T03:04:05.123Z" := by
      decide +kernel
    have isCut : Timestamp.ofText? "2024-01-02T03:04:05.123Z" =
        some ⟨⟨2024, 1, 2⟩, ⟨11045, 123000000⟩⟩ := by
      decide +kernel
    refine ⟨⟨"at", false, .timestamp⟩, _, .string "2024-01-02T03:04:05.123Z", _, rfl,
      read_moment isTimestamp "values.at", ?_, read_moment isCut "where.at.eq", rfl, ?_⟩
    · rw [← isShown]
      rfl
    · rw [findsRow_iff rfl rfl rfl rfl]
      rintro ⟨_, again, isRead, same⟩
      rw [read_moment isCut] at isRead
      cases isRead
      cases same
  · have written : (JsonNumber.float 1e30).write = "1e+30" := by
      decide +kernel
    have isRead : plainValue? .decimal (.number (.float 1e30)) = some (.string "1e+30") := by
      rw [plainValue?, written]
    have notDecimal : isDecimal (Text.trimBlanks "1e+30".toList) = false := by
      decide +kernel
    refine ⟨⟨"price", false, .decimal⟩, .string "1e+30", .string "1e+30", rfl, ?_, rfl, ?_⟩
    · refine decode_eq_ok.2 (.inr ⟨Json.noConfusion, ?_⟩)
      rw [Codec.read, isRead]
      all_goals simp
    · intro path again
      change Codec.decimal.read (.string "1e+30") path ≠ _
      rw [Codec.read, plainValue?, notDecimal, if_neg Bool.false_ne_true]
      · rintro ⟨⟩
      all_goals simp

end ColumnCodec
end RelationalApi
