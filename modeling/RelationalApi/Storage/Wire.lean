import RelationalApi.Calendar.Spaced
import RelationalApi.Json.Fields
import RelationalApi.Storage.Mutation
import RelationalApi.Storage.Query
import RelationalApi.Storage.Row

/-!
# Documents for requests and answers

The JSON form of values, filters, queries, mutations and rows.  A choice between kinds is written
as an object whose one key is the name of the kind, and a record as an object of its fields.  A
record is also read from a list of all its fields, and a kind without content also from an object
that gives it null.  Reading returns nothing for a document that is not of the form.
-/

namespace RelationalApi

/-- A choice between kinds. -/
def Json.tagged (tag : String) (content : Json) : Json :=
  .object [(tag, content)]

/-- A double, also from a whole number. -/
def Json.float? : Json → Option Float
  | .number (.float value) => some value
  | .number (.int value) => some (Float.ofInt value)
  | _ => none

/-- A whole number from `least` to `greatest`. -/
def Json.intWithin? (least greatest : Int) (document : Json) : Option Int := do
  let value ← document.int?
  if least ≤ value && value ≤ greatest then some value else none

/-- A natural number of at most 64 bits. -/
def Json.natural64? (document : Json) : Option Nat :=
  (document.intWithin? 0 (Int.pow 2 64 - 1)).map Int.toNat

namespace Value

mutual

/-- The document of a value. -/
def toJson : Value → Json
  | null => .string "Null"
  | bool value => .tagged "Bool" (.bool value)
  | int value => .tagged "Int" (.int value.toInt)
  | uint value => .tagged "UInt" (.nat value.toNat)
  | float value => .tagged "Float" (.number (.float value))
  | string text => .tagged "String" (.string text)
  | bytes content => .tagged "Bytes" (.array (content.map fun byte => .nat byte.toNat))
  | date day => .tagged "Date" (.string day.toText)
  | time clock => .tagged "Time" (.string clock.toText)
  | timestamp moment => .tagged "Timestamp" (.string moment.toText)
  | json document => .tagged "Json" document
  | array items => .tagged "Array" (.array (toJsonItems items))

/-- The documents of values. -/
def toJsonItems : List Value → List Json
  | [] => []
  | item :: items => toJson item :: toJsonItems items

end

/-- The value of a kind without items. -/
def ofTagged? (tag : String) (content : Json) : Option Value :=
  match tag with
  | "Null" => if content.isNull then some null else none
  | "Bool" => content.bool?.map bool
  | "Int" => (content.intWithin? (-Int.pow 2 63) (Int.pow 2 63 - 1)).map fun value =>
      int (Int64.ofInt value)
  | "UInt" => content.natural64?.map fun value => uint (UInt64.ofNat value)
  | "Float" => content.float?.map float
  | "String" => content.string?.map string
  | "Bytes" =>
    (content.listOf? (·.intWithin? 0 255)).map fun content =>
      bytes (content.map fun byte => UInt8.ofNat byte.toNat)
  | "Date" => (content.string?.bind Date.ofSpacedText?).map date
  | "Time" => (content.string?.bind Time.ofSpacedText?).map time
  | "Timestamp" => (content.string?.bind Timestamp.ofSpacedText?).map timestamp
  | "Json" => some (json content)
  | _ => none

mutual

/-- The value that a document is. -/
def ofJson? : Json → Option Value
  | .string "Null" => some null
  | .object [("Array", .array items)] => (ofJsonItems? items).map array
  | .object [(tag, content)] => ofTagged? tag content
  | _ => none

/-- The values that documents are. -/
def ofJsonItems? : List Json → Option (List Value)
  | [] => some []
  | item :: items => do
    let value ← ofJson? item
    let values ← ofJsonItems? items
    some (value :: values)

end

end Value

namespace FieldValue

def toJson (entry : FieldValue) : Json :=
  .object [("field", .string entry.field), ("value", entry.value.toJson)]

def ofJson? (document : Json) : Option FieldValue := do
  match ← document.record? ["field", "value"] with
  | [field, value] => some ⟨← field.string?, ← Value.ofJson? value⟩
  | _ => none

end FieldValue

namespace Filter

/-- The name of a comparison. -/
def comparisonTag : Comparison → String
  | .equal => "Eq"
  | .notEqual => "Ne"
  | .less => "Lt"
  | .lessOrEqual => "Le"
  | .greater => "Gt"
  | .greaterOrEqual => "Ge"

/-- The name of a pattern test. -/
def patternTag (test : PatternTest) : String :=
  (if test.negated then "Not" else "") ++ if test.ignoresCase then "ILike" else "Like"

/-- The comparison of a name. -/
def comparisonOfTag? : String → Option Comparison
  | "Eq" => some .equal
  | "Ne" => some .notEqual
  | "Lt" => some .less
  | "Le" => some .lessOrEqual
  | "Gt" => some .greater
  | "Ge" => some .greaterOrEqual
  | _ => none

/-- The pattern test of a name. -/
def patternOfTag? : String → Option PatternTest
  | "Like" => some ⟨false, false⟩
  | "NotLike" => some ⟨false, true⟩
  | "ILike" => some ⟨true, false⟩
  | "NotILike" => some ⟨true, true⟩
  | _ => none

mutual

/-- The document of a filter. -/
def toJson : Filter → Json
  | compare comparison field value =>
    .tagged (comparisonTag comparison)
      (.object [("field", .string field), ("value", value.toJson)])
  | member negated field values =>
    .tagged (if negated then "NotIn" else "In")
      (.object [("field", .string field), ("values", .array (Value.toJsonItems values))])
  | nullness negated field =>
    .tagged (if negated then "IsNotNull" else "IsNull") (.object [("field", .string field)])
  | pattern test field text =>
    .tagged (patternTag test) (.object [("field", .string field), ("pattern", .string text)])
  | and filters => .tagged "And" (.array (toJsonItems filters))
  | or filters => .tagged "Or" (.array (toJsonItems filters))
  | not filter => .tagged "Not" (toJson filter)

/-- The documents of filters. -/
def toJsonItems : List Filter → List Json
  | [] => []
  | filter :: filters => toJson filter :: toJsonItems filters

end

/-- The field that a filter tests, and what it is tested against under the given name. -/
def operands? (content : Json) (operand : String) : Option (String × Json) := do
  match ← content.record? ["field", operand] with
  | [field, operand] => some (← field.string?, operand)
  | _ => none

/-- The filter of a kind that tests for membership in a list. -/
def memberOf? (negated : Bool) (content : Json) : Option Filter := do
  let (field, values) ← operands? content "values"
  some (member negated field (← values.listOf? Value.ofJson?))

/-- The filter of a kind that tests for null. -/
def nullnessOf? (negated : Bool) (content : Json) : Option Filter := do
  match ← content.record? ["field"] with
  | [field] => some (nullness negated (← field.string?))
  | _ => none

/-- The filter of a kind that tests one field. -/
def ofTagged? (tag : String) (content : Json) : Option Filter :=
  match comparisonOfTag? tag, patternOfTag? tag, tag with
  | some comparison, _, _ => do
    let (field, value) ← operands? content "value"
    some (compare comparison field (← Value.ofJson? value))
  | none, some test, _ => do
    let (field, text) ← operands? content "pattern"
    some (pattern test field (← text.string?))
  | none, none, "In" => memberOf? false content
  | none, none, "NotIn" => memberOf? true content
  | none, none, "IsNull" => nullnessOf? false content
  | none, none, "IsNotNull" => nullnessOf? true content
  | none, none, _ => none

mutual

/-- The filter that a document is. -/
def ofJson? : Json → Option Filter
  | .object [("And", .array items)] => (ofJsonItems? items).map and
  | .object [("Or", .array items)] => (ofJsonItems? items).map or
  | .object [("Not", item)] => (ofJson? item).map not
  | .object [(tag, content)] => ofTagged? tag content
  | _ => none

/-- The filters that documents are. -/
def ofJsonItems? : List Json → Option (List Filter)
  | [] => some []
  | item :: items => do
    let filter ← ofJson? item
    let filters ← ofJsonItems? items
    some (filter :: filters)

end

end Filter

namespace SortKey

def toJson (key : SortKey) : Json :=
  .object [("field", .string key.field), ("direction", .string key.direction.word)]

def directionOfWord? : String → Option Direction
  | "asc" => some .ascending
  | "desc" => some .descending
  | _ => none

def ofJson? (document : Json) : Option SortKey := do
  match ← document.record? ["field", "direction"] with
  | [field, direction] =>
    some ⟨← field.string?, ← (direction.word? Json.isNull).bind directionOfWord?⟩
  | _ => none

end SortKey

namespace SelectQuery

mutual

/-- The document of a query. -/
def toJson : SelectQuery → Json
  | ⟨table, columns, filter, orderBy, offset, limit, includes⟩ =>
    .object [("table", .string table), ("columns", .strings columns),
      ("filter", .ofOption Filter.toJson filter),
      ("order_by", .array (orderBy.map SortKey.toJson)),
      ("offset", .ofOption Json.nat offset), ("limit", .ofOption Json.nat limit),
      ("with", .array (toJsonIncludes includes))]

/-- The documents of included queries. -/
def toJsonIncludes : List (String × SelectQuery) → List Json
  | [] => []
  | (relation, query) :: includes =>
    .object [("relation", .string relation), ("query", toJson query)] ::
      toJsonIncludes includes

end

/-- The names of the fields in documents. -/
def fieldNames : List String :=
  ["table", "columns", "filter", "order_by", "offset", "limit", "with"]

/-- The query of the values of its fields, given the included queries. -/
def ofFields? (includes : List (String × SelectQuery)) : List Json → Option SelectQuery
  | [table, columns, filter, orderBy, offset, limit, _] => do
    let table ← table.string?
    let columns ← columns.listOf? Json.string?
    let filter ← filter.optional? Filter.ofJson?
    let orderBy ← orderBy.listOf? SortKey.ofJson?
    let offset ← offset.optional? Json.natural64?
    let limit ← limit.optional? Json.natural64?
    some ⟨table, columns, filter, orderBy, offset, limit, includes⟩
  | _ => none

mutual

/-- The query that a document is. -/
def ofJson? : Json → Option SelectQuery
  | .object entries => do
    let includes ← includesOf? entries
    let fields ← (Json.object entries).record? fieldNames
    ofFields? includes fields
  | .array items => do
    let includes ← lastIncludes? items
    let fields ← (Json.array items).record? fieldNames
    ofFields? includes fields
  | _ => none

/-- The included queries among the entries of an object. -/
def includesOf? : List (String × Json) → Option (List (String × SelectQuery))
  | [] => none
  | ("with", .array items) :: _ => ofJsonIncludes? items
  | _ :: entries => includesOf? entries

/-- The included queries that the last item of a list holds. -/
def lastIncludes? : List Json → Option (List (String × SelectQuery))
  | [] => none
  | [.array items] => ofJsonIncludes? items
  | _ :: items => lastIncludes? items

/-- The included queries that documents are. -/
def ofJsonIncludes? : List Json → Option (List (String × SelectQuery))
  | [] => some []
  | .object entries :: items => do
    let relation ← Json.entry? Json.string? (.object entries) "relation"
    let query ← includedQuery? entries
    let includes ← ofJsonIncludes? items
    some ((relation, query) :: includes)
  | .array [.string relation, document] :: items => do
    let query ← ofJson? document
    let includes ← ofJsonIncludes? items
    some ((relation, query) :: includes)
  | _ => none

/-- The query among the entries of an included query. -/
def includedQuery? : List (String × Json) → Option SelectQuery
  | [] => none
  | ("query", document) :: _ => ofJson? document
  | _ :: entries => includedQuery? entries

end

end SelectQuery

namespace Mutation

/-- The words for the actions on a conflict. -/
def conflictWord : ConflictAction → String
  | .doNothing => "do_nothing"
  | .error => "error"

def conflictOfWord? : String → Option ConflictAction
  | "do_nothing" => some .doNothing
  | "error" => some .error
  | _ => none

/-- The document of a mutation. -/
def toJson : Mutation → Json
  | insert ⟨table, rows, returning, onConflict⟩ =>
    .tagged "Insert" <| .object [("table", .string table),
      ("rows", .array (rows.map fun row => .array (row.map FieldValue.toJson))),
      ("returning", .ofOption Json.strings returning),
      ("on_conflict", .string (conflictWord onConflict))]
  | update ⟨table, assignments, filter, returning⟩ =>
    .tagged "Update" <| .object [("table", .string table),
      ("set", .array (assignments.map FieldValue.toJson)),
      ("filter", .ofOption Filter.toJson filter),
      ("returning", .ofOption Json.strings returning)]
  | delete ⟨table, filter, returning⟩ =>
    .tagged "Delete" <| .object [("table", .string table),
      ("filter", .ofOption Filter.toJson filter),
      ("returning", .ofOption Json.strings returning)]

/-- The mutation of a kind. -/
def ofTagged? (tag : String) (content : Json) : Option Mutation := do
  let columnsOf (document : Json) := document.optional? (Json.listOf? Json.string?)
  match tag with
  | "Insert" =>
    match ← content.record? ["table", "rows", "returning", "on_conflict"] with
    | [table, rows, returning, onConflict] =>
      let table ← table.string?
      let rows ← rows.listOf? (Json.listOf? FieldValue.ofJson?)
      let returning ← columnsOf returning
      let onConflict ← (onConflict.word? Json.isNull).bind conflictOfWord?
      some (insert ⟨table, rows, returning, onConflict⟩)
    | _ => none
  | "Update" =>
    match ← content.record? ["table", "set", "filter", "returning"] with
    | [table, assignments, filter, returning] =>
      let table ← table.string?
      let assignments ← assignments.listOf? FieldValue.ofJson?
      let filter ← filter.optional? Filter.ofJson?
      let returning ← columnsOf returning
      some (update ⟨table, assignments, filter, returning⟩)
    | _ => none
  | "Delete" =>
    match ← content.record? ["table", "filter", "returning"] with
    | [table, filter, returning] =>
      let table ← table.string?
      let filter ← filter.optional? Filter.ofJson?
      let returning ← columnsOf returning
      some (delete ⟨table, filter, returning⟩)
    | _ => none
  | _ => none

/-- The mutation that a document is. -/
def ofJson? : Json → Option Mutation
  | .object [(tag, content)] => ofTagged? tag content
  | _ => none

end Mutation

namespace Row

mutual

/-- The document of a row. -/
def toJson : Row → Json
  | ⟨fields, relations⟩ =>
    .object [("fields", .array (fields.map FieldValue.toJson)),
      ("relations", .array (toJsonRelations relations))]

/-- The documents of followed relations. -/
def toJsonRelations : List (String × Nested Row) → List Json
  | [] => []
  | (name, .single none) :: relations =>
    .array [.string name, .tagged "Single" .null] :: toJsonRelations relations
  | (name, .single (some row)) :: relations =>
    .array [.string name, .tagged "Single" (toJson row)] :: toJsonRelations relations
  | (name, .list rows) :: relations =>
    .array [.string name, .tagged "List" (.array (toJsonRows rows))] ::
      toJsonRelations relations

/-- The documents of rows. -/
def toJsonRows : List Row → List Json
  | [] => []
  | row :: rows => toJson row :: toJsonRows rows

end

mutual

/-- The row that a document is. -/
def ofJson? : Json → Option Row
  | .object entries => do
    let fields ← Json.entry? (Json.listOf? FieldValue.ofJson?) (.object entries) "fields"
    let relations ← relationsOf? entries
    some ⟨fields, relations⟩
  | .array [fields, .array items] => do
    let fields ← fields.listOf? FieldValue.ofJson?
    let relations ← ofJsonRelations? items
    some ⟨fields, relations⟩
  | _ => none

/-- The followed relations among the entries of an object. -/
def relationsOf? : List (String × Json) → Option (List (String × Nested Row))
  | [] => none
  | ("relations", .array items) :: _ => ofJsonRelations? items
  | _ :: entries => relationsOf? entries

/-- The followed relations that documents are. -/
def ofJsonRelations? : List Json → Option (List (String × Nested Row))
  | [] => some []
  | .array [.string name, .object [("Single", .null)]] :: items => do
    let relations ← ofJsonRelations? items
    some ((name, .single none) :: relations)
  | .array [.string name, .object [("Single", document)]] :: items => do
    let row ← ofJson? document
    let relations ← ofJsonRelations? items
    some ((name, .single (some row)) :: relations)
  | .array [.string name, .object [("List", .array documents)]] :: items => do
    let rows ← ofJsonRows? documents
    let relations ← ofJsonRelations? items
    some ((name, .list rows) :: relations)
  | _ => none

/-- The rows that documents are. -/
def ofJsonRows? : List Json → Option (List Row)
  | [] => some []
  | item :: items => do
    let row ← ofJson? item
    let rows ← ofJsonRows? items
    some (row :: rows)

end

end Row

namespace MutationResult

def toJson (result : MutationResult) : Json :=
  .object [("affected", .nat result.affected),
    ("rows", .ofOption (fun rows => .array (Row.toJsonRows rows)) result.rows)]

def ofJson? (document : Json) : Option MutationResult := do
  match ← document.record? ["affected", "rows"] with
  | [affected, rows] =>
    some ⟨← affected.natural64?, ← rows.optional? (Json.listOf? Row.ofJson?)⟩
  | _ => none

end MutationResult
end RelationalApi
