import RelationalApi.Storage.Comparison
import RelationalApi.Storage.Filter
import RelationalApi.Storage.Query
import RelationalApi.Text.Case
import RelationalApi.Text.Pattern

/-!
# Filters and orders on stored rows

A comparison with a null or absent field does not hold, whatever the comparison.  Patterns apply
to texts only; they ignore the case of ASCII letters, or of all letters.

Rows that no key of an order tells apart keep their stored order.
-/

namespace RelationalApi

/-- A stored row: a field for each column of its table, in the order of the columns. -/
abbrev StoredRow := List FieldValue

/-- The value of a field that is neither absent nor null. -/
def present? (row : StoredRow) (field : String) : Option Value :=
  match fieldValue? row field with
  | some value => if value.isNull then none else some value
  | none => none

/-- Whether a comparison holds between two values that are not null. -/
def Comparison.holds (comparison : Comparison) (left right : Value) : Bool :=
  match comparison with
  | equal => left.equal right
  | notEqual => !left.equal right
  | less => left.order? right == some .lt
  | lessOrEqual => left.order? right == some .lt || left.order? right == some .eq
  | greater => left.order? right == some .gt
  | greaterOrEqual => left.order? right == some .gt || left.order? right == some .eq

/-- Whether a text matches a pattern. -/
def PatternTest.holds (test : PatternTest) (text pattern : String) : Bool :=
  let fold (text : String) : List Char :=
    if test.ignoresCase then Text.lowercase text.toList else text.toList.map Char.toLower
  Text.matchTokens (Text.patternTokens (fold pattern)) (fold text) != test.negated

namespace Filter

mutual

/-- Whether a filter holds on a row. -/
def holds (row : StoredRow) : Filter → Bool
  | compare comparison field value =>
    match present? row field with
    | some stored => comparison.holds stored value
    | none => false
  | member negated field values =>
    match present? row field with
    | some stored => (values.any fun value => stored.equal value) != negated
    | none => false
  | nullness negated field => (present? row field).isSome == negated
  | pattern test field text =>
    match fieldValue? row field with
    | some (.string stored) => test.holds stored text
    | _ => false
  | and filters => holdsAll row filters
  | or filters => holdsAny row filters
  | not filter => !holds row filter

/-- Whether all filters hold on a row. -/
def holdsAll (row : StoredRow) : List Filter → Bool
  | [] => true
  | filter :: filters => holds row filter && holdsAll row filters

/-- Whether some filter holds on a row. -/
def holdsAny (row : StoredRow) : List Filter → Bool
  | [] => false
  | filter :: filters => holds row filter || holdsAny row filters

end

/-- Whether a filter, if there is one, holds on a row. -/
def accepts (filter : Option Filter) (row : StoredRow) : Bool :=
  match filter with
  | some filter => filter.holds row
  | none => true

end Filter

/-- The order of two rows by keys, the first of which that tells them apart decides. -/
def compareRows (left right : StoredRow) : List SortKey → Ordering
  | [] => .eq
  | key :: keys =>
    let order := sortOrder (fieldValue? left key.field) (fieldValue? right key.field)
    let order := match key.direction with
      | .ascending => order
      | .descending => order.swap
    order.then (compareRows left right keys)

/-- Puts a row into rows in descending order, in front of those that it does not precede. -/
def insertDescending (keys : List SortKey) (row : StoredRow) : List StoredRow → List StoredRow
  | [] => [row]
  | last :: others =>
    if compareRows row last keys == .lt then last :: insertDescending keys row others
    else row :: last :: others

/-- The rows in the order of keys. -/
def sortRows (keys : List SortKey) (rows : List StoredRow) : List StoredRow :=
  (rows.foldl (fun sorted row => insertDescending keys row sorted) []).reverse

end RelationalApi
