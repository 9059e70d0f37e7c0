import RelationalApi.Proofs.Json.Equality

/-!
# Equality of stored values

Swapping two values swaps their order, also between whole numbers and doubles.  Equality of values
is therefore symmetric, provided that the documents in them are well-formed: which of two rows is
compared with the other does not matter.
-/

namespace RelationalApi

instance : Std.OrientedOrd Date where
  eq_swap {left right} := by
    change (compare left.year right.year).then
        ((compare left.month right.month).then ((compare left.day right.day).then .eq)) =
      ((compare right.year left.year).then
        ((compare right.month left.month).then ((compare right.day left.day).then .eq))).swap
    simp only [Ordering.swap_then, ← Std.OrientedOrd.eq_swap]
    rfl

instance : Std.OrientedOrd Time where
  eq_swap {left right} := by
    change (compare left.second right.second).then
        ((compare left.nanosecond right.nanosecond).then .eq) =
      ((compare right.second left.second).then
        ((compare right.nanosecond left.nanosecond).then .eq)).swap
    simp only [Ordering.swap_then, ← Std.OrientedOrd.eq_swap]
    rfl

instance : Std.OrientedOrd Timestamp where
  eq_swap {left right} := by
    change (compare left.date right.date).then ((compare left.time right.time).then .eq) =
      ((compare right.date left.date).then ((compare right.time left.time).then .eq)).swap
    simp only [Ordering.swap_then, ← Std.OrientedOrd.eq_swap]
    rfl

theorem compareBytes_swap (left right : List UInt8) :
    compareBytes right left = (compareBytes left right).swap := by
  induction left generalizing right with
  | nil => cases right <;> rfl
  | cons left lefts inductionHypothesis =>
      cases right with
      | nil => rfl
      | cons right rights =>
          rw [compareBytes, compareBytes, Ordering.swap_then, inductionHypothesis,
            Std.OrientedOrd.eq_swap (a := right)]

namespace Value

/-- Swapping two values swaps their order. -/
theorem order?_swap (left right : Value) :
    right.order? left = (left.order? right).map Ordering.swap := by
  cases left with
  | int left =>
      cases right with
      | int right => exact congrArg some Std.OrientedOrd.eq_swap
      | uint right => exact congrArg some Std.OrientedOrd.eq_swap
      | float right => exact Double.compareFloats_swap left.toFloat right
      | _ => rfl
  | uint left =>
      cases right with
      | int right => exact congrArg some Std.OrientedOrd.eq_swap
      | uint right => exact congrArg some Std.OrientedOrd.eq_swap
      | float right => exact Double.compareFloats_swap left.toFloat right
      | _ => rfl
  | float left =>
      cases right with
      | int right => exact Double.compareFloats_swap left right.toFloat
      | uint right => exact Double.compareFloats_swap left right.toFloat
      | float right => exact Double.compareFloats_swap left right
      | _ => rfl
  | bool left =>
      cases right with
      | bool right => cases left <;> cases right <;> rfl
      | _ => rfl
  | string left =>
      cases right with
      | string right => exact congrArg some Std.OrientedOrd.eq_swap
      | _ => rfl
  | bytes left =>
      cases right with
      | bytes right => exact congrArg some (compareBytes_swap left right)
      | _ => rfl
  | date left =>
      cases right with
      | date right => exact congrArg some Std.OrientedOrd.eq_swap
      | _ => rfl
  | time left =>
      cases right with
      | time right => exact congrArg some Std.OrientedOrd.eq_swap
      | _ => rfl
  | timestamp left =>
      cases right with
      | timestamp right => exact congrArg some Std.OrientedOrd.eq_swap
      | _ => rfl
  | null => cases right <;> rfl
  | json left => cases right <;> rfl
  | array left => cases right <;> rfl

theorem order?_eq_eq_comm (left right : Value) :
    (left.order? right == some .eq) = (right.order? left == some .eq) := by
  rw [order?_swap left right]
  cases left.order? right with
  | none => rfl
  | some order => cases order <;> rfl

mutual

/-- Whether the documents in a value are well-formed. -/
def isWellFormed : Value → Bool
  | json document => document.isWellFormed
  | array items => itemsWellFormed items
  | _ => true

/-- Whether the documents in all items are well-formed. -/
def itemsWellFormed : List Value → Bool
  | [] => true
  | item :: items => isWellFormed item && itemsWellFormed items

end

theorem itemsWellFormed_iff (items : List Value) :
    itemsWellFormed items = true ↔ ∀ item ∈ items, isWellFormed item = true := by
  induction items with
  | nil => simp [itemsWellFormed]
  | cons item items inductionHypothesis =>
      simp [itemsWellFormed, inductionHypothesis]

theorem equal_null_right (left : Value) : left.equal null = false := by
  cases left <;> simp [equal, order?]

/-- Between values that are not both documents or both arrays, equality is that of the order. -/
theorem equal_eq_order
    {left right : Value}
    (notDocuments : ∀ first second, left = json first -> right = json second -> False)
    (notArrays : ∀ first second, left = array first -> right = array second -> False) :
    left.equal right = (left.order? right == some .eq) := by
  rw [equal]
  · exact notDocuments
  · exact notArrays

mutual

/-- Equality of values with well-formed documents is symmetric. -/
theorem equal_comm
    (left right : Value)
    (leftWellFormed : left.isWellFormed = true)
    (rightWellFormed : right.isWellFormed = true) :
    left.equal right = right.equal left := by
  -- Documents and arrays have an equality of their own only against each other.
  cases left with
  | json left =>
      cases right with
      | json right =>
          rw [equal, equal]
          rw [isWellFormed] at leftWellFormed rightWellFormed
          exact Json.equal_comm leftWellFormed rightWellFormed
      | _ =>
          rw [equal_eq_order (by simp) (by simp), equal_eq_order (by simp) (by simp)]
          exact order?_eq_eq_comm _ _
  | array lefts =>
      cases right with
      | array rights =>
          rw [equal, equal]
          rw [isWellFormed] at leftWellFormed rightWellFormed
          exact equalItems_comm lefts rights leftWellFormed rightWellFormed
      | _ =>
          rw [equal_eq_order (by simp) (by simp), equal_eq_order (by simp) (by simp)]
          exact order?_eq_eq_comm _ _
  | _ =>
      rw [equal_eq_order (by simp) (by simp), equal_eq_order (by simp) (by simp)]
      exact order?_eq_eq_comm _ _

theorem equalItems_comm :
    (lefts rights : List Value) -> itemsWellFormed lefts = true ->
      itemsWellFormed rights = true -> equalItems lefts rights = equalItems rights lefts
  | [], rights, _, _ => by cases rights <;> rfl
  | left :: lefts, rights, leftWellFormed, rightWellFormed => by
      cases rights with
      | nil => rfl
      | cons right rights =>
          rw [itemsWellFormed, Bool.and_eq_true] at leftWellFormed rightWellFormed
          rw [equalItems, equalItems,
            equal_comm left right leftWellFormed.1 rightWellFormed.1,
            equalItems_comm lefts rights leftWellFormed.2 rightWellFormed.2]

end

end Value
end RelationalApi
