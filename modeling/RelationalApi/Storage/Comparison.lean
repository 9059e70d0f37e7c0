import RelationalApi.Storage.Value

/-!
# Comparison of values

Values of one kind are ordered as numbers, texts, bytes or moments.  Whole numbers compare exactly
with each other whatever their sign, and as doubles with doubles.  Null compares with nothing,
documents and arrays have no order, and values of different kinds are incomparable.

Equality extends to documents and arrays, arrays being equal item by item.
-/

namespace RelationalApi

/-- The order of doubles; a value that is not a number has none. -/
def compareFloats (left right : Float) : Option Ordering :=
  if left < right then some .lt
  else if left == right then some .eq
  else if left > right then some .gt
  else none

/-- The order of byte strings. -/
def compareBytes : List UInt8 → List UInt8 → Ordering
  | [], [] => .eq
  | [], _ :: _ => .lt
  | _ :: _, [] => .gt
  | left :: lefts, right :: rights => (compare left right).then (compareBytes lefts rights)

namespace Value

/-- The order of two values, if they are comparable. -/
def order? : Value → Value → Option Ordering
  | bool left, bool right => some (compare left right)
  | int left, int right => some (compare left.toInt right.toInt)
  | uint left, uint right => some (compare left.toNat right.toNat)
  | int left, uint right => some (compare left.toInt (right.toNat : Int))
  | uint left, int right => some (compare (left.toNat : Int) right.toInt)
  | float left, float right => compareFloats left right
  | float left, int right => compareFloats left right.toFloat
  | float left, uint right => compareFloats left right.toFloat
  | int left, float right => compareFloats left.toFloat right
  | uint left, float right => compareFloats left.toFloat right
  | string left, string right => some (compare left right)
  | bytes left, bytes right => some (compareBytes left right)
  | date left, date right => some (compare left right)
  | time left, time right => some (compare left right)
  | timestamp left, timestamp right => some (compare left right)
  | _, _ => none

mutual

/-- Whether two values are equal.  Null is not equal to anything. -/
def equal : Value → Value → Bool
  | json left, json right => left == right
  | array left, array right => equalItems left right
  | left, right => left.order? right == some .eq

/-- Whether two arrays are equal item by item. -/
def equalItems : List Value → List Value → Bool
  | [], [] => true
  | left :: lefts, right :: rights => equal left right && equalItems lefts rights
  | _, _ => false

end

end Value

/-- The order for sorting: null and absent fields first, and incomparable values tie. -/
def sortOrder : Option Value → Option Value → Ordering
  | none, none => .eq
  | none, some .null => .eq
  | some .null, none => .eq
  | some .null, some .null => .eq
  | none, some _ => .lt
  | some .null, some _ => .lt
  | some _, none => .gt
  | some _, some .null => .gt
  | some left, some right => (left.order? right).getD .eq

end RelationalApi
