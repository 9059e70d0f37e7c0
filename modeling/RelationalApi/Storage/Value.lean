import RelationalApi.Calendar.Timestamp
import RelationalApi.Json.Basic

/-!
# Stored values

The values that storage and engine exchange.  A value carries its own kind, so a column may hold a
value of a kind that does not suit it; whether it can be shown is decided when it is shown.
-/

namespace RelationalApi

/-- A value of a stored row. -/
inductive Value where
  | null
  | bool (value : Bool)
  | int (value : Int64)
  | uint (value : UInt64)
  | float (value : Float)
  | string (text : String)
  | bytes (content : List UInt8)
  | date (date : Date)
  | time (time : Time)
  | timestamp (timestamp : Timestamp)
  | json (document : Json)
  | array (items : List Value)
  deriving Repr, Inhabited

namespace Value

/-- The word for the kind of a value in messages. -/
def kindName : Value → String
  | null => "null"
  | bool _ => "bool"
  | int _ => "int"
  | uint _ => "uint"
  | float _ => "float"
  | string _ => "string"
  | bytes _ => "bytes"
  | date _ => "date"
  | time _ => "time"
  | timestamp _ => "timestamp"
  | json _ => "json"
  | array _ => "array"

def isNull : Value → Bool
  | null => true
  | _ => false

def bool? : Value → Option Bool
  | bool value => some value
  | _ => none

/-- The signed 64-bit number that a value is. -/
def int? : Value → Option Int64
  | int value => some value
  | uint value => if value.toNat < Nat.pow 2 63 then some (Int64.ofNat value.toNat) else none
  | _ => none

/-- The double nearest to the number that a value is. -/
def float? : Value → Option Float
  | float value => some value
  | int value => some value.toFloat
  | uint value => some value.toFloat
  | _ => none

def string? : Value → Option String
  | string text => some text
  | _ => none

def bytes? : Value → Option (List UInt8)
  | bytes content => some content
  | _ => none

/-- The value of an optional value, null if there is none. -/
def ofOption {α : Type} (make : α → Value) : Option α → Value
  | some value => make value
  | none => null

end Value

/-- A value given to a field. -/
structure FieldValue where
  field : String
  value : Value
  deriving Repr, Inhabited

/-- The value of the first field of a name. -/
def fieldValue? (fields : List FieldValue) (name : String) : Option Value :=
  (fields.find? fun entry => entry.field == name).map (·.value)

end RelationalApi
