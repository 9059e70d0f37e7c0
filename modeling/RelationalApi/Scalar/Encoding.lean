import RelationalApi.Decimal.Text
import RelationalApi.Encoding.Base64
import RelationalApi.Error.Execution
import RelationalApi.Json.Reader
import RelationalApi.Scalar.Codec
import RelationalApi.Storage.Value

/-!
# Showing stored values

A codec shows null as null and every value that suits its kind in one form.  A value of any other
kind is not shown, except that some columns also show values that a storage may hold in their
place, such as texts in columns for dates.
-/

namespace RelationalApi

/-- A double as a number, if it is finite. -/
def finiteNumber? (value : Float) : Option Json :=
  if value.isNaN || value.isInf then none else some (.number (.float value))

/-- An integer in the form for its width. -/
def showInteger (bits : Nat) (unsigned : Bool) (value : Int) : Json :=
  match integerForm bits unsigned with
  | .text => .string (toString value)
  | _ => .int value

/-- A text in a timestamp column: the timestamp that it is, or the text itself. -/
def showTimestampText (text : String) : Json :=
  match Timestamp.ofText? text with
  | some timestamp => .string timestamp.toMillisecondText
  | none => .string text

/-- A text in a document column: the document that it is, or the text itself. -/
def showDocumentText (text : String) : Json :=
  (Json.read? text).getD (.string text)

/-- The value of a column without items, if it can be shown. -/
def showItem? : Codec → Value → Option Json
  | .integer bits unsigned, .int value => some (showInteger bits unsigned value.toInt)
  | .integer bits unsigned, .uint value => some (showInteger bits unsigned value.toNat)
  | .float, .float value => finiteNumber? value
  | .float, .int value => some (.int value.toInt)
  | .float, .uint value => some (.nat value.toNat)
  | .decimal, .string text => some (.string text)
  | .decimal, .int value => some (.string (toString value.toInt))
  | .decimal, .uint value => some (.string (toString value.toNat))
  | .decimal, .float value => some (.string (Decimal.columnStyle.format value))
  | .boolean, .bool value => some (.bool value)
  | .text _, .string text => some (.string text)
  | .uuid, .string text => some (.string text)
  | .date, .date date => some (.string date.toText)
  | .date, .timestamp timestamp => some (.string timestamp.date.toText)
  | .date, .string text => some (.string text)
  | .time, .time time => some (.string time.toText)
  | .time, .string text => some (.string text)
  | .timestamp, .timestamp timestamp => some (.string timestamp.toMillisecondText)
  | .timestamp, .string text => some (showTimestampText text)
  | .binary, .bytes content => some (.string (Base64.encode content))
  | .json, .json document => some document
  | .json, .string text => some (showDocumentText text)
  | .json, .bool value => some (.bool value)
  | .json, .int value => some (.int value.toInt)
  | .json, .float value => finiteNumber? value
  | .enumeration _ members, .string text =>
    (members.find? fun member => member.value == text).map fun member => .string member.name
  | _, _ => none

mutual

/-- The document that shows a value, if the codec can show it. -/
def Codec.show? (codec : Codec) : Value → Option Json
  | .null => some .null
  | .array items =>
    match codec with
    | .list element => (Codec.showItems? element items).map .array
    | _ => none
  | value => showItem? codec value

/-- The documents that show values, if the codec can show them all. -/
def Codec.showItems? (codec : Codec) : List Value → Option (List Json)
  | [] => some []
  | item :: items => do
    let first ← Codec.show? codec item
    let others ← Codec.showItems? codec items
    return first :: others

end

/-- The document that shows a value of a column. -/
def ColumnCodec.encode (column : ColumnCodec) (value : Value) : Except ExecutionError Json :=
  match column.codec.show? value with
  | some document => .ok document
  | none => .error (.valueNotShown column.column value.kindName column.codec.form)

end RelationalApi
