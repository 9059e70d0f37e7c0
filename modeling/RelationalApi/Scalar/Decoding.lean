import RelationalApi.Encoding.Base64
import RelationalApi.Encoding.Uuid
import RelationalApi.Error.Argument
import RelationalApi.Json.Writer
import RelationalApi.Scalar.Codec
import RelationalApi.Storage.Value

/-!
# Reading values from clients

A codec reads the form in which it shows values and a few more: a fraction without a fractional
part is an integer, a number is a decimal, milliseconds are a timestamp, and an enum member may be
given by its stored text.  Null is not read by any codec; a nullable column admits it.
-/

namespace RelationalApi

/-- The least and the greatest integer of a number of bits. -/
def integerRange (bits : Nat) (unsigned : Bool) : Int × Int :=
  if unsigned then (0, Int.pow 2 bits - 1)
  else (-Int.pow 2 (bits - 1), Int.pow 2 (bits - 1) - 1)

/-- The signed 64-bit integer that a number denotes.  Fractions must have no fractional part, and
what is beyond 64 bits becomes the nearest integer within. -/
def wholeInt64? : JsonNumber → Option Int
  | .int value => some (min value (Int.pow 2 63 - 1))
  | .float value => if value.floor == value then some value.toInt64.toInt else none

/-- The text of a 64-bit integer: a text without the blanks around it, or the digits of a whole
number. -/
def integerText? : Json → Option (List Char)
  | .string text => some (Text.trimBlanks text.toList)
  | .number (.int value) => some (toString value).toList
  | _ => none

/-- The 64-bit integer that a text denotes. -/
def wideInteger? (unsigned : Bool) (characters : List Char) : Option Value :=
  if unsigned then do
    let value ← Text.natural? characters
    if value < Nat.pow 2 64 then some (.uint (UInt64.ofNat value)) else none
  else do
    let value ← Text.integer? characters
    if -Int.pow 2 63 ≤ value && value < Int.pow 2 63 then some (.int (Int64.ofInt value)) else none

/-- A decimal: an optional sign, and digits with at most one point among or around them. -/
def isDecimal (characters : List Char) : Bool :=
  let unsigned := match characters with
    | '-' :: rest => rest
    | '+' :: rest => rest
    | rest => rest
  let whole := unsigned.takeWhile (· != '.')
  let fraction := (unsigned.dropWhile (· != '.')).drop 1
  !(whole.isEmpty && fraction.isEmpty) && whole.all Char.isDigit && fraction.all Char.isDigit

/-- The value that a document is for a codec without range or length, other than a list. -/
def plainValue? : Codec → Json → Option Value
  | .float, .number (.float value) => some (.float value)
  | .float, .number (.int value) => some (.float (Float.ofInt value))
  | .decimal, .string text =>
    let trimmed := Text.trimBlanks text.toList
    if isDecimal trimmed then some (.string (String.ofList trimmed)) else none
  | .decimal, .number value => some (.string value.write)
  | .boolean, .bool value => some (.bool value)
  | .uuid, .string text => (Uuid.canonical? text).map .string
  | .date, .string text => (Date.ofText? text).map .date
  | .time, .string text => (Time.ofText? text).map .time
  | .timestamp, .string text => (Timestamp.ofText? text).map .timestamp
  | .timestamp, .number (.int value) =>
    if value < Int.pow 2 63 then (Timestamp.ofMilliseconds? value).map .timestamp else none
  | .binary, .string text => (Base64.decode? text).map .bytes
  | .json, document => some (.json document)
  | .enumeration _ members, .string text =>
    (members.find? fun member => member.name == text || member.value == text).map fun member =>
      .string member.value
  | _, _ => none

/-- Reads an integer of a width. -/
def readInteger (bits : Nat) (unsigned : Bool) (document : Json) (path : String) :
    Except ArgumentError Value :=
  let invalid := ArgumentError.invalidValue path (Codec.integer bits unsigned).form document
  match integerForm bits unsigned with
  | .text =>
    match (integerText? document).bind (wideInteger? unsigned) with
    | some value => .ok value
    | none => .error invalid
  | _ =>
    match document with
    | .number number =>
      match wholeInt64? number with
      | some value =>
        let (least, greatest) := integerRange bits unsigned
        if value < least || greatest < value then
          .error (.invalid path (.outOfRange value bits))
        else .ok (.int (Int64.ofInt value))
      | none => .error invalid
    | _ => .error invalid

/-- Reads a text of bounded length. -/
def readText (length : Option Nat) (document : Json) (path : String) :
    Except ArgumentError Value :=
  match document with
  | .string text =>
    match length with
    | some most =>
      if most < text.length then .error (.invalid path (.tooLong most)) else .ok (.string text)
    | none => .ok (.string text)
  | _ => .error (.invalidValue path (Codec.text length).form document)

/-- Reads the items of a list, each at its own path. -/
def readItems (read : Json → String → Except ArgumentError Value) (path : String) (index : Nat) :
    List Json → Except ArgumentError (List Value)
  | [] => .ok []
  | item :: items => do
    let value ← read item (itemPath path index)
    let values ← readItems read path (index + 1) items
    return value :: values

/-- Reads a value that is not null. -/
def Codec.read : Codec → Json → String → Except ArgumentError Value
  | .integer bits unsigned, document, path => readInteger bits unsigned document path
  | .text length, document, path => readText length document path
  | .list element, document, path =>
    match document with
    | .array items => do
      let values ← readItems element.read path 0 items
      return .array values
    | _ => .error (.invalidValue path (Codec.list element).form document)
  | codec, document, path =>
    match plainValue? codec document with
    | some value => .ok value
    | none => .error (.invalidValue path codec.form document)

namespace ColumnCodec

/-- Reads a value of a column.  Null is admitted by nullable columns only. -/
def decode (column : ColumnCodec) (document : Json) (path : String) :
    Except ArgumentError Value :=
  if document.isNull then
    if column.nullable then .ok .null
    else .error (.invalidValue path ("non-null " ++ column.codec.form) document)
  else column.codec.read document path

/-- Reads a value of a column that must not be null whatever the column admits. -/
def decodeNonNull (column : ColumnCodec) (document : Json) (path : String) :
    Except ArgumentError Value :=
  column.codec.read document path

end ColumnCodec
end RelationalApi
