/-!
# JSON documents

A document keeps the entries of its objects in the order in which they were written, because the
first fault found, the order of filters and the order of answers all follow it.  Whole numbers and
fractions are different kinds of number: `1` and `1.0` are not equal.  Equality of objects ignores
the order of their entries.
-/

namespace RelationalApi

/-- A number of a document: a whole number of at most 64 bits, or a double. -/
inductive JsonNumber where
  | int (value : Int)
  | float (value : Float)
  deriving Repr, BEq, Inhabited

/-- A JSON document. -/
inductive Json where
  | null
  | bool (value : Bool)
  | number (value : JsonNumber)
  | string (text : String)
  | array (items : List Json)
  | object (entries : List (String × Json))
  deriving Repr, Inhabited

/-- The entries of one object, in order. -/
abbrev JsonEntries := List (String × Json)

namespace Json

/-- A whole number. -/
def int (value : Int) : Json :=
  .number (.int value)

/-- A natural number. -/
def nat (value : Nat) : Json :=
  .number (.int value)

/-- A document or null. -/
def ofOption {α : Type} (encode : α → Json) : Option α → Json
  | some value => encode value
  | none => .null

/-- A list of texts. -/
def strings (texts : List String) : Json :=
  .array (texts.map .string)

/-- The word for the kind of a document in error messages. -/
def kindName : Json → String
  | .null => "null"
  | .bool _ => "boolean"
  | .number _ => "number"
  | .string _ => "string"
  | .array _ => "list"
  | .object _ => "object"

def isNull : Json → Bool
  | .null => true
  | _ => false

def bool? : Json → Option Bool
  | .bool value => some value
  | _ => none

def string? : Json → Option String
  | .string text => some text
  | _ => none

def int? : Json → Option Int
  | .number (.int value) => some value
  | _ => none

/-- The natural number that a document is. -/
def nat? : Json → Option Nat
  | .number (.int value) => if 0 ≤ value then some value.toNat else none
  | _ => none

def array? : Json → Option (List Json)
  | .array items => some items
  | _ => none

def object? : Json → Option JsonEntries
  | .object entries => some entries
  | _ => none

/-- The value of an entry, if the document is an object that has it. -/
def get? (document : Json) (key : String) : Option Json :=
  document.object?.bind fun entries => entries.lookup key

mutual

/-- Equality of documents.  Objects are equal when they have as many entries and every entry of
the one has an equal partner of the same key in the other. -/
def equal : Json → Json → Bool
  | .null, .null => true
  | .bool left, .bool right => left == right
  | .number left, .number right => left == right
  | .string left, .string right => left == right
  | .array left, .array right => equalItems left right
  | .object left, .object right => left.length == right.length && equalEntries left right
  | _, _ => false

/-- Equality of lists of documents, item by item. -/
def equalItems : List Json → List Json → Bool
  | [], [] => true
  | left :: lefts, right :: rights => equal left right && equalItems lefts rights
  | _, _ => false

/-- Whether every entry has an equal partner among other entries. -/
def equalEntries : JsonEntries → JsonEntries → Bool
  | [], _ => true
  | (key, value) :: entries, others =>
    (match others.lookup key with
      | some other => equal value other
      | none => false) && equalEntries entries others

end

instance : BEq Json := ⟨equal⟩

end Json

namespace JsonEntries

/-- Gives a key a value.  A key that is there already keeps its place. -/
def set (key : String) (value : Json) : JsonEntries → JsonEntries
  | [] => [(key, value)]
  | (key', value') :: entries =>
    if key' = key then (key, value) :: entries else (key', value') :: set key value entries

/-- Each key once, at its first place and with its last value. -/
def collapse (entries : JsonEntries) : JsonEntries :=
  entries.foldl (fun collapsed entry => collapsed.set entry.1 entry.2) []

/-- The keys in order. -/
def keys (entries : JsonEntries) : List String :=
  entries.map (·.1)

@[simp] theorem set_nil (key : String) (value : Json) : set key value [] = [(key, value)] := rfl

@[simp] theorem collapse_nil : collapse [] = [] := rfl

end JsonEntries
end RelationalApi
