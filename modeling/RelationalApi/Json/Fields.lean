import RelationalApi.Json.Reader

/-!
# Records in documents

A record with named fields is written as an object, or as a list of the values of its fields in
order.  Keys of an object that name no field are ignored.  Where a field must not be given twice
and the last fields of a list may be left out, `fields?` gives the values; where repeated keys are
gone already and a list has to be complete, `record?` does.
-/

namespace RelationalApi
namespace Json

/-- The value that entries give to a field, which they must not give twice. -/
def fieldOf? (entries : JsonEntries) (name : String) : Option (Option Json) :=
  match entries.filter fun entry => entry.1 == name with
  | [] => some none
  | [entry] => some (some entry.2)
  | _ => none

/-- The values that a document gives to named fields, in the order of the names. -/
def fields? (names : List String) : Json → Option (List (Option Json))
  | .object entries => names.mapM (fieldOf? entries)
  | .array items =>
    if items.length ≤ names.length then
      some (items.map some ++ List.replicate (names.length - items.length) none)
    else none
  | _ => none

/-- The values that a document gives to named fields, in the order of the names.  A field that an
object leaves out is null; a list has one item for every field. -/
def record? (names : List String) : Json → Option (List Json)
  | .object entries => some (names.map fun name => (entries.lookup name).getD .null)
  | .array items => if items.length = names.length then some items else none
  | _ => none

/-- The value of a field that has to be given. -/
def required? {α : Type} (read : Json → Option α) (field : Option Json) : Option α :=
  field.bind read

/-- The value of a field that may be left out. -/
def defaulted? {α : Type} (default : α) (read : Json → Option α) : Option Json → Option α
  | some document => read document
  | none => some default

/-- The value of a field that may be left out or null. -/
def absent? {α : Type} (read : Json → Option α) : Option Json → Option (Option α)
  | some .null => some none
  | some document => (read document).map some
  | none => some none

/-- The word of a choice without content: a text, or an object with the word as its one key and
content that counts as none. -/
def word? (isNothing : Json → Bool) : Json → Option String
  | .string word => some word
  | .object [(word, content)] => if isNothing content then some word else none
  | _ => none

/-- The items of a list, each read on its own. -/
def listOf? {α : Type} (read : Json → Option α) (document : Json) : Option (List α) := do
  let items ← document.array?
  items.mapM read

/-- A document that may be null. -/
def optional? {α : Type} (read : Json → Option α) : Json → Option (Option α)
  | .null => some none
  | document => (read document).map some

/-- An entry of an object. -/
def entry? {α : Type} (read : Json → Option α) (document : Json) (key : String) : Option α := do
  let content ← document.get? key
  read content

/-- An entry of an object that may be absent or null. -/
def optionalEntry? {α : Type} (read : Json → Option α) (document : Json) (key : String) :
    Option (Option α) :=
  match document.get? key with
  | some content => content.optional? read
  | none => some none

end Json
end RelationalApi
