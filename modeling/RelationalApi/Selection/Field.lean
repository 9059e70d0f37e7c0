import RelationalApi.Json.Basic

/-!
# Requested fields

A selection is the tree of fields that a client asks for.
-/

namespace RelationalApi

/-- A requested field with its arguments and the fields requested below it. -/
structure SelectedField where
  name : String
  /-- The key in the answer, if it is not the name. -/
  label : Option String := none
  arguments : JsonEntries := []
  selection : List SelectedField := []
  deriving Repr, Inhabited

/-- The fields requested of one object, in order. -/
abbrev Selection := List SelectedField

/-- The key of the field in the answer. -/
def SelectedField.key (field : SelectedField) : String :=
  field.label.getD field.name

end RelationalApi
