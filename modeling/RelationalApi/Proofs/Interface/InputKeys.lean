import RelationalApi.Error.Argument
import RelationalApi.Interface.Names
import RelationalApi.Proofs.Json.Equality
import RelationalApi.Selection.Field
import RelationalApi.Types.Registry

/-!
# Keys of input

A request gives arguments to the fields that it selects.  The registered types say what they are
read as: a field declares its arguments with their types, and an input type declares the names of
its objects with the types of their values.  So they give every key of a request a place at which it
is declared or not.  What is inside a value of another type, such as a document, has no place.
-/

namespace RelationalApi

/-- A key in the input of a request, with the path to its object and the names that are declared
there. -/
structure InputKey where
  path : String
  name : String
  declared : List String

def InputKey.IsDeclared (key : InputKey) : Prop :=
  key.name ∈ key.declared

/-- The type of the items, where the values other than null are lists. -/
def TypeRef.element? : TypeRef -> Option TypeRef
  | .named _ => none
  | .list element => some element
  | .nonNull inner => inner.element?

theorem TypeRef.baseName_element?
    {type element : TypeRef}
    (isList : type.element? = some element) :
    element.baseName = type.baseName := by
  induction type with
  | named name => cases isList
  | list inner =>
      cases isList
      rfl
  | nonNull inner inductionHypothesis => exact inductionHypothesis isList

namespace TypeRegistry

/-- The field of a name of an object type. -/
def field? (registry : TypeRegistry) (type name : String) : Option OutputField :=
  (registry.objectFields? type).bind fun fields => fields.find? fun field => field.name == name

/-- The field of a name of one of the roots. -/
def rootField? (registry : TypeRegistry) (name : String) : Option OutputField :=
  (registry.field? "Query" name).or (registry.field? "Mutation" name)

/-- The declared arguments of a field; a field that is not defined declares none. -/
def argumentsOf (definition : Option OutputField) : List InputField :=
  (definition.map (·.arguments)).getD []

/-- The names that are declared for objects of a type.  Built-in scalars and types that are not
input types have no objects with names; a type that is not defined declares no name. -/
def namesOf? (registry : TypeRegistry) (type : String) : Option (List InputField) :=
  match registry.get? type with
  | some ⟨_, .input fields, _⟩ => some fields
  | some _ => none
  | none => if builtInScalars.contains type then none else some []

/-- A key occurs in a document that is read as a type.  An object outside a list is read as an item
of the list, and the path to a list with one item leads to the item as well. -/
inductive KeyWithin (registry : TypeRegistry) : TypeRef -> String -> Json -> InputKey -> Prop
  | name
      {type : TypeRef}
      {path : String}
      {fields : List InputField}
      {entries : JsonEntries}
      {name : String}
      {document : Json}
      (isInput : registry.namesOf? type.baseName = some fields)
      (member : (name, document) ∈ entries) :
      KeyWithin registry type path (.object entries) ⟨path, name, fields.map (·.name)⟩
  | value
      {type : TypeRef}
      {path : String}
      {fields : List InputField}
      {field : InputField}
      {entries : JsonEntries}
      {document : Json}
      {key : InputKey}
      (isInput : registry.namesOf? type.baseName = some fields)
      (isField : field ∈ fields)
      (member : (field.name, document) ∈ entries)
      (within : KeyWithin registry field.type (joinPath path field.name) document key) :
      KeyWithin registry type path (.object entries) key
  | item
      {type element : TypeRef}
      {path : String}
      {items : List Json}
      {index : Nat}
      {document : Json}
      {key : InputKey}
      (isList : type.element? = some element)
      (found : items[index]? = some document)
      (within : KeyWithin registry element (itemPath path index) document key) :
      KeyWithin registry type path (.array items) key
  | single
      {type element : TypeRef}
      {path : String}
      {document : Json}
      {key : InputKey}
      (isList : type.element? = some element)
      (within : KeyWithin registry element path document key) :
      KeyWithin registry type path (.array [document]) key

/-- An entry of an object at a place brings its own name, and the keys in its value. -/
def EntryKey (registry : TypeRegistry) (fields : List InputField) (place path : String)
    (entry : String × Json) (key : InputKey) : Prop :=
  key = ⟨place, entry.1, fields.map (·.name)⟩ ∨
    ∃ field ∈ fields, field.name = entry.1 ∧ registry.KeyWithin field.type path entry.2 key

/-- The keys of arguments that are given to a field at a place, with those in their values. -/
def ArgumentKey (registry : TypeRegistry) (declared : List InputField) (place path : String)
    (arguments : JsonEntries) (key : InputKey) : Prop :=
  ∃ entry ∈ arguments, registry.EntryKey declared place (extendPath path entry.1) entry key

/-- Selected fields, each below the one before it, lead from an object type to another one and to
what is selected of it. -/
inductive Selects (registry : TypeRegistry) :
    String -> Selection -> List SelectedField -> String -> Selection -> Prop
  | here {type : String} {selection : Selection} : Selects registry type selection [] type selection
  | inside
      {type reached : String}
      {selection fields : Selection}
      {field : SelectedField}
      {definition : OutputField}
      {path : List SelectedField}
      (isSelected : field ∈ selection)
      (isDefined : registry.field? type field.name = some definition)
      (inner : Selects registry definition.type.baseName field.selection path reached fields) :
      Selects registry type selection (field :: path) reached fields

/-- The path to the arguments of the last of some fields, each below the one before it. -/
def argumentPath (start : String) (fields : List SelectedField) : String :=
  fields.foldl (fun path field => extendPath path field.name) start

/-- The keys of the arguments of selected fields, below a path. -/
def SelectionKey (registry : TypeRegistry) (type start : String) (selection : Selection)
    (key : InputKey) : Prop :=
  ∃ path reached fields field,
    registry.Selects type selection path reached fields ∧ field ∈ fields ∧
      registry.ArgumentKey (argumentsOf (registry.field? reached field.name))
        (argumentPath start (path ++ [field])) (argumentPath start (path ++ [field]))
        field.arguments key

/-- The keys in the input of a request: those of the arguments of its root field, and those of the
arguments of the fields that are selected below it. -/
def InputKeyOf (registry : TypeRegistry) (name : String) (arguments : JsonEntries)
    (selection : Selection) (key : InputKey) : Prop :=
  registry.ArgumentKey (argumentsOf (registry.rootField? name)) name "" arguments key ∨
    ∃ root, registry.rootField? name = some root ∧
      registry.SelectionKey root.type.baseName "" selection key

/-- A field is selected, other than that of the type name, that the type of its object does not
declare.  The path leads to the object by the keys of the answer. -/
def SelectsUndeclared (registry : TypeRegistry) (type start : String) (selection : Selection)
    (place name : String) : Prop :=
  ∃ path reached fields field definitions,
    registry.Selects type selection path reached fields ∧ field ∈ fields ∧
      registry.objectFields? reached = some definitions ∧ field.name ≠ typenameField ∧
      field.name ∉ definitions.map (·.name) ∧
      path.foldl (fun place field => joinPath place field.key) start = place ∧ field.name = name

/-- A request selects a field that the type of its object does not declare. -/
def UndeclaredFieldOf (registry : TypeRegistry) (name : String) (selection : Selection)
    (place field : String) : Prop :=
  ∃ root, registry.rootField? name = some root ∧
    registry.SelectsUndeclared root.type.baseName name selection place field

variable {registry : TypeRegistry} {type element : TypeRef} {path other : String} {document : Json}
variable {key : InputKey}

theorem keyWithin_object {entries : JsonEntries} :
    registry.KeyWithin type path (.object entries) key ↔
      ∃ fields, registry.namesOf? type.baseName = some fields ∧
        ∃ entry ∈ entries, registry.EntryKey fields path (joinPath path entry.1) entry key := by
  constructor
  · intro within
    cases within with
    | name isInput member => exact ⟨_, isInput, _, member, .inl rfl⟩
    | value isInput isField member within =>
        exact ⟨_, isInput, _, member, .inr ⟨_, isField, rfl, within⟩⟩
  · rintro ⟨fields, isInput, ⟨name, document⟩, member, rfl | ⟨field, isField, rfl, within⟩⟩
    · exact .name isInput member
    · exact .value isInput isField member within

/-- Documents that are read as types without declared names have no keys. -/
theorem not_keyWithin (noInput : registry.namesOf? type.baseName = none) :
    ¬registry.KeyWithin type path document key := by
  intro within
  induction within with
  | name isInput | value isInput =>
      rw [noInput] at isInput
      cases isInput
  | item isList _ _ inductionHypothesis | single isList _ inductionHypothesis =>
      exact inductionHypothesis (TypeRef.baseName_element? isList ▸ noInput)

/-- What is declared in a document does not depend on the path that leads to it. -/
theorem KeyWithin.at_path
    (within : registry.KeyWithin type path document key)
    (other : String) :
    ∃ moved, registry.KeyWithin type other document moved ∧ moved.name = key.name ∧
      moved.declared = key.declared := by
  induction within generalizing other with
  | name isInput member => exact ⟨_, .name isInput member, rfl, rfl⟩
  | @value _ _ _ field _ _ _ isInput isField member _ inductionHypothesis =>
      obtain ⟨moved, within, same⟩ := inductionHypothesis (joinPath other field.name)
      exact ⟨moved, .value isInput isField member within, same⟩
  | @item _ _ _ _ index _ _ isList found _ inductionHypothesis =>
      obtain ⟨moved, within, same⟩ := inductionHypothesis (itemPath other index)
      exact ⟨moved, .item isList found within, same⟩
  | single isList _ inductionHypothesis =>
      obtain ⟨moved, within, same⟩ := inductionHypothesis other
      exact ⟨moved, .single isList within, same⟩

/-- Selected fields lead on to what is selected below any of the fields that they lead to. -/
theorem Selects.snoc
    {type reached : String}
    {selection fields : Selection}
    {path : List SelectedField}
    {field : SelectedField}
    {definition : OutputField}
    (selects : registry.Selects type selection path reached fields)
    (isSelected : field ∈ fields)
    (isDefined : registry.field? reached field.name = some definition) :
    registry.Selects type selection (path ++ [field]) definition.type.baseName
      field.selection := by
  induction selects with
  | here => exact .inside isSelected isDefined .here
  | inside isFirst isDefinedFirst _ inductionHypothesis =>
      exact .inside isFirst isDefinedFirst (inductionHypothesis isSelected isDefined)

/-- Nothing is selected below what selects nothing. -/
theorem Selects.of_nil
    {type reached : String}
    {fields : Selection}
    {path : List SelectedField}
    (selects : registry.Selects type [] path reached fields) :
    fields = [] := by
  cases selects with
  | here => rfl
  | inside isSelected => cases isSelected

/-- An undeclared field may be selected of the object itself. -/
theorem SelectsUndeclared.here
    {type start : String}
    {selection : Selection}
    {field : SelectedField}
    {definitions : List OutputField}
    (isType : registry.objectFields? type = some definitions)
    (isSelected : field ∈ selection)
    (notTypename : field.name ≠ typenameField)
    (undeclared : field.name ∉ definitions.map (·.name)) :
    registry.SelectsUndeclared type start selection start field.name :=
  ⟨[], _, selection, field, definitions, .here, isSelected, isType, notTypename, undeclared, rfl,
    rfl⟩

theorem argumentPath_snoc (start : String) (fields : List SelectedField) (field : SelectedField) :
    argumentPath start (fields ++ [field]) = extendPath (argumentPath start fields) field.name := by
  rw [argumentPath, List.foldl_append]
  rfl

end TypeRegistry
end RelationalApi
