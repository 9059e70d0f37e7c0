import RelationalApi.Types.Registry

/-!
# Schema definition language

The text of all registered types in the order of registration, with an empty line between two
definitions.  An input object without fields is written without a body.
-/

namespace RelationalApi

/-- A character inside a description. -/
def escapeDescriptionChar (character : Char) : List Char :=
  if character = '\\' then ['\\', '\\']
  else if character = '"' then ['\\', '"']
  else [character]

/-- A description in quotation marks on a line of its own. -/
def descriptionText (indentation : String) : Option String → String
  | some text =>
    indentation ++ "\"" ++ String.ofList (text.toList.flatMap escapeDescriptionChar) ++ "\"\n"
  | none => ""

namespace InputField

/-- An argument inside parentheses. -/
def argumentText (argument : InputField) : String :=
  argument.name ++ ": " ++ argument.type.toText

/-- A field of an input object. -/
def toText (field : InputField) : String :=
  descriptionText "  " field.description ++ "  " ++ field.name ++ ": " ++ field.type.toText ++ "\n"

end InputField

/-- A field of an object type. -/
def OutputField.toText (field : OutputField) : String :=
  let arguments :=
    if field.arguments.isEmpty then ""
    else "(" ++ ", ".intercalate (field.arguments.map InputField.argumentText) ++ ")"
  descriptionText "  " field.description ++ "  " ++ field.name ++ arguments ++ ": " ++
    field.type.toText ++ "\n"

/-- Lines between braces. -/
def bodyText (lines : List String) : String :=
  " \x7b\n" ++ String.join lines ++ "\x7d\n"

/-- What follows the name of a definition. -/
def TypeContent.toText : TypeContent → String
  | .scalar => "\n"
  | .enumeration values => bodyText (values.map fun value => "  " ++ value ++ "\n")
  | .object fields => bodyText (fields.map OutputField.toText)
  | .input fields => if fields.isEmpty then "\n" else bodyText (fields.map InputField.toText)

/-- The text of a definition. -/
def TypeDefinition.toText (definition : TypeDefinition) : String :=
  descriptionText "" definition.description ++ definition.keyword ++ " " ++ definition.name ++
    definition.content.toText

/-- The text of all definitions. -/
def TypeRegistry.toText (registry : TypeRegistry) : String :=
  "\n".intercalate (registry.definitions.map TypeDefinition.toText)

end RelationalApi
