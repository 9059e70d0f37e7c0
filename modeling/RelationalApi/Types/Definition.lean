/-!
# Type definitions

The types of the derived interface: references to types, and definitions of scalars, enums,
object types and input object types.
-/

namespace RelationalApi

/-- A reference to a type. -/
inductive TypeRef where
  | named (name : String)
  | list (element : TypeRef)
  | nonNull (inner : TypeRef)
  deriving Repr, DecidableEq, Inhabited

namespace TypeRef

/-- The type without null.  A type without null stays as it is. -/
def required : TypeRef → TypeRef
  | nonNull inner => nonNull inner
  | type => nonNull type

def isNonNull : TypeRef → Bool
  | nonNull _ => true
  | _ => false

/-- Whether the values other than null are lists. -/
def isList : TypeRef → Bool
  | named _ => false
  | list _ => true
  | nonNull inner => inner.isList

/-- The name inside all lists. -/
def baseName : TypeRef → String
  | named name => name
  | list element => element.baseName
  | nonNull inner => inner.baseName

/-- The text of a reference. -/
def toText : TypeRef → String
  | named name => name
  | list element => "[" ++ element.toText ++ "]"
  | nonNull inner => inner.toText ++ "!"

@[simp] theorem required_nonNull (inner : TypeRef) : (nonNull inner).required = nonNull inner :=
  rfl

@[simp] theorem required_named (name : String) : (named name).required = nonNull (named name) :=
  rfl

@[simp] theorem required_list (element : TypeRef) :
    (list element).required = nonNull (list element) := rfl

end TypeRef

/-- An argument of a field, or a field of an input object. -/
structure InputField where
  name : String
  type : TypeRef
  description : Option String := none
  deriving Repr, DecidableEq

/-- A field of an object type. -/
structure OutputField where
  name : String
  type : TypeRef
  arguments : List InputField := []
  description : Option String := none
  deriving Repr, DecidableEq

/-- What a definition defines. -/
inductive TypeContent where
  | scalar
  | enumeration (values : List String)
  | object (fields : List OutputField)
  | input (fields : List InputField)
  deriving Repr, DecidableEq

/-- A named type. -/
structure TypeDefinition where
  name : String
  content : TypeContent
  description : Option String := none
  deriving Repr, DecidableEq

namespace TypeDefinition

/-- The word that opens the definition. -/
def keyword (definition : TypeDefinition) : String :=
  match definition.content with
  | .scalar => "scalar"
  | .enumeration _ => "enum"
  | .object _ => "type"
  | .input _ => "input"

/-- The reference to the defined type. -/
def reference (definition : TypeDefinition) : TypeRef :=
  .named definition.name

end TypeDefinition
end RelationalApi
