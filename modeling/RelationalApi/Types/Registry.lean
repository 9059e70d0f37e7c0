import RelationalApi.Error.Schema
import RelationalApi.Types.Definition

/-!
# Type registry

The registry holds one definition for each name, in the order of registration, and knows where the
definition of each name stands.  Offering a definition again changes nothing; a different one under
a name that is taken, or any under the name of a built-in scalar, is refused.
-/

namespace RelationalApi

/-- The scalars that need no definition. -/
def builtInScalars : List String :=
  ["Int", "Float", "String", "Boolean", "ID"]

/-- The registered definitions, and the place of each name among them. -/
structure TypeRegistry where
  definitions : List TypeDefinition := []
  positions : List (String × Nat) := []
  deriving Repr

namespace TypeRegistry

def empty : TypeRegistry := {}

instance : Inhabited TypeRegistry := ⟨empty⟩

/-- The place of the definition of a name. -/
def position? (registry : TypeRegistry) (name : String) : Option Nat :=
  registry.positions.lookup name

/-- The definition of a name. -/
def get? (registry : TypeRegistry) (name : String) : Option TypeDefinition :=
  (registry.position? name).bind fun position => registry.definitions[position]?

def contains (registry : TypeRegistry) (name : String) : Bool :=
  (registry.position? name).isSome

/-- The registry with one more definition behind the others. -/
def add (registry : TypeRegistry) (definition : TypeDefinition) : TypeRegistry where
  definitions := registry.definitions ++ [definition]
  positions := (definition.name, registry.definitions.length) :: registry.positions

/-- Offers a definition: a reference to the registered type or why it is refused, and the registry
as it is left behind. -/
def offer (registry : TypeRegistry) (definition : TypeDefinition) :
    Except SchemaError TypeRef × TypeRegistry :=
  if builtInScalars.contains definition.name then
    (.error (.nameCollision definition.name .builtInScalar), registry)
  else match registry.get? definition.name with
    | some existing =>
      if existing = definition then (.ok definition.reference, registry)
      else
        (.error (.nameCollision definition.name (.otherDefinition existing.keyword)), registry)
    | none => (.ok definition.reference, registry.add definition)

/-- Registers a definition that must be accepted. -/
def register (registry : TypeRegistry) (definition : TypeDefinition) :
    Except SchemaError TypeRegistry :=
  match registry.offer definition with
  | (.ok _, extended) => .ok extended
  | (.error fault, _) => .error fault

/-- The fields of an object type. -/
def objectFields? (registry : TypeRegistry) (name : String) : Option (List OutputField) :=
  match registry.get? name with
  | some ⟨_, .object fields, _⟩ => some fields
  | _ => none

/-- The fields of an input object type. -/
def inputFields? (registry : TypeRegistry) (name : String) : Option (List InputField) :=
  match registry.get? name with
  | some ⟨_, .input fields, _⟩ => some fields
  | _ => none

/-- The values of an enum. -/
def enumValues? (registry : TypeRegistry) (name : String) : Option (List String) :=
  match registry.get? name with
  | some ⟨_, .enumeration values, _⟩ => some values
  | _ => none

def length (registry : TypeRegistry) : Nat :=
  registry.definitions.length

def isEmpty (registry : TypeRegistry) : Bool :=
  registry.definitions.isEmpty

end TypeRegistry
end RelationalApi
