import RelationalApi.Json.Writer

/-!
# Schema errors

What can be wrong with a schema, its document, or the configuration, before any request is looked
at.  Each error is a cause; `message` gives its wording.
-/

namespace RelationalApi

/-- Why a document cannot be used. -/
inductive DocumentFault where
  /-- The text is not a schema document. -/
  | malformedSchema
  /-- The text is not an engine configuration. -/
  | malformedConfig
  /-- A default is neither a number, a text, a flag nor null. -/
  | unsupportedDefault (column : String) (literal : Json)
  /-- A file cannot be read, for a reason given by the system. -/
  | unreadable (path reason : String)

def DocumentFault.message : DocumentFault → String
  | .malformedSchema => "<json>"
  | .malformedConfig => "engine config: <json>"
  | .unsupportedDefault column literal =>
    "column '" ++ column ++ "': unsupported default " ++ literal.write
  | .unreadable path reason => path ++ ": " ++ reason

/-- Why a generated name cannot be used. -/
inductive NameClash where
  | builtInScalar
  /-- The name belongs to another definition, of the kind with this keyword. -/
  | otherDefinition (keyword : String)
  /-- Two tables have an operation of this name. -/
  | operationOfTables (first second : String)
  /-- Two members of an enum column are mapped to this name. -/
  | enumMembers (column table : String)
  deriving DecidableEq, Repr

def NameClash.detail : NameClash → String
  | .builtInScalar => "shadows a built-in scalar"
  | .otherDefinition keyword => "already defined as a different " ++ keyword
  | .operationOfTables first second =>
    "operation generated for both table '" ++ first ++ "' and table '" ++ second ++ "'"
  | .enumMembers column table =>
    "enum of column '" ++ column ++ "' on table '" ++ table ++
      "' has members that map to the same name"

/-- A malformed or incomplete schema. -/
inductive SchemaError where
  | tableNotFound (table : String)
  | emptyTable (table : String)
  | danglingRelation (table relation target : String)
  | unknownRelationSource (table : String)
  | unknownJoinColumn (table relation column : String)
  | duplicateRelation (table relation : String)
  | relationShadowsColumn (table relation : String)
  | unsupportedColumnKind (table column kind : String)
  | emptyEnum (table column : String)
  | nameCollision (name : String) (clash : NameClash)
  | invalidDocument (fault : DocumentFault)

namespace SchemaError

def message : SchemaError → String
  | tableNotFound table => "table '" ++ table ++ "' not found"
  | emptyTable table => "table '" ++ table ++ "' has no columns"
  | danglingRelation table relation target =>
    "relation '" ++ relation ++ "' on table '" ++ table ++ "' targets unknown table '" ++
      target ++ "'"
  | unknownRelationSource table => "relations declared for unknown table '" ++ table ++ "'"
  | unknownJoinColumn table relation column =>
    "relation '" ++ relation ++ "' on table '" ++ table ++ "' joins on unknown column '" ++
      column ++ "'"
  | duplicateRelation table relation =>
    "relation '" ++ relation ++ "' is declared more than once on table '" ++ table ++ "'"
  | relationShadowsColumn table relation =>
    "relation '" ++ relation ++ "' on table '" ++ table ++
      "' collides with a column of the same name"
  | unsupportedColumnKind table column kind =>
    "column '" ++ column ++ "' of table '" ++ table ++ "' has unsupported storage kind '" ++
      kind ++ "'"
  | emptyEnum table column =>
    "enum column '" ++ column ++ "' of table '" ++ table ++ "' declares no values"
  | nameCollision name clash => "generated name '" ++ name ++ "' collides: " ++ clash.detail
  | invalidDocument fault => "invalid schema document: " ++ fault.message

end SchemaError
end RelationalApi
