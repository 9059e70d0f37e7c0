import RelationalApi.Catalog.Document

/-!
# Reading schema documents

A document is read from JSON.  The key `kind` of an entry says what it declares.  Flags may be
left out but not be null; names may be either.  Of a repeated identifier the last entry counts.
-/

namespace RelationalApi

/-- A list of texts. -/
def Json.texts? : Json → Option (List String)
  | .array items => items.mapM Json.string?
  | _ => none

/-- Content that counts as none inside an entry. -/
def Json.isNothing : Json → Bool
  | .null => true
  | .object [] => true
  | _ => false

namespace ColumnDeclaration

/-- The column declaration that a document is. -/
def ofJson? (document : Json) : Option ColumnDeclaration := do
  let fields ← document.fields? ["name", "type", "nullable", "primaryKey", "unique", "generated",
    "autoIncrement", "default", "defaultSql", "enumName", "values"]
  match fields with
  | [name, type, nullable, primaryKey, unique, generated, autoIncrement, default, defaultSql,
      enumName, values] =>
    let name ← Json.required? Json.string? name
    let type ← Json.required? Json.string? type
    let nullable ← Json.defaulted? false Json.bool? nullable
    let primaryKey ← Json.defaulted? false Json.bool? primaryKey
    let unique ← Json.defaulted? false Json.bool? unique
    let generated ← Json.defaulted? false Json.bool? generated
    let autoIncrement ← Json.defaulted? false Json.bool? autoIncrement
    let default ← Json.absent? (fun literal => some literal.collapse) default
    let defaultSql ← Json.absent? Json.string? defaultSql
    let enumName ← Json.absent? Json.string? enumName
    let values ← Json.defaulted? [] Json.texts? values
    return ⟨name, type, nullable, primaryKey, unique, generated, autoIncrement, default,
      defaultSql, enumName, values⟩
  | _ => none

end ColumnDeclaration

namespace RelationDeclaration

/-- The cardinality of a word. -/
def cardinalityOfWord? : String → Option Cardinality
  | "one" => some .one
  | "many" => some .many
  | _ => none

/-- The relation declaration that a document is. -/
def ofJson? (document : Json) : Option RelationDeclaration := do
  let fields ← document.fields? ["name", "target", "cardinality", "fields", "references"]
  match fields with
  | [name, target, cardinality, fromColumn, toColumn] =>
    let name ← Json.required? Json.string? name
    let target ← Json.required? Json.string? target
    let word ← Json.required? (Json.word? Json.isNothing) cardinality
    let cardinality ← cardinalityOfWord? word
    let fromColumn ← Json.absent? Json.string? fromColumn
    let toColumn ← Json.absent? Json.string? toColumn
    return { name, target, cardinality, fromColumn, toColumn }
  | _ => none

end RelationDeclaration

namespace Declaration

/-- The declaration of a kind. -/
def ofKind? (kind : String) (content : Json) : Option Declaration :=
  match kind with
  | "table" => do
    let fields ← content.fields? ["name", "columns"]
    match fields with
    | [name, columns] =>
      let name ← Json.absent? Json.string? name
      let columns ← (Json.required? Json.array? columns).bind fun items =>
        items.mapM ColumnDeclaration.ofJson?
      return .table ⟨name, columns⟩
    | _ => none
  | "relations" => do
    let fields ← content.fields? ["table", "relations"]
    match fields with
    | [owner, declarations] =>
      let owner ← Json.required? Json.string? owner
      let declarations ← (Json.required? Json.array? declarations).bind fun items =>
        items.mapM RelationDeclaration.ofJson?
      return .relations owner declarations
    | _ => none
  | _ => none

/-- The declaration that a document is: an object with the key `kind`, or a list that starts with
the kind. -/
def ofJson? : Json → Option Declaration
  | .object entries => do
    let kind ← (Json.fieldOf? entries "kind").bind (Json.required? Json.string?)
    ofKind? kind (.object (entries.filter fun entry => entry.1 != "kind"))
  | .array (.string kind :: items) => ofKind? kind (.array items)
  | _ => none

end Declaration

namespace SchemaDocument

/-- Puts an entry where its identifier belongs, in the place of one of the same identifier. -/
def insertEntry (identifier : String) (declaration : Declaration) :
    List (String × Declaration) → List (String × Declaration)
  | [] => [(identifier, declaration)]
  | first :: rest =>
    if identifier < first.1 then (identifier, declaration) :: first :: rest
    else if identifier = first.1 then (identifier, declaration) :: rest
    else first :: insertEntry identifier declaration rest

/-- The declarations of entries in ascending order of the identifiers. -/
def entriesOf? (entries : JsonEntries) : Option (List (String × Declaration)) := do
  let declarations ← entries.mapM fun (identifier, document) => do
    let declaration ← Declaration.ofJson? document
    return (identifier, declaration)
  return declarations.foldl (fun sorted entry => insertEntry entry.1 entry.2 sorted) []

/-- The schema document that a document is. -/
def ofJson? : Json → Option SchemaDocument
  | .object entries => (entriesOf? entries).map SchemaDocument.mk
  | _ => none

/-- The schema document that a text is. -/
def ofText (text : String) : Except SchemaError SchemaDocument :=
  match (Json.readRepeating? text).bind ofJson? with
  | some document => .ok document
  | none => .error (.invalidDocument .malformedSchema)

end SchemaDocument
end RelationalApi
