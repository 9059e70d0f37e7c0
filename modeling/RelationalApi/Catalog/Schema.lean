import RelationalApi.Catalog.Table
import RelationalApi.Error.Schema

/-!
# Schemas

A schema holds tables and relations.  Tables are kept in the order of their names and no two have
the same name, so a table put into a schema replaces the one that had its name.  Relations are
kept in the order in which they were added.

`validate` looks for the first fault: first tables without columns, then the relations of each
source table in the order of the names of the sources.
-/

namespace RelationalApi

/-- Puts a table where its name belongs, in the place of a table of the same name. -/
def insertTable (table : Table) : List Table → List Table
  | [] => [table]
  | first :: rest =>
    if table.name < first.name then table :: first :: rest
    else if table.name = first.name then table :: rest
    else first :: insertTable table rest

/-- Tables in strictly ascending order of their names. -/
def TablesOrdered (tables : List Table) : Prop :=
  tables.Pairwise fun left right => left.name < right.name

theorem mem_insertTable {table other : Table} {tables : List Table}
    (member : other ∈ insertTable table tables) : other = table ∨ other ∈ tables := by
  induction tables with
  | nil => simpa [insertTable] using member
  | cons first rest ih =>
    unfold insertTable at member
    split at member
    · simpa using member
    · split at member
      · rcases List.mem_cons.1 member with same | later
        · exact .inl same
        · exact .inr (List.mem_cons_of_mem _ later)
      · rcases List.mem_cons.1 member with same | later
        · exact .inr (same ▸ List.mem_cons_self)
        · rcases ih later with same | later
          · exact .inl same
          · exact .inr (List.mem_cons_of_mem _ later)

theorem insertTable_ordered (table : Table) {tables : List Table}
    (ordered : TablesOrdered tables) : TablesOrdered (insertTable table tables) := by
  induction tables with
  | nil => simp [insertTable, TablesOrdered]
  | cons first rest ih =>
    have split := List.pairwise_cons.1 ordered
    unfold insertTable
    split
    · rename_i smaller
      refine List.pairwise_cons.2 ⟨fun other member => ?_, ordered⟩
      rcases List.mem_cons.1 member with same | later
      · exact same ▸ smaller
      · exact String.lt_trans smaller (split.1 other later)
    · split
      · rename_i same
        exact List.pairwise_cons.2 ⟨fun other member => same ▸ split.1 other member, split.2⟩
      · rename_i notSmaller different
        refine List.pairwise_cons.2 ⟨fun other member => ?_, ih split.2⟩
        rcases mem_insertTable member with same | later
        · exact same ▸ Std.lt_of_le_of_ne (String.not_lt.1 notSmaller) (Ne.symm different)
        · exact split.1 other later

/-- Tables and the relations between them. -/
structure Schema where
  tables : List Table
  relations : List Relation
  ordered : TablesOrdered tables

namespace Schema

/-- The schema without tables. -/
def empty : Schema := ⟨[], [], List.Pairwise.nil⟩

instance : Inhabited Schema := ⟨empty⟩

/-- Puts a table into a schema. -/
def withTable (schema : Schema) (table : Table) : Schema :=
  ⟨insertTable table schema.tables, schema.relations, insertTable_ordered table schema.ordered⟩

/-- Adds a relation behind the others. -/
def withRelation (schema : Schema) (relation : Relation) : Schema :=
  { schema with relations := schema.relations ++ [relation] }

/-- The table of a name. -/
def table? (schema : Schema) (name : String) : Option Table :=
  schema.tables.find? fun table => table.name == name

/-- The table of a name, which has to be there. -/
def table (schema : Schema) (name : String) : Except SchemaError Table :=
  match schema.table? name with
  | some table => .ok table
  | none => .error (.tableNotFound name)

/-- The relations that start at a table, in the order in which they were added. -/
def relationsOf (schema : Schema) (source : String) : List Relation :=
  schema.relations.filter fun relation => relation.source == source

/-- The first relation of a name that starts at a table. -/
def relation? (schema : Schema) (source name : String) : Option Relation :=
  (schema.relationsOf source).find? fun relation => relation.name == name

/-- Puts a name where it belongs in a list of distinct names in ascending order. -/
def insertName (name : String) : List String → List String
  | [] => [name]
  | first :: rest =>
    if name < first then name :: first :: rest
    else if name = first then first :: rest
    else first :: insertName name rest

/-- The names of tables that relations start at, each once and in ascending order. -/
def relationSources (schema : Schema) : List String :=
  schema.relations.foldr (fun relation names => insertName relation.source names) []

/-- Checks that a join column, if declared, exists. -/
def validateJoin (source : Table) (relation : Relation) (joined : Table) :
    Option String → Except SchemaError Unit
  | some column =>
    if joined.hasColumn column then .ok ()
    else .error (.unknownJoinColumn source.name relation.name column)
  | none => .ok ()

/-- Checks one relation, given the names of the relations before it. -/
def validateRelation (schema : Schema) (source : Table) (seen : List String)
    (relation : Relation) : Except SchemaError Unit := do
  if seen.contains relation.name then
    throw (.duplicateRelation source.name relation.name)
  if source.hasColumn relation.name then
    throw (.relationShadowsColumn source.name relation.name)
  match schema.table? relation.target with
  | none => throw (.danglingRelation source.name relation.name relation.target)
  | some target =>
    validateJoin source relation source relation.fromColumn
    validateJoin source relation target relation.toColumn

/-- Checks the relations of one table in order. -/
def validateRelations (schema : Schema) (source : Table) (seen : List String) :
    List Relation → Except SchemaError Unit
  | [] => .ok ()
  | relation :: relations => do
    schema.validateRelation source seen relation
    schema.validateRelations source (relation.name :: seen) relations

/-- Checks the relations that start at a name. -/
def validateSource (schema : Schema) (source : String) : Except SchemaError Unit :=
  match schema.table? source with
  | none => .error (.unknownRelationSource source)
  | some table => schema.validateRelations table [] (schema.relationsOf source)

/-- Checks the whole schema. -/
def validate (schema : Schema) : Except SchemaError Unit := do
  match schema.tables.find? fun table => table.columns.isEmpty with
  | some table => throw (.emptyTable table.name)
  | none => schema.relationSources.forM schema.validateSource

end Schema
end RelationalApi
