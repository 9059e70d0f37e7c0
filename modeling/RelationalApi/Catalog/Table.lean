import RelationalApi.Catalog.ColumnKind

/-!
# Tables and relations

A table has a name and columns in the order of their declaration.  A relation leads from a source
table to one or many rows of a target table; its join columns may be left open.
-/

namespace RelationalApi

/-- What a column takes when an insert gives it no value. -/
inductive ColumnDefault where
  | null
  | bool (value : Bool)
  | int (value : Int64)
  | float (value : Float)
  | string (text : String)
  | currentTimestamp
  | autoIncrement
  | expression (sql : String)
  deriving Repr

/-- A column of a table. -/
structure Column where
  name : String
  kind : ColumnKind
  nullable : Bool := false
  primaryKey : Bool := false
  unique : Bool := false
  default : Option ColumnDefault := none
  generated : Bool := false
  deriving Repr

namespace Column

/-- A column that an insert has to give a value. -/
def isRequiredOnInsert (column : Column) : Bool :=
  !column.nullable && column.default.isNone && !column.generated

/-- A column whose value is not computed by the storage itself. -/
def isWritable (column : Column) : Bool :=
  !column.generated

/-- A column whose values tell rows apart. -/
def isIdentity (column : Column) : Bool :=
  column.primaryKey || column.unique

/-- Makes the column part of the primary key, which rules out null. -/
def withPrimaryKey (column : Column) : Column :=
  { column with primaryKey := true, nullable := false }

end Column

/-- A table. -/
structure Table where
  name : String
  columns : List Column
  deriving Repr

namespace Table

/-- The first column of a name. -/
def column? (table : Table) (name : String) : Option Column :=
  table.columns.find? fun column => column.name == name

def hasColumn (table : Table) (name : String) : Bool :=
  table.columns.any fun column => column.name == name

/-- The column that stands for a row: the first of the primary key, else the first unique one,
else the first of all. -/
def identityColumn? (table : Table) : Option Column :=
  (table.columns.find? fun column => column.primaryKey).or <|
    (table.columns.find? fun column => column.unique).or table.columns.head?

def writableColumns (table : Table) : List Column :=
  table.columns.filter Column.isWritable

def identityColumns (table : Table) : List Column :=
  table.columns.filter Column.isIdentity

def columnNames (table : Table) : List String :=
  table.columns.map (·.name)

end Table

/-- How many rows a relation leads to. -/
inductive Cardinality where
  | one
  | many
  deriving Repr, DecidableEq, Inhabited

/-- The word for a cardinality. -/
def Cardinality.word : Cardinality → String
  | .one => "one"
  | .many => "many"

/-- A relation from a source table to a target table. -/
structure Relation where
  name : String
  source : String
  target : String
  cardinality : Cardinality
  fromColumn : Option String := none
  toColumn : Option String := none
  deriving Repr, DecidableEq

/-- The join columns, if both are declared. -/
def Relation.joinColumns? (relation : Relation) : Option (String × String) :=
  match relation.fromColumn, relation.toColumn with
  | some fromColumn, some toColumn => some (fromColumn, toColumn)
  | _, _ => none

end RelationalApi
