import RelationalApi.Scalar.Codec

/-!
# Names of the interface

Every name that a table brings into the interface starts with the table's prefix, its name in
upper camel case.
-/

namespace RelationalApi

/-- The prefix of all type names of a table. -/
def typePrefix (table : String) : String :=
  Text.upperCamel table

/-- The type of a table's rows in answers to mutations. -/
def itemTypeName (table : String) : String :=
  typePrefix table ++ "Item"

def insertInputName (table : String) : String :=
  typePrefix table ++ "InsertInput"

def updateInputName (table : String) : String :=
  typePrefix table ++ "UpdateInput"

/-- The input type of `where` arguments. -/
def filtersName (table : String) : String :=
  typePrefix table ++ "Filters"

/-- The input type of `orderBy` arguments. -/
def orderByName (table : String) : String :=
  typePrefix table ++ "OrderBy"

/-- The input type of the operators for a column. -/
def columnFiltersName (table column : String) : String :=
  typePrefix table ++ Text.upperCamel column ++ "Filters"

/-- The input type of the items of a column's own `OR` list. -/
def columnAlternativesName (table column : String) : String :=
  columnFiltersName table column ++ "Or"

/-- The type that mutations answer when they do not return rows. -/
def mutationSuccessType : String := "MutationSuccess"

/-- The field of that type. -/
def successField : String := "isSuccess"

/-- The field that answers the name of an object's type. -/
def typenameField : String := "__typename"

end RelationalApi
