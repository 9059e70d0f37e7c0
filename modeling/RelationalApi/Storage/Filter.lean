import RelationalApi.Storage.Value

/-!
# Filters

A filter is a condition on the fields of one stored row.
-/

namespace RelationalApi

/-- A comparison of a field with a value. -/
inductive Comparison where
  | equal
  | notEqual
  | less
  | lessOrEqual
  | greater
  | greaterOrEqual
  deriving Repr, DecidableEq

/-- How a field is compared with a pattern. -/
structure PatternTest where
  ignoresCase : Bool
  negated : Bool
  deriving Repr, DecidableEq

/-- A condition on a row. -/
inductive Filter where
  | compare (comparison : Comparison) (field : String) (value : Value)
  /-- The field has, or has not, one of the values. -/
  | member (negated : Bool) (field : String) (values : List Value)
  /-- The field is null, or is not. -/
  | nullness (negated : Bool) (field : String)
  | pattern (test : PatternTest) (field : String) (pattern : String)
  | and (filters : List Filter)
  | or (filters : List Filter)
  | not (filter : Filter)
  deriving Repr, Inhabited

namespace Filter

/-- The conjunction of filters; none of no filters, and a single filter itself. -/
def all : List Filter → Option Filter
  | [] => none
  | [filter] => some filter
  | filters => some (.and filters)

/-- The disjunction of filters; none of no filters, and a single filter itself. -/
def any : List Filter → Option Filter
  | [] => none
  | [filter] => some filter
  | filters => some (.or filters)

@[simp] theorem all_nil : all [] = none := rfl

@[simp] theorem all_singleton (filter : Filter) : all [filter] = some filter := rfl

@[simp] theorem any_nil : any [] = none := rfl

@[simp] theorem any_singleton (filter : Filter) : any [filter] = some filter := rfl

end Filter
end RelationalApi
