import RelationalApi.Answer.Filling
import RelationalApi.Proofs.Json.Entries
import RelationalApi.Proofs.Selection.Columns
import RelationalApi.Proofs.Storage.Rows

/-!
# Answers of columns

What a selection of columns shows of a stored row depends on the row alone, and not on the operation
that returns it.  So answers for several rows can be compared row by row.
-/

namespace RelationalApi

open Outcome

/-- The items at the marked positions, in order. -/
def marked {α : Type} (marks : List Bool) (items : List α) : List α :=
  ((marks.zip items).filter (·.1)).map (·.2)

/-- Where steps over a list succeed, the steps over its marked items give the marked results. -/
theorem mapM_marked
    {ε α β : Type}
    {step : α -> Except ε β}
    {pairs : List (Bool × α)}
    {results : List β}
    (succeeds : (pairs.map (·.2)).mapM step = .ok results) :
    ((pairs.filter (·.1)).map (·.2)).mapM step = .ok (marked (pairs.map (·.1)) results) := by
  induction pairs generalizing results with
  | nil =>
      cases succeeds
      rfl
  | cons pair pairs inductionHypothesis =>
      obtain ⟨isMarked, item⟩ := pair
      simp only [List.map_cons, List.mapM_cons, bind_eq_ok, pure_eq_ok] at succeeds
      obtain ⟨result, first, others, succeedsLater, rfl⟩ := succeeds
      have later := inductionHypothesis succeedsLater
      cases isMarked with
      | false => exact later
      | true =>
          rw [List.filter_cons_of_pos rfl, List.map_cons, List.mapM_cons, first, later]
          rfl

/-- Where steps over a list succeed, the steps over the items that a test picks give the results
at their positions. -/
theorem filter_marked
    {ε α β : Type}
    {step : α -> Except ε β}
    {test : α -> Bool}
    {items : List α}
    {results : List β}
    (succeeds : items.mapM step = .ok results) :
    (items.filter test).mapM step = .ok (marked (items.map test) results) := by
  let pairs : List (Bool × α) := items.map fun item => (test item, item)
  have fromPairs : pairs.map (·.2) = items := by simp [pairs, Function.comp_def]
  have testPairs : pairs.map (·.1) = items.map test := by simp [pairs, Function.comp_def]
  have picked : (pairs.filter (·.1)).map (·.2) = items.filter test := by
    simp [pairs, List.filter_map, Function.comp_def]
  rw [← picked, ← testPairs]
  exact mapM_marked (by rw [fromPairs]; exact succeeds)

namespace Interface

variable {interface : Interface} {types : TableTypes} {selection : Selection}

/-- What a selection of columns shows of a stored row. -/
def showRow (interface : Interface) (types : TableTypes) (selection : Selection)
    (row : StoredRow) : Except ExecutionError Json :=
  fillObject interface (SelectionPlan.ofColumns (itemTypeName types.name) types selection).output
    ⟨Store.project (loadedColumns types.identity selection) row, []⟩

/-- Entries for columns do not show the name of the type. -/
theorem fillEntries_columns
    {typeName otherName table : String}
    {row : Row}
    {filled : JsonEntries} :
    fillEntries interface typeName table (columnEntries selection) row filled =
      fillEntries interface otherName table (columnEntries selection) row filled := by
  induction selection generalizing filled with
  | nil => rfl
  | cons field selection inductionHypothesis =>
      rw [columnEntries, List.map_cons, fillEntries, fillEntries, fillEntry, fillEntry]
      exact congrArg _ (funext fun _ => inductionHypothesis)

/-- The rows of every plan for the same columns are shown alike. -/
theorem fillObject_ofColumns (typeName : String) (row : StoredRow) :
    fillObject interface (SelectionPlan.ofColumns typeName types selection).output
        ⟨Store.project (loadedColumns types.identity selection) row, []⟩ =
      interface.showRow types selection row := by
  rw [showRow, SelectionPlan.ofColumns, SelectionPlan.ofColumns, fillObject, fillObject,
    fillEntries_columns]

/-- What is shown under a key depends only on the columns that are shown under it. -/
theorem lookup_fillEntries_columns
    {typeName table key : String}
    {row other : Row}
    (same : ∀ field ∈ selection, field.key = key -> row.field? field.name = other.field? field.name)
    {filled otherFilled entries otherEntries : JsonEntries}
    (sameFilled : filled.lookup key = otherFilled.lookup key)
    (fills : fillEntries interface typeName table (columnEntries selection) row filled
      = .ok entries)
    (otherFills : fillEntries interface typeName table (columnEntries selection) other otherFilled
      = .ok otherEntries) :
    entries.lookup key = otherEntries.lookup key := by
  induction selection generalizing filled otherFilled with
  | nil =>
      rw [columnEntries, List.map_nil, fillEntries] at fills otherFills
      cases fills
      cases otherFills
      exact sameFilled
  | cons field selection inductionHypothesis =>
      rw [columnEntries, List.map_cons, fillEntries, bind_eq_ok] at fills otherFills
      obtain ⟨value, first, rest⟩ := fills
      obtain ⟨otherValue, otherFirst, otherRest⟩ := otherFills
      rw [List.forall_mem_cons] at same
      refine inductionHypothesis same.2 ?_ rest otherRest
      rw [JsonEntries.lookup_set, JsonEntries.lookup_set, sameFilled]
      by_cases isKey : key = field.key
      · -- Both rows show the value of the same column here.
        rw [fillEntry, fillColumn] at first otherFirst
        rw [same.1 isKey.symm, otherFirst] at first
        cases first
        rfl
      · rw [OutputEntry.key, if_neg isKey, if_neg isKey]

theorem get?_showRow
    {row other : StoredRow}
    {shown otherShown : Json}
    {key : String}
    (same : ∀ field ∈ selection, field.key = key ->
      fieldValue? row field.name = fieldValue? other field.name)
    (shows : interface.showRow types selection row = .ok shown)
    (otherShows : interface.showRow types selection other = .ok otherShown) :
    shown.get? key = otherShown.get? key := by
  rw [showRow, SelectionPlan.ofColumns, fillObject, bind_eq_ok] at shows otherShows
  obtain ⟨entries, fills, isShown⟩ := shows
  obtain ⟨otherEntries, otherFills, isOtherShown⟩ := otherShows
  rw [pure_eq_ok] at isShown isOtherShown
  subst isShown isOtherShown
  refine lookup_fillEntries_columns ?_ rfl fills otherFills
  intro field member isKey
  rw [Row.field?, Row.field?, Store.fieldValue?_project row (mem_loadedColumns member),
    Store.fieldValue?_project other (mem_loadedColumns member), same field member isKey]

end Interface
end RelationalApi
