import RelationalApi.Proofs.Arguments.OrderedFilters
import RelationalApi.Proofs.Storage.Filters

/-!
# Alternatives

A list of alternatives stands in an object inside a `where` argument or among the operators of a
column.  As long as an alternative remains, taking others away leaves a filter that accepts no more
rows, so that updates and deletes touch no more of them.  When none remains, the list does not
count: the argument compiles as if it were not there.
-/

namespace RelationalApi

open Outcome

open RelationalApi.Filter (NarrowsTo Ordered ConditionsOrdered)

variable {order : Bool -> Bool -> Prop}

/-- Part of a list has part of the results. -/
theorem Outcome.sublistForall₂_of_sublist
    {α β : Type}
    {related : α -> β -> Prop}
    {items kept : List α}
    {results : List β}
    (sublist : kept.Sublist items)
    (pairs : List.Forall₂ related items results) :
    List.SublistForall₂ related kept results := by
  induction sublist generalizing results with
  | slnil => exact .nil
  | cons item _ inductionHypothesis =>
      cases pairs with
      | cons _ pairs => exact .cons_right (inductionHypothesis pairs)
  | cons_cons item _ inductionHypothesis =>
      cases pairs with
      | cons first pairs => exact .cons first (inductionHypothesis pairs)

/-! ## Lists of alternatives -/

/-- The disjunctions of branches and of the ones that some kept alternatives have are in order. -/
def DisjunctionsOrdered (order : Bool -> Bool -> Prop) (kept : List Json) : Prop :=
  ∀ branches keptBranches, keptBranches.length = kept.length -> keptBranches.Sublist branches ->
    Ordered order (disjunction branches) (disjunction keptBranches)

/-- A disjunction of some of the alternatives, of which there is one, accepts no more rows. -/
theorem disjunctionsOrdered_narrow
    {kept : List Json}
    (notEmpty : kept ≠ []) :
    DisjunctionsOrdered (fun whole part => part = true -> whole = true) kept := by
  intro branches keptBranches sameLength sublist row
  rw [WhereMeaning.accepts_disjunction, WhereMeaning.accepts_disjunction, Bool.or_eq_true,
    Bool.or_eq_true]
  rintro (isEmpty | accepted)
  · rw [List.isEmpty_iff] at isEmpty
    subst isEmpty
    exact absurd (List.length_eq_zero_iff.1 sameLength.symm) notEmpty
  · obtain ⟨branch, member, accepts⟩ := List.any_eq_true.1 accepted
    exact .inr (List.any_eq_true.2 ⟨branch, sublist.subset member, accepts⟩)

/-- A disjunction of no alternatives accepts every row. -/
theorem disjunctionsOrdered_nil :
    DisjunctionsOrdered (fun whole part => whole = true -> part = true) [] := by
  intro branches keptBranches isEmpty _ row _
  rw [List.length_eq_zero_iff.1 isEmpty]
  rfl

section Lists

variable {columns : List ColumnCodec} {column : ColumnCodec} {path : String} {index : Nat}
variable {items kept : List Json} {branches : List (Option Filter)}

/-- The branches of a list are the filters of its items, on whatever paths. -/
theorem compileBranches_eq_ok :
    compileBranches columns path index items = .ok branches ↔
      List.Forall₂ (fun item branch => compileWhere columns "" item = .ok branch)
        items branches := by
  refine counted_eq_ok (compileBranches columns path) (fun _ => by rw [compileBranches])
    (fun _ _ _ => by rw [compileBranches]) fun index item branch => ?_
  rw [← toOption_eq_some, ← toOption_eq_some,
    compileWhere_toOption columns item (itemPath path index) ""]

/-- The branches of a column's alternatives are the filters of its items, on whatever paths. -/
theorem compileAlternatives_eq_ok :
    compileAlternatives column path index items = .ok branches ↔
      List.Forall₂
        (fun item branch => compileOperatorObject (compileOperator column "") "" item = .ok branch)
        items branches := by
  refine counted_eq_ok (compileAlternatives column path) (fun _ => rfl) (fun _ _ _ => rfl)
    fun index item branch => ?_
  rw [← toOption_eq_some, ← toOption_eq_some, compileOperatorObject_toOption
    (compileOperator_toOption column (itemPath path index) "") (itemPath path index) "" item]

/-- Some of the branches remain with some of the items. -/
theorem disjunction_follows
    {related : Json -> Option Filter -> Prop}
    {compiled compiledKept : Except ArgumentError (List (Option Filter))}
    (compiles : ∀ branches, compiled = .ok branches -> List.Forall₂ related items branches)
    (compilesKept : ∀ branches, List.Forall₂ related kept branches -> compiledKept = .ok branches)
    (sublist : kept.Sublist items)
    (ordered : DisjunctionsOrdered order kept) :
    Follows (fun branches keptBranches =>
      Ordered order (disjunction branches) (disjunction keptBranches)) compiled compiledKept := by
  intro branches succeeded
  have pairs := compiles branches succeeded
  obtain ⟨keptBranches, keptPairs, isSublist⟩ :=
    List.sublistForall₂_iff.1 (sublistForall₂_of_sublist sublist pairs)
  refine ⟨keptBranches, compilesKept keptBranches keptPairs, ?_⟩
  exact ordered branches keptBranches keptPairs.length_eq.symm isSublist

theorem compileEntries_or_follows
    (sublist : kept.Sublist items)
    (ordered : DisjunctionsOrdered order kept) :
    Follows (ConditionsOrdered order) (compileEntries columns path [("OR", .array items)])
      (compileEntries columns path [("OR", .array kept)]) := by
  have entry : ∀ items, compileEntries columns path [("OR", .array items)] = _ := fun items =>
    (compileEntries_singleton columns path "OR" _).trans
      (compileEntry_items columns path .or items)
  rw [entry, entry]
  refine Follows.bind ?_ fun _ _ disjunctions => .ok (Filter.Ordered.toList disjunctions)
  exact disjunction_follows (fun _ => compileBranches_eq_ok.1) (fun _ => compileBranches_eq_ok.2)
    sublist ordered

theorem compileOperators_append
    (compile : String -> Json -> Except ArgumentError (Option Filter))
    (entries others : JsonEntries) :
    compileOperators compile (entries ++ others) = do
      let conditions ← compileOperators compile entries
      let later ← compileOperators compile others
      return conditions ++ later := by
  have conditionsFirst : ∀ entry entries, compileOperators compile (entry :: entries) = do
      let conditions ← (do
        let condition ← compile entry.1 entry.2
        return condition.toList)
      let later ← compileOperators compile entries
      return conditions ++ later := by
    rintro ⟨name, operand⟩ entries
    simp only [compileOperators, bind_assoc, pure_bind]
  exact concatenated_append (compileOperators compile) rfl conditionsFirst entries others

theorem compileColumnOr_follows
    (sublist : kept.Sublist items)
    (ordered : DisjunctionsOrdered order kept) :
    Follows (Ordered order) (compileColumnOr column path (.array items))
      (compileColumnOr column path (.array kept)) := by
  refine Follows.bind ?_ fun _ _ disjunctions => Follows.ok disjunctions
  exact disjunction_follows (fun _ => compileAlternatives_eq_ok.1)
    (fun _ => compileAlternatives_eq_ok.2) sublist ordered

/-- The filter of a column is ordered by its own alternatives. -/
theorem compileColumn_or_follows
    (keeps : KeptByJunctions order)
    (sublist : kept.Sublist items)
    (ordered : DisjunctionsOrdered order kept)
    (before after : JsonEntries) :
    Follows (Ordered order)
      (compileColumn column path (.object (before ++ ([("OR", .array items)] ++ after))))
      (compileColumn column path (.object (before ++ ([("OR", .array kept)] ++ after)))) := by
  rw [compileColumn, compileColumn, compileOperatorObject, compileOperatorObject]
  apply Follows.all
  simp only [compileOperators_append]
  refine Follows.surround keeps _ _ ?_
  simp only [compileOperators, if_true]
  refine (compileColumnOr_follows sublist ordered).bind fun _ _ disjunctions => .ok ?_
  rw [List.append_nil, List.append_nil]
  exact disjunctions.toList

end Lists

/-- A place for a list of alternatives. -/
inductive AlternativesPlace where
  /-- In an object inside a `where` argument. -/
  | ofTable (place : WherePlace)
  /-- Among the operators of a column in such an object. -/
  | ofColumn (place : WherePlace) (key : String) (isColumn : Combinator.ofKey? key = none)
      (before after : JsonEntries)

namespace AlternativesPlace

/-- The argument with entries for alternatives in the place. -/
def fill (alternatives : JsonEntries) : AlternativesPlace -> Json
  | ofTable place => place.fill alternatives
  | ofColumn place key _ before after =>
      place.fill [(key, .object (before ++ (alternatives ++ after)))]

/-- The place is inside no negation. -/
def AvoidsNot : AlternativesPlace -> Prop
  | ofTable place => place.AvoidsNot
  | ofColumn place _ _ _ _ => place.AvoidsNot

end AlternativesPlace

section Alternatives

variable {columns : List ColumnCodec} {place : AlternativesPlace} {items kept : List Json}

/-- An argument is ordered by its alternatives. -/
theorem compileWhere_alternatives_follows
    (keeps : KeptByJunctions order)
    (avoidsNot : place.AvoidsNot)
    (sublist : kept.Sublist items)
    (ordered : DisjunctionsOrdered order kept)
    (path : String) :
    Follows (Ordered order) (compileWhere columns path (place.fill [("OR", .array items)]))
      (compileWhere columns path (place.fill [("OR", .array kept)])) := by
  cases place with
  | ofTable place =>
      exact place.compileWhere_fill_follows keeps
        (fun _ => compileEntries_or_follows sublist ordered) avoidsNot path
  | ofColumn place key isColumn before after =>
      refine place.compileWhere_fill_follows keeps (fun path => ?_) avoidsNot path
      rw [compileEntries_singleton, compileEntries_singleton,
        compileEntry_column columns path isColumn, compileEntry_column columns path isColumn,
        compileColumnEntry, compileColumnEntry]
      split
      · refine (compileColumn_or_follows keeps sublist ordered before after).bind ?_
        exact fun _ _ filters => .ok filters.toList
      · rintro _ ⟨⟩

/-- An empty list of alternatives does not count. -/
theorem compileWhere_no_alternatives
    (place : AlternativesPlace)
    (path : String) :
    compileWhere columns path (place.fill [("OR", .array [])]) =
      compileWhere columns path (place.fill []) := by
  cases place with
  | ofTable place =>
      refine place.compileWhere_fill_congr (fun path => ?_) path
      rw [compileEntries_singleton, compileEntries]
      exact compileEntry_items columns path .or []
  | ofColumn place key isColumn before after =>
      refine place.compileWhere_fill_congr (fun path => ?_) path
      rw [compileEntries_singleton, compileEntries_singleton,
        compileEntry_column columns path isColumn, compileEntry_column columns path isColumn,
        compileColumnEntry, compileColumnEntry]
      split
      · rename_i column _
        have same : compileColumn column (joinPath path key)
            (.object (before ++ ([("OR", .array [])] ++ after))) =
              compileColumn column (joinPath path key) (.object (before ++ ([] ++ after))) := by
          rw [compileColumn, compileColumn, compileOperatorObject, compileOperatorObject]
          simp only [compileOperators_append, compileOperators]
          rfl
        rw [same]
      · rfl

/-- Taking alternatives away, in a place under no negation, leaves an argument that compiles.  If
one remains, or there was none, statements touch no more rows with it.  If none remains, it compiles
as if there was no list, to a filter that accepts no fewer rows. -/
theorem compileWhere_sublist
    (columns : List ColumnCodec)
    (place : AlternativesPlace)
    (avoidsNot : place.AvoidsNot)
    (items kept : List Json)
    (sublist : kept.Sublist items)
    (path : String)
    (filter : Option Filter)
    (compiled : compileWhere columns path (place.fill [("OR", .array items)]) = .ok filter) :
    ∃ reduced, compileWhere columns path (place.fill [("OR", .array kept)]) = .ok reduced ∧
      (kept ≠ [] ∨ items = [] -> Store.TouchesLess filter reduced) ∧
      (kept = [] -> compileWhere columns path (place.fill []) = .ok reduced ∧
        NarrowsTo reduced filter) := by
  by_cases isEmpty : kept = []
  · subst isEmpty
    obtain ⟨reduced, compiledKept, widens⟩ := compileWhere_alternatives_follows
      keptByJunctions_imp avoidsNot sublist disjunctionsOrdered_nil path filter compiled
    refine ⟨reduced, compiledKept, ?_, fun _ => ⟨?_, widens⟩⟩
    · rintro (impossible | rfl)
      · exact absurd rfl impossible
      · cases compiled.symm.trans compiledKept
        exact Store.touchesLess fun _ => id
    · rw [← compileWhere_no_alternatives, compiledKept]
  · obtain ⟨reduced, compiledKept, narrows⟩ := compileWhere_alternatives_follows
      keptByJunctions_imp.flip avoidsNot sublist
      (disjunctionsOrdered_narrow isEmpty) path filter compiled
    exact ⟨reduced, compiledKept, fun _ => Store.touchesLess narrows,
      fun empty => absurd empty isEmpty⟩

/-- A condition on the number of a note. -/
def numberCondition (number : Int) : Json :=
  .object [("eq", .int number)]

/-- A place for alternatives of the number of a note, inside a conjunction. -/
def noteNumbers : AlternativesPlace :=
  .ofColumn (.inside [] [] .and [] [] (.here [] [])) "id" rfl [("gt", .int 0)] []

/-- A place for alternatives of notes. -/
def noteChoices : AlternativesPlace :=
  .ofTable (.here [] [])

theorem compileWhere_sublist_notes :
    noteNumbers.AvoidsNot ∧
    [numberCondition 1].Sublist [numberCondition 1, numberCondition 2] ∧
    ∃ filter reduced,
      compileWhere WhereMeaning.noteColumns "where"
        (noteNumbers.fill [("OR", .array [numberCondition 1, numberCondition 2])]) = .ok filter ∧
      compileWhere WhereMeaning.noteColumns "where"
        (noteNumbers.fill [("OR", .array [numberCondition 1])]) = .ok reduced ∧
      Store.TouchesLess filter reduced := by
  have avoidsNot : noteNumbers.AvoidsNot := ⟨by decide, trivial⟩
  have sublist : [numberCondition 1].Sublist [numberCondition 1, numberCondition 2] := by simp
  obtain ⟨reduced, compiled, touchesLess, _⟩ := compileWhere_sublist WhereMeaning.noteColumns
    noteNumbers avoidsNot _ _ sublist "where" _ rfl
  exact ⟨avoidsNot, sublist, _, reduced, rfl, compiled, touchesLess (.inl (by simp))⟩

/-- Without the last alternative a filter accepts rows that it did not accept, whether the list
stands in the argument or among the operators of a column. -/
theorem not_narrows_notes :
    (∃ filter reduced,
      compileWhere WhereMeaning.noteColumns "where"
        (noteChoices.fill [("OR", .array [.object [("id", numberCondition 1)]])]) = .ok filter ∧
      compileWhere WhereMeaning.noteColumns "where"
        (noteChoices.fill [("OR", .array [])]) = .ok reduced ∧
      Filter.accepts reduced [⟨"id", .int 2⟩] = true ∧
      Filter.accepts filter [⟨"id", .int 2⟩] = false) ∧
    ∃ filter reduced,
      compileWhere WhereMeaning.noteColumns "where"
        (noteNumbers.fill [("OR", .array [numberCondition 1])]) = .ok filter ∧
      compileWhere WhereMeaning.noteColumns "where"
        (noteNumbers.fill [("OR", .array [])]) = .ok reduced ∧
      Filter.accepts reduced [⟨"id", .int 2⟩] = true ∧
      Filter.accepts filter [⟨"id", .int 2⟩] = false :=
  ⟨⟨_, _, rfl, rfl, by decide, by decide⟩, ⟨_, _, rfl, rfl, by decide, by decide⟩⟩

end Alternatives
end RelationalApi
