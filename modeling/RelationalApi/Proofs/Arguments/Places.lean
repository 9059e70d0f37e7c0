import RelationalApi.Arguments.Where
import RelationalApi.Proofs.Json.Rearrangement
import RelationalApi.Proofs.Scalar.Decoding

/-!
# Places in where arguments

An object inside a `where` argument is reached through the lists of combinators, and entries can be
put between its own.  The compiler sees such a place only through the conditions of the entries that
fill it.  The paths that it carries along are used for nothing but the texts of errors.
-/

namespace RelationalApi

open Outcome

/-! ## Paths -/

section Paths

variable (column : ColumnCodec)

theorem compileNullness_toOption (negated : Bool) (operand : Json) (first second : String) :
    (compileNullness column negated operand first).toOption =
      (compileNullness column negated operand second).toOption := by
  unfold compileNullness
  split <;> rfl

theorem compileMembership_toOption (negated : Bool) (operand : Json) (first second : String) :
    (compileMembership column negated operand first).toOption =
      (compileMembership column negated operand second).toOption := by
  unfold compileMembership
  split
  · rw [toOption_bind, toOption_bind]
    congr 1
    exact readItems_toOption (Codec.read_toOption column.codec) _ first second 0 0
  · rfl

theorem compilePattern_toOption (test : PatternTest) (operand : Json) (first second : String) :
    (compilePattern column test operand first).toOption =
      (compilePattern column test operand second).toOption := by
  unfold compilePattern
  split <;> rfl

theorem compileComparison_toOption
    (comparison : Comparison)
    (operand : Json)
    (first second : String) :
    (compileComparison column comparison operand first).toOption =
      (compileComparison column comparison operand second).toOption := by
  unfold compileComparison
  split
  · rfl
  · rw [toOption_bind, toOption_bind]
    congr 1
    exact Codec.read_toOption column.codec operand first second

theorem compileOperator_toOption (first second name : String) (operand : Json) :
    (compileOperator column first name operand).toOption =
      (compileOperator column second name operand).toOption := by
  unfold compileOperator
  dsimp only
  split
  · exact compileNullness_toOption column _ operand _ _
  · split
    · exact compileMembership_toOption column _ operand _ _
    · split
      · exact compilePattern_toOption column _ operand _ _
      · split
        · exact compileComparison_toOption column _ operand _ _
        · rfl

theorem compileOperatorObject_toOption
    {compile compileOther : String -> Json -> Except ArgumentError (Option Filter)}
    (same : ∀ name operand, (compile name operand).toOption = (compileOther name operand).toOption)
    (first second : String)
    (document : Json) :
    (compileOperatorObject compile first document).toOption =
      (compileOperatorObject compileOther second document).toOption := by
  cases document with
  | object entries =>
      rw [compileOperatorObject, compileOperatorObject, toOption_bind, toOption_bind]
      congr 1
      induction entries with
      | nil => rfl
      | cons entry entries inductionHypothesis =>
          obtain ⟨name, operand⟩ := entry
          simp only [compileOperators, toOption_bind, toOption_pure, same, inductionHypothesis]
  | _ => rfl

theorem compileAlternatives_toOption
    (items : List Json)
    (first second : String)
    (index otherIndex : Nat) :
    (compileAlternatives column first index items).toOption =
      (compileAlternatives column second otherIndex items).toOption := by
  induction items generalizing index otherIndex with
  | nil => rfl
  | cons item items inductionHypothesis =>
      have same := compileOperatorObject_toOption
        (compileOperator_toOption column (itemPath first index) (itemPath second otherIndex))
        (itemPath first index) (itemPath second otherIndex) item
      simp only [compileAlternatives, toOption_bind, toOption_pure, same,
        inductionHypothesis (index + 1) (otherIndex + 1)]

theorem compileColumnOr_toOption (first second : String) (document : Json) :
    (compileColumnOr column first document).toOption =
      (compileColumnOr column second document).toOption := by
  cases document with
  | array items =>
      rw [compileColumnOr, compileColumnOr, toOption_bind, toOption_bind,
        compileAlternatives_toOption column items first second 0 0]
  | _ => rfl

theorem compileColumn_toOption (first second : String) (document : Json) :
    (compileColumn column first document).toOption =
      (compileColumn column second document).toOption := by
  refine compileOperatorObject_toOption (fun name operand => ?_) first second document
  split
  · exact compileColumnOr_toOption column _ _ operand
  · exact compileOperator_toOption column first second name operand

theorem compileColumnEntry_toOption
    (columns : List ColumnCodec)
    (first second key : String)
    (document : Json) :
    (compileColumnEntry columns first key document).toOption =
      (compileColumnEntry columns second key document).toOption := by
  rw [compileColumnEntry, compileColumnEntry]
  split
  · rename_i column _
    rw [toOption_bind, toOption_bind,
      compileColumn_toOption column (joinPath first key) (joinPath second key)]
  · rfl

theorem combine_toOption
    (combinator : Combinator)
    (first second : String)
    (branches : List (Option Filter)) :
    (combinator.combine first branches).toOption =
      (combinator.combine second branches).toOption := by
  unfold Combinator.combine
  split
  · rfl
  · rfl
  · split <;> rfl

/-- Lists of combinators compile to the same branches on every path where their items do. -/
theorem compileBranches_toOption
    {columns : List ColumnCodec}
    {items : List Json}
    (same : ∀ item ∈ items, ∀ first second,
      (compileWhere columns first item).toOption = (compileWhere columns second item).toOption)
    (first second : String)
    (index otherIndex : Nat) :
    (compileBranches columns first index items).toOption =
      (compileBranches columns second otherIndex items).toOption := by
  induction items generalizing index otherIndex with
  | nil => rw [compileBranches, compileBranches]
  | cons item items inductionHypothesis =>
      rw [List.forall_mem_cons] at same
      simp only [compileBranches, toOption_bind, toOption_pure,
        same.1 (itemPath first index) (itemPath second otherIndex),
        inductionHypothesis same.2 (index + 1) (otherIndex + 1)]

/-- A `where` argument compiles to the same filter on every path. -/
theorem compileWhere_toOption
    (columns : List ColumnCodec)
    (document : Json)
    (first second : String) :
    (compileWhere columns first document).toOption =
      (compileWhere columns second document).toOption := by
  -- A document inside a `where` argument is an argument itself or the list of a combinator.
  suffices both : (∀ first second, (compileWhere columns first document).toOption =
        (compileWhere columns second document).toOption) ∧
      ∀ first second key, (compileEntry columns first key document).toOption =
        (compileEntry columns second key document).toOption from both.1 first second
  clear first second
  induction document using Json.inside_induction with
  | step document itemsHypothesis entriesHypothesis =>
      refine ⟨fun first second => ?_, fun first second key => ?_⟩
      · cases document with
        | object entries =>
            rw [compileWhere, compileWhere, toOption_bind, toOption_bind]
            congr 1
            replace entriesHypothesis := fun entry member =>
              (entriesHypothesis _ rfl entry member).2
            clear itemsHypothesis
            induction entries with
            | nil => rw [compileEntries, compileEntries]
            | cons entry entries inductionHypothesis =>
                rw [List.forall_mem_cons] at entriesHypothesis
                simp only [compileEntries, toOption_bind, toOption_pure,
                  entriesHypothesis.1 first second, inductionHypothesis entriesHypothesis.2]
        | _ => simp only [compileWhere, Except.toOption]
      · unfold compileEntry
        cases Combinator.ofKey? key with
        | none => exact compileColumnEntry_toOption columns first second key document
        | some combinator =>
            cases document with
            | null => exact combine_toOption combinator _ _ []
            | array items =>
                have same := compileBranches_toOption
                  (fun item member => (itemsHypothesis _ rfl item member).1)
                  (joinPath first key) (joinPath second key) 0 0
                simp only [toOption_bind, same]
                congr 1
                funext branches
                exact combine_toOption combinator _ _ branches
            | _ => rfl

end Paths

/-! ## Places -/

/-- The key of a combinator. -/
def Combinator.key : Combinator -> String
  | .and => "AND"
  | .or => "OR"
  | .not => "NOT"

theorem Combinator.ofKey?_key (combinator : Combinator) :
    ofKey? combinator.key = some combinator := by
  cases combinator <;> rfl

theorem compileEntry_items
    (columns : List ColumnCodec)
    (path : String)
    (combinator : Combinator)
    (items : List Json) :
    compileEntry columns path combinator.key (.array items) =
      compileBranches columns (joinPath path combinator.key) 0 items >>=
        combinator.combine (joinPath path combinator.key) := by
  rw [compileEntry.eq_def, combinator.ofKey?_key]

theorem compileEntry_column
    (columns : List ColumnCodec)
    (path : String)
    {key : String}
    (isColumn : Combinator.ofKey? key = none)
    (document : Json) :
    compileEntry columns path key document = compileColumnEntry columns path key document := by
  rw [compileEntry.eq_def, isColumn]

theorem compileEntries_append
    (columns : List ColumnCodec)
    (path : String)
    (entries others : JsonEntries) :
    compileEntries columns path (entries ++ others) = do
      let conditions ← compileEntries columns path entries
      let later ← compileEntries columns path others
      return conditions ++ later :=
  concatenated_append (compileEntries columns path) (by rw [compileEntries])
    (fun _ _ => by rw [compileEntries]) entries others

theorem compileEntries_singleton
    (columns : List ColumnCodec)
    (path key : String)
    (document : Json) :
    compileEntries columns path [(key, document)] = compileEntry columns path key document := by
  rw [compileEntries, compileEntries]
  cases compileEntry columns path key document with
  | error fault => rfl
  | ok conditions => exact congrArg Except.ok (List.append_nil conditions)

theorem compileBranches_append
    (columns : List ColumnCodec)
    (path : String)
    (index : Nat)
    (items others : List Json) :
    compileBranches columns path index (items ++ others) = do
      let branches ← compileBranches columns path index items
      let later ← compileBranches columns path (index + items.length) others
      return branches ++ later := by
  induction items generalizing index with
  | nil =>
      rw [List.nil_append, compileBranches, List.length_nil, Nat.add_zero]
      cases compileBranches columns path index others <;> rfl
  | cons item items inductionHypothesis =>
      have position : index + 1 + items.length = index + (item :: items).length := by
        rw [List.length_cons]
        omega
      simp only [List.cons_append, compileBranches, inductionHypothesis, position, bind_assoc,
        pure_bind]

/-- A place for entries in an object inside a `where` argument. -/
inductive WherePlace where
  /-- Between the entries of the argument itself. -/
  | here (before after : JsonEntries)
  /-- Inside an item of the list of a combinator. -/
  | inside (before after : JsonEntries) (combinator : Combinator)
      (itemsBefore itemsAfter : List Json) (place : WherePlace)

namespace WherePlace

/-- The argument with entries in the place. -/
def fill (inserted : JsonEntries) : WherePlace -> Json
  | here before after => .object (before ++ (inserted ++ after))
  | inside before after combinator itemsBefore itemsAfter place =>
      .object (before ++ (combinator.key,
        .array (itemsBefore ++ place.fill inserted :: itemsAfter)) :: after)

/-- The place is inside no negation. -/
def AvoidsNot : WherePlace -> Prop
  | here _ _ => True
  | inside _ _ combinator _ _ place => combinator ≠ .not ∧ place.AvoidsNot

/-- Entries with the same conditions can stand for each other in every place. -/
theorem compileWhere_fill_congr
    {columns : List ColumnCodec}
    {inserted others : JsonEntries}
    (same : ∀ path, compileEntries columns path inserted = compileEntries columns path others)
    (place : WherePlace)
    (path : String) :
    compileWhere columns path (place.fill inserted) =
      compileWhere columns path (place.fill others) := by
  induction place generalizing path with
  | here before after =>
      simp only [fill, compileWhere, compileEntries_append, same]
  | inside before after combinator itemsBefore itemsAfter place inductionHypothesis =>
      simp only [fill, compileWhere, compileEntries_append, compileEntries, compileEntry_items,
        compileBranches_append, compileBranches, inductionHypothesis]

end WherePlace
end RelationalApi
