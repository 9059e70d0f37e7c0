import RelationalApi.Proofs.Arguments.Places
import RelationalApi.Proofs.Arguments.WhereMeaning

/-!
# Filters in order

Conjunctions and disjunctions keep the order of truth values, in either direction.  So do the
filters that arguments compile to: where the conditions in a place under no negation are in order,
row by row, the filters of the whole arguments are.
-/

namespace RelationalApi

open Outcome

namespace Outcome

variable {ε α β : Type}

/-- Where the first computation succeeds, the second one does, with a related result. -/
def Follows (related : α -> β -> Prop) (outcome : Except ε α) (other : Except ε β) : Prop :=
  ∀ value, outcome = .ok value -> ∃ result, other = .ok result ∧ related value result

namespace Follows

variable {γ δ : Type} {related : α -> β -> Prop}

theorem refl
    {related : α -> α -> Prop}
    (reflexive : ∀ value, related value value)
    (outcome : Except ε α) :
    Follows related outcome outcome :=
  fun value succeeded => ⟨value, succeeded, reflexive value⟩

theorem bind
    {after : γ -> δ -> Prop}
    {outcome : Except ε α}
    {other : Except ε β}
    {next : α -> Except ε γ}
    {otherNext : β -> Except ε δ}
    (follows : Follows related outcome other)
    (step : ∀ value result, related value result ->
      Follows after (next value) (otherNext result)) :
    Follows after (outcome >>= next) (other >>= otherNext) := by
  intro last succeeded
  obtain ⟨value, first, later⟩ := bind_eq_ok.1 succeeded
  obtain ⟨result, otherFirst, holds⟩ := follows value first
  obtain ⟨otherLast, otherLater, afterHolds⟩ := step value result holds last later
  exact ⟨otherLast, bind_eq_ok.2 ⟨result, otherFirst, otherLater⟩, afterHolds⟩

theorem ok {value : α} {result : β} (holds : related value result) :
    Follows related (.ok value : Except ε α) (.ok result) := by
  rintro _ ⟨⟩
  exact ⟨result, rfl, holds⟩

end Follows

end Outcome

/-! ## Order of filters -/

/-- A relation of truth values that conjunctions and disjunctions keep. -/
structure KeptByJunctions (order : Bool -> Bool -> Prop) : Prop where
  refl : ∀ value, order value value
  and : ∀ {left right other otherRight}, order left other -> order right otherRight ->
    order (left && right) (other && otherRight)
  or : ∀ {left right other otherRight}, order left other -> order right otherRight ->
    order (left || right) (other || otherRight)

theorem keptByJunctions_imp : KeptByJunctions fun left right => left = true -> right = true := by
  constructor
  all_goals grind

theorem KeptByJunctions.flip
    {order : Bool -> Bool -> Prop}
    (kept : KeptByJunctions order) :
    KeptByJunctions fun left right => order right left :=
  ⟨kept.refl, kept.and, kept.or⟩

/-- On every row, the answers of two filters are in order. -/
def Filter.Ordered (order : Bool -> Bool -> Prop) (filter other : Option Filter) : Prop :=
  ∀ row, order (accepts filter row) (accepts other row)

/-- On every row, the answers of two lists of conditions are in order. -/
def Filter.ConditionsOrdered (order : Bool -> Bool -> Prop) (conditions others : List Filter) :
    Prop :=
  ∀ row, order (conditions.all (holds row)) (others.all (holds row))

open RelationalApi.Filter (Ordered ConditionsOrdered)

variable {order : Bool -> Bool -> Prop}

namespace Filter

theorem Ordered.refl (keeps : KeptByJunctions order) (filter : Option Filter) :
    Ordered order filter filter :=
  fun _ => keeps.refl _

theorem ConditionsOrdered.refl (keeps : KeptByJunctions order) (conditions : List Filter) :
    ConditionsOrdered order conditions conditions :=
  fun _ => keeps.refl _

theorem Ordered.toList
    {filter other : Option Filter}
    (ordered : Ordered order filter other) :
    ConditionsOrdered order filter.toList other.toList := by
  intro row
  rw [all_toList, all_toList]
  exact ordered row

end Filter

/-- Conditions are in order together where both parts are. -/
theorem Outcome.Follows.append
    {outcome other later laterOther : Except ArgumentError (List Filter)}
    (keeps : KeptByJunctions order)
    (follows : Follows (ConditionsOrdered order) outcome other)
    (laterFollows : Follows (ConditionsOrdered order) later laterOther) :
    Follows (ConditionsOrdered order)
      (do
        let conditions ← outcome
        let others ← later
        return conditions ++ others)
      (do
        let conditions ← other
        let others ← laterOther
        return conditions ++ others) := by
  refine follows.bind fun _ _ ordered => ?_
  refine laterFollows.bind fun _ _ orderedLater => .ok fun row => ?_
  rw [List.all_append, List.all_append]
  exact keeps.and (ordered row) (orderedLater row)

/-- Conditions between others are in order where they are. -/
theorem Outcome.Follows.surround
    {outcome other : Except ArgumentError (List Filter)}
    (keeps : KeptByJunctions order)
    (before after : Except ArgumentError (List Filter))
    (follows : Follows (ConditionsOrdered order) outcome other) :
    Follows (ConditionsOrdered order)
      (do
        let first ← before
        let later ← (do
          let conditions ← outcome
          let last ← after
          return conditions ++ last)
        return first ++ later)
      (do
        let first ← before
        let later ← (do
          let conditions ← other
          let last ← after
          return conditions ++ last)
        return first ++ later) :=
  (Follows.refl (.refl keeps) before).append keeps
    (follows.append keeps (.refl (.refl keeps) after))

/-- Filters are in order where their conditions are. -/
theorem Outcome.Follows.all
    {outcome other : Except ArgumentError (List Filter)}
    (follows : Follows (ConditionsOrdered order) outcome other) :
    Follows (Ordered order)
      (do
        let conditions ← outcome
        return Filter.all conditions)
      (do
        let conditions ← other
        return Filter.all conditions) := by
  refine follows.bind fun _ _ ordered => .ok fun row => ?_
  rw [Filter.accepts_all, Filter.accepts_all]
  exact ordered row

section Branches

variable {branches others kept : List (Option Filter)}

theorem disjunction_ordered
    (keeps : KeptByJunctions order)
    (ordered : List.Forall₂ (Ordered order) branches others) :
    Ordered order (disjunction branches) (disjunction others) := by
  intro row
  rw [WhereMeaning.accepts_disjunction, WhereMeaning.accepts_disjunction]
  apply keeps.or
  · cases ordered <;> exact keeps.refl _
  · induction ordered with
    | nil => exact keeps.refl _
    | cons first _ inductionHypothesis => exact keeps.or (first row) inductionHypothesis

/-- The conditions of a combinator that does not negate are in order where its branches are. -/
theorem combine_follows
    {combinator : Combinator}
    (keeps : KeptByJunctions order)
    (notNegation : combinator ≠ .not)
    (path : String)
    (ordered : List.Forall₂ (Ordered order) branches others) :
    Follows (ConditionsOrdered order) (combinator.combine path branches)
      (combinator.combine path others) := by
  cases combinator with
  | and =>
      refine .ok fun row => ?_
      rw [Filter.all_filterMap, Filter.all_filterMap]
      induction ordered with
      | nil => exact keeps.refl _
      | cons first _ inductionHypothesis => exact keeps.and (first row) inductionHypothesis
  | or => exact .ok (disjunction_ordered keeps ordered).toList
  | not => exact absurd rfl notNegation

end Branches

/-! ## Places -/

/-- An argument is ordered by the conditions in a place under no negation. -/
theorem WherePlace.compileWhere_fill_follows
    {columns : List ColumnCodec}
    {inserted others : JsonEntries}
    (keeps : KeptByJunctions order)
    (follows : ∀ path, Follows (ConditionsOrdered order) (compileEntries columns path inserted)
      (compileEntries columns path others))
    {place : WherePlace}
    (avoidsNot : place.AvoidsNot)
    (path : String) :
    Follows (Ordered order) (compileWhere columns path (place.fill inserted))
      (compileWhere columns path (place.fill others)) := by
  -- What stands around the conditions stays as it is.
  have surrounded : ∀ path before after inserted others,
      Follows (ConditionsOrdered order) (compileEntries columns path inserted)
        (compileEntries columns path others) ->
      Follows (Ordered order) (compileWhere columns path (.object (before ++ (inserted ++ after))))
        (compileWhere columns path (.object (before ++ (others ++ after)))) := by
    intro path before after inserted others follows
    simp only [compileWhere, compileEntries_append]
    apply Follows.all
    exact follows.surround keeps _ _
  induction place generalizing path with
  | here before after => exact surrounded path before after inserted others (follows path)
  | inside before after combinator itemsBefore itemsAfter place inductionHypothesis =>
      refine surrounded path before after [_] [_] ?_
      rw [compileEntries_singleton, compileEntries_singleton, compileEntry_items,
        compileEntry_items]
      refine Follows.bind ?_ fun _ _ => combine_follows keeps avoidsNot.1 _
      simp only [compileBranches_append, compileBranches]
      have same : ∀ branches : List (Option Filter),
          List.Forall₂ (Ordered order) branches branches :=
        fun branches => List.forall₂_same.2 fun branch _ => .refl keeps branch
      refine (Follows.refl same _).bind fun _ _ branchesBefore => ?_
      refine Follows.bind ?_ fun _ _ later => .ok (List.rel_append branchesBefore later)
      refine (inductionHypothesis avoidsNot.2 _).bind fun _ _ branch => ?_
      exact (Follows.refl same _).bind fun _ _ branchesAfter => .ok (.cons branch branchesAfter)

end RelationalApi
