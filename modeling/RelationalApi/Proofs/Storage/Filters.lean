import RelationalApi.Proofs.Storage.Statements
import RelationalApi.Storage.Evaluation

/-!
# Combined filters

What conjunctions and disjunctions of filters mean on a row, whatever form they are built in.
-/

namespace RelationalApi
namespace Filter

variable (row : StoredRow)

theorem holdsAll_eq_all (filters : List Filter) :
    holdsAll row filters = filters.all (holds row) := by
  induction filters with
  | nil => rfl
  | cons filter filters inductionHypothesis =>
      rw [holdsAll, List.all_cons, inductionHypothesis]

theorem holdsAny_eq_any (filters : List Filter) :
    holdsAny row filters = filters.any (holds row) := by
  induction filters with
  | nil => rfl
  | cons filter filters inductionHypothesis =>
      rw [holdsAny, List.any_cons, inductionHypothesis]

@[simp] theorem accepts_none : accepts none row = true := rfl

@[simp] theorem accepts_some (filter : Filter) : accepts (some filter) row = filter.holds row := rfl

/-- The conjunction of filters holds on a row when all of them do. -/
theorem accepts_all (filters : List Filter) :
    accepts (all filters) row = filters.all (holds row) := by
  rcases filters with _ | ⟨first, _ | ⟨second, others⟩⟩
  · rfl
  · simp
  · change accepts (some (.and (first :: second :: others))) row = _
    rw [accepts_some, holds, holdsAll_eq_all]

/-- The disjunction of filters holds on a row when there are none or some of them does. -/
theorem accepts_any (filters : List Filter) :
    accepts (any filters) row = (filters.isEmpty || filters.any (holds row)) := by
  rcases filters with _ | ⟨first, _ | ⟨second, others⟩⟩
  · rfl
  · simp
  · change accepts (some (.or (first :: second :: others))) row = _
    rw [accepts_some, holds, holdsAny_eq_any]
    rfl

/-- All filters among optional ones hold on a row when the row is accepted by all of them. -/
theorem all_filterMap (branches : List (Option Filter)) :
    (branches.filterMap id).all (holds row) =
      branches.all fun branch => accepts branch row := by
  induction branches with
  | nil => rfl
  | cons branch branches inductionHypothesis =>
      rw [List.all_cons, ← inductionHypothesis]
      cases branch with
      | none => rfl
      | some filter => rfl

theorem all_toList (branch : Option Filter) :
    branch.toList.all (holds row) = accepts branch row := by
  cases branch <;> simp

end Filter

/-!
## Narrower filters

A filter that accepts no more rows than another one lets statements touch no more rows: a delete
keeps every row that the other delete keeps, and an update leaves every row alone that the other
update does not match.
-/

open Outcome

namespace Filter

/-- The second filter accepts no row that the first one does not accept. -/
def NarrowsTo (filter narrowed : Option Filter) : Prop :=
  ∀ row, accepts narrowed row = true -> accepts filter row = true

/-- The rows that a narrower filter accepts are among those that the filter accepts. -/
theorem NarrowsTo.filter_sublist
    {filter narrowed : Option Filter}
    (narrow : NarrowsTo filter narrowed)
    (rows : List StoredRow) :
    (rows.filter (accepts narrowed)).Sublist (rows.filter (accepts filter)) :=
  List.monotone_filter_right rows narrow

end Filter

namespace Store

variable {schema : Schema} {store changed other : Store} {filter narrowed : Option Filter}
variable {result fewer : MutationResult}

@[simp] theorem answer_affected (returning : Option (List String)) (affected : List StoredRow) :
    (answer returning affected).affected = affected.length := by
  cases returning <;> rfl

/-- Every row that a delete keeps is kept by the delete with a narrower filter, which tells no
greater number. -/
theorem delete_narrow
    {statement : DeleteStatement}
    (narrow : Filter.NarrowsTo filter narrowed)
    (deleted : store.delete schema { statement with filter := filter } = .ok (result, changed)) :
    ∃ fewer other,
      store.delete schema { statement with filter := narrowed } = .ok (fewer, other) ∧
        fewer.affected ≤ result.affected ∧
        ∀ name, (changed.rows name).Sublist (other.rows name) := by
  obtain ⟨table, found, rfl, rfl⟩ := delete_eq_ok.1 deleted
  refine ⟨_, _, delete_eq_ok.2 ⟨table, found, rfl, rfl⟩, ?_, fun name => ?_⟩
  · rw [answer_affected, answer_affected]
    exact (narrow.filter_sublist _).length_le
  · by_cases named : name = table.name
    · subst named
      rw [rows_setRows, rows_setRows]
      apply List.monotone_filter_right
      intro row isKept
      rw [Bool.not_eq_true'] at isKept ⊢
      rw [Bool.eq_false_iff] at isKept ⊢
      exact fun accepted => isKept (narrow row accepted)
    · rw [rows_setRows_of_ne _ _ named, rows_setRows_of_ne _ _ named]

theorem affectedRows_length (statement : UpdateStatement) (rows : List StoredRow) :
    (affectedRows statement rows).length =
      (rows.filter (Filter.accepts statement.filter)).length := by
  rw [affectedRows, updateMatched_eq_map, List.filter_map, List.length_map, List.length_map]
  rfl

/-- The rows that an update with a narrower filter changes are matched by the update, which tells
no smaller number. -/
theorem update_narrow
    {statement : UpdateStatement}
    (narrow : Filter.NarrowsTo filter narrowed)
    (updated : store.update schema { statement with filter := narrowed } = .ok (fewer, other)) :
    (∀ result changed,
      store.update schema { statement with filter := filter } = .ok (result, changed) ->
        fewer.affected ≤ result.affected) ∧
      ∀ name, List.Forall₂ (fun row after => Filter.accepts filter row = false -> after = row)
        (store.rows name) (other.rows name) := by
  obtain ⟨table, found, _, _, _, rfl, rfl⟩ := update_eq_ok.1 updated
  refine ⟨fun result changed wider => ?_, fun name => ?_⟩
  · obtain ⟨sameTable, sameFound, _, _, _, rfl, _⟩ := update_eq_ok.1 wider
    cases found.symm.trans sameFound
    rw [answer_affected, answer_affected, affectedRows_length, affectedRows_length]
    exact (narrow.filter_sublist _).length_le
  · by_cases named : name = table.name
    · subst named
      rw [rows_setRows, updateMatched_eq_map, List.map_map, List.forall₂_map_right_iff,
        List.forall₂_same]
      intro row _ notMatched
      have notAccepted : ¬Filter.accepts narrowed row = true := by
        intro accepted
        rw [narrow row accepted] at notMatched
        cases notMatched
      rw [Function.comp_apply, updatedRow, if_neg notAccepted]
    · rw [rows_setRows_of_ne _ _ named, List.forall₂_same]
      exact fun _ _ _ => rfl

/-- The second filter accepts no more rows than the first one, and statements with it touch no more
rows. -/
structure TouchesLess (filter narrowed : Option Filter) : Prop where
  accepts : Filter.NarrowsTo filter narrowed
  deletes : ∀ (schema : Schema) (store : Store) (statement : DeleteStatement) (result changed),
    store.delete schema { statement with filter := filter } = .ok (result, changed) ->
      ∃ fewer other,
        store.delete schema { statement with filter := narrowed } = .ok (fewer, other) ∧
          fewer.affected ≤ result.affected ∧
          ∀ name, (changed.rows name).Sublist (other.rows name)
  updates : ∀ (schema : Schema) (store : Store) (statement : UpdateStatement) (fewer other),
    store.update schema { statement with filter := narrowed } = .ok (fewer, other) ->
      (∀ result changed,
        store.update schema { statement with filter := filter } = .ok (result, changed) ->
          fewer.affected ≤ result.affected) ∧
        ∀ name, List.Forall₂ (fun row after => Filter.accepts filter row = false -> after = row)
          (store.rows name) (other.rows name)

theorem touchesLess (narrow : Filter.NarrowsTo filter narrowed) : TouchesLess filter narrowed :=
  ⟨narrow, fun _ _ _ _ _ => delete_narrow narrow, fun _ _ _ _ _ => update_narrow narrow⟩

end Store
end RelationalApi
