import RelationalApi.Arguments.Where
import RelationalApi.Proofs.Outcome
import RelationalApi.Proofs.Storage.Filters
import RelationalApi.Storage.Executor

/-!
# Filters and requests that are alike

Filters that are put together from parts in another order, or from parts that accept the same rows,
accept the same rows.  Whether there is a filter at all counts too, because a disjunction with a
branch without filter holds on every row and a negation needs a condition.

Filters take part in a request only through the rows that they accept.  So queries and mutations
that differ in nothing but filters that accept the same rows return the same and leave the same.
-/

namespace RelationalApi

open Outcome

/-! ## Filters -/

namespace Filter

/-- Two filters, each of which may be absent, are absent together and accept the same rows. -/
structure Alike (filter other : Option Filter) : Prop where
  isSome_eq : filter.isSome = other.isSome
  accepts_eq : ∀ row, accepts filter row = accepts other row

/-- Two lists of conditions are empty together and hold together on the same rows. -/
structure ConditionsAlike (filters others : List Filter) : Prop where
  isEmpty_eq : filters.isEmpty = others.isEmpty
  all_eq : ∀ row, filters.all (holds row) = others.all (holds row)

theorem Alike.refl (filter : Option Filter) : Alike filter filter := ⟨rfl, fun _ => rfl⟩

theorem ConditionsAlike.refl (filters : List Filter) : ConditionsAlike filters filters :=
  ⟨rfl, fun _ => rfl⟩

theorem isSome_all (filters : List Filter) : (all filters).isSome = !filters.isEmpty := by
  rcases filters with _ | ⟨first, _ | ⟨second, others⟩⟩ <;> rfl

theorem isSome_any (filters : List Filter) : (any filters).isSome = !filters.isEmpty := by
  rcases filters with _ | ⟨first, _ | ⟨second, others⟩⟩ <;> rfl

theorem ConditionsAlike.all
    {filters others : List Filter}
    (alike : ConditionsAlike filters others) :
    Alike (all filters) (all others) := by
  refine ⟨?_, fun row => ?_⟩
  · rw [isSome_all, isSome_all, alike.isEmpty_eq]
  · rw [accepts_all, accepts_all, alike.all_eq]

theorem Alike.toList {filter other : Option Filter} (alike : Alike filter other) :
    ConditionsAlike filter.toList other.toList := by
  refine ⟨?_, fun row => ?_⟩
  · have same := alike.isSome_eq
    cases filter <;> cases other <;> simp_all
  · rw [all_toList, all_toList, alike.accepts_eq]

theorem ConditionsAlike.append
    {filters others later otherLater : List Filter}
    (alike : ConditionsAlike filters others)
    (laterAlike : ConditionsAlike later otherLater) :
    ConditionsAlike (filters ++ later) (others ++ otherLater) := by
  refine ⟨?_, fun row => ?_⟩
  · have first := alike.isEmpty_eq
    have second := laterAlike.isEmpty_eq
    cases filters <;> cases others <;> simp_all
  · rw [List.all_append, List.all_append, alike.all_eq, laterAlike.all_eq]

section Branches

variable {branches others : List (Option Filter)}

/-- The filters among optional ones, taken together. -/
theorem conditionsAlike_filterMap (alike : List.Forall₂ Alike branches others) :
    ConditionsAlike (branches.filterMap id) (others.filterMap id) := by
  induction alike with
  | nil => exact .refl _
  | @cons branch other branches others first _ inductionHypothesis =>
      have appended := first.toList.append inductionHypothesis
      cases branch <;> cases other <;> exact appended

theorem any_filterMap_alike
    (alike : List.Forall₂ Alike branches others)
    (row : StoredRow) :
    (branches.filterMap id).any (holds row) = (others.filterMap id).any (holds row) := by
  induction alike with
  | nil => rfl
  | @cons branch other branches others first _ inductionHypothesis =>
      obtain ⟨sameSome, accepts⟩ := first
      cases branch with
      | none =>
          cases other with
          | none => exact inductionHypothesis
          | some filter => cases sameSome
      | some filter =>
          cases other with
          | none => cases sameSome
          | some filterOther =>
              have sameHolds : filter.holds row = filterOther.holds row := accepts row
              exact congrArg₂ Bool.or sameHolds inductionHypothesis

/-- The disjunction of branches that are alike. -/
theorem alike_disjunction (alike : List.Forall₂ Alike branches others) :
    Alike (disjunction branches) (disjunction others) := by
  have sameNone : branches.any Option.isNone = others.any Option.isNone := by
    induction alike with
    | nil => rfl
    | @cons branch other _ _ first _ inductionHypothesis =>
        have same := first.isSome_eq
        rw [List.any_cons, List.any_cons, inductionHypothesis]
        cases branch <;> cases other <;> simp_all
  have conditions := conditionsAlike_filterMap alike
  rw [disjunction, disjunction, sameNone]
  split
  · exact .refl none
  · refine ⟨?_, fun row => ?_⟩
    · rw [isSome_any, isSome_any, conditions.isEmpty_eq]
    · rw [accepts_any, accepts_any, conditions.isEmpty_eq, any_filterMap_alike alike]

/-- A combinator makes conditions that are alike of branches that are. -/
theorem combine_agree
    (combinator : Combinator)
    (path : String)
    (alike : List.Forall₂ Alike branches others) :
    Agree ConditionsAlike (combinator.combine path branches) (combinator.combine path others) := by
  cases combinator with
  | and => exact .ok (conditionsAlike_filterMap alike)
  | or => exact .ok (alike_disjunction alike).toList
  | not =>
      have inner := (conditionsAlike_filterMap alike).all
      rw [Combinator.combine, Combinator.combine]
      generalize all (branches.filterMap id) = filter at inner ⊢
      generalize all (others.filterMap id) = other at inner ⊢
      have sameSome := inner.isSome_eq
      cases filter with
      | none =>
          cases other with
          | none => exact .error
          | some other => cases sameSome
      | some filter =>
          cases other with
          | none => cases sameSome
          | some other =>
              refine .ok ⟨rfl, fun row => ?_⟩
              have sameHolds : filter.holds row = other.holds row := inner.accepts_eq row
              simp only [List.all_cons, holds, sameHolds]

end Branches

end Filter

/-! ## Requests -/

mutual

/-- Two queries differ at most in filters that accept the same rows. -/
inductive SelectQuery.Alike : SelectQuery -> SelectQuery -> Prop
  | query
      (table : String)
      (columns : List String)
      (orderBy : List SortKey)
      (offset limit : Option Nat)
      {filter other : Option Filter}
      {includes others : List (String × SelectQuery)}
      (filters : Filter.Alike filter other)
      (pairs : List.Forall₂ IncludeAlike includes others) :
      SelectQuery.Alike ⟨table, columns, filter, orderBy, offset, limit, includes⟩
        ⟨table, columns, other, orderBy, offset, limit, others⟩

/-- Two included relations of one name have queries that are alike. -/
inductive IncludeAlike : String × SelectQuery -> String × SelectQuery -> Prop
  | entry (name : String) {query other : SelectQuery} (queries : SelectQuery.Alike query other) :
      IncludeAlike (name, query) (name, other)

end

/-- Two mutations differ at most in filters that accept the same rows. -/
inductive Mutation.Alike : Mutation -> Mutation -> Prop
  | insert (statement : InsertStatement) : Mutation.Alike (.insert statement) (.insert statement)
  | update
      (table : String)
      (assignments : List FieldValue)
      (returning : Option (List String))
      {filter other : Option Filter}
      (filters : Filter.Alike filter other) :
      Mutation.Alike (.update ⟨table, assignments, filter, returning⟩)
        (.update ⟨table, assignments, other, returning⟩)
  | delete
      (table : String)
      (returning : Option (List String))
      {filter other : Option Filter}
      (filters : Filter.Alike filter other) :
      Mutation.Alike (.delete ⟨table, filter, returning⟩) (.delete ⟨table, other, returning⟩)

namespace Store

variable {schema : Schema} {store : Store}

theorem accepts_eq
    {filter other : Option Filter}
    (alike : Filter.Alike filter other) :
    Filter.accepts filter = Filter.accepts other :=
  funext alike.accepts_eq

-- The recursion follows the query, as selecting does.
mutual

/-- Queries that are alike return the same rows of the same candidates. -/
theorem selectFrom_alike :
    (query : SelectQuery) -> ∀ {other : SelectQuery}, query.Alike other -> ∀ candidates,
      selectFrom schema store query candidates = selectFrom schema store other candidates
  | ⟨table, columns, filter, orderBy, offset, limit, includes⟩, other, alike, candidates => by
      cases alike with
      | query _ _ _ _ _ filters pairs =>
          rw [selectFrom, selectFrom]
          simp only [selected, accepts_eq filters]
          refine bind_congr fun found => bind_congr fun _ => congrArg (List.mapM · _) ?_
          funext row
          rw [followIncludes_alike includes pairs]

theorem followIncludes_alike :
    (includes : List (String × SelectQuery)) -> ∀ {others : List (String × SelectQuery)},
      List.Forall₂ IncludeAlike includes others -> ∀ table row,
        followIncludes schema store table row includes =
          followIncludes schema store table row others
  | [], others, pairs, table, row => by
      cases pairs
      rfl
  | (name, query) :: includes, others, pairs, table, row => by
      cases pairs with
      | cons first later =>
          cases first with
          | entry _ queries =>
              rw [followIncludes, followIncludes, followIncludes_alike includes later]
              refine bind_congr fun (relation, fromColumn, toColumn) => ?_
              dsimp only
              rw [selectFrom_alike query queries]

end

/-- Queries that are alike return the same. -/
theorem select_alike {query other : SelectQuery} (alike : query.Alike other) :
    select schema query store = select schema other store := by
  have sameTable : query.table = other.table := by
    cases alike
    rfl
  rw [select, select, sameTable]
  exact selectFrom_alike query alike _

/-- Mutations that are alike answer the same and leave the same rows. -/
theorem mutate_alike
    {mutation other : Mutation}
    (alike : mutation.Alike other)
    (now : Timestamp) :
    mutate schema now mutation store = mutate schema now other store := by
  cases alike with
  | insert statement => rfl
  | update table assignments returning filters =>
      simp only [mutate, update, updateMatched, accepts_eq filters]
  | delete table returning filters => simp only [mutate, delete, accepts_eq filters]

end Store
end RelationalApi
