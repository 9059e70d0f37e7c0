import RelationalApi.Proofs.Storage.Filters
import RelationalApi.Proofs.Storage.Statements

/-!
# What selects return

A select that succeeds returns a row for each stored row that it selects, in its order, with the
rows of every included relation.  Without an order rows keep their stored order, and without a page
all of them are returned.
-/

namespace RelationalApi

open Outcome

namespace Store

variable {schema : Schema} {store : Store} {table name : String} {stored : StoredRow}
variable {candidates : List StoredRow} {query : SelectQuery}

/-- The row that a query returns for a stored row. -/
def Returns (schema : Schema) (store : Store) (query : SelectQuery) (stored : StoredRow)
    (row : Row) : Prop :=
  row.fields = project query.columns stored ∧
    followIncludes schema store query.table stored query.includes = .ok row.relations

theorem selectFrom_eq_ok {rows : List Row} :
    selectFrom schema store query candidates = .ok rows ↔
      (∃ found, schema.table? query.table = some found ∧
        checkColumns found query.columns = .ok ()) ∧
      List.Forall₂ (Returns schema store query) (selected query candidates) rows := by
  have eachRow : ∀ stored row, (do
        let relations ← followIncludes schema store query.table stored query.includes
        return ⟨project query.columns stored, relations⟩ : Except ExecutionError Row) = .ok row ↔
      Returns schema store query stored row := by
    intro stored row
    simp only [bind_eq_ok, pure_eq_ok, Returns]
    constructor
    · rintro ⟨relations, followed, rfl⟩
      exact ⟨rfl, followed⟩
    · rintro ⟨fields, followed⟩
      refine ⟨row.relations, followed, ?_⟩
      cases row
      rw [← fields]
  obtain ⟨tableName, columns, filter, orderBy, offset, limit, includes⟩ := query
  rw [selectFrom]
  simp only [bind_eq_ok, target_eq_ok, mapM_eq_ok] at eachRow ⊢
  simp only [eachRow]
  constructor
  · rintro ⟨found, isTable, _, known, returned⟩
    exact ⟨⟨found, isTable, known⟩, returned⟩
  · rintro ⟨⟨found, isTable, known⟩, returned⟩
    exact ⟨found, isTable, (), known, returned⟩

theorem join_eq_ok {relation : Relation} {fromColumn toColumn : String} :
    join schema table name = .ok (relation, fromColumn, toColumn) ↔
      schema.relation? table name = some relation ∧
        relation.joinColumns? = some (fromColumn, toColumn) := by
  rw [join]
  constructor
  · intro joined
    split at joined
    · cases joined
    · rename_i found isFound
      split at joined
      · rename_i joinsFrom joinsTo isJoined
        cases joined
        exact ⟨isFound, isJoined⟩
      · cases joined
  · rintro ⟨isFound, isJoined⟩
    rw [isFound]
    dsimp only
    rw [isJoined]

/-- Rows in the order of no keys are in their stored order. -/
theorem sortRows_nil (rows : List StoredRow) : sortRows [] rows = rows := by
  have reversed : ∀ sorted : List StoredRow,
      rows.foldl (fun sorted row => insertDescending [] row sorted) sorted =
        rows.reverse ++ sorted := by
    induction rows with
    | nil => simp
    | cons row rows inductionHypothesis =>
        intro sorted
        have inFront : insertDescending [] row sorted = row :: sorted := by
          cases sorted with
          | nil => rfl
          | cons last others =>
              rw [insertDescending, compareRows, if_neg]
              decide
        rw [List.foldl_cons, inFront, inductionHypothesis, List.reverse_cons]
        simp
  rw [sortRows, reversed, List.append_nil, List.reverse_reverse]

/-- A query without order and page selects all rows that its filter holds on. -/
theorem selected_eq_filter
    (unordered : query.orderBy = [])
    (offset : query.offset = none)
    (limit : query.limit = none)
    (candidates : List StoredRow) :
    selected query candidates = candidates.filter (Filter.accepts query.filter) := by
  rw [selected, unordered, offset, limit, sortRows_nil, page]
  rfl

/-! Rows are sorted together with their positions, which tell apart rows that are alike. -/

section Placed

variable {keys : List SortKey} {inFront : StoredRow × Nat -> StoredRow × Nat -> Prop}
variable {all : List (StoredRow × Nat)}
variable (trans : ∀ first ∈ all, ∀ second ∈ all, ∀ third ∈ all,
  inFront first second -> inFront second third -> inFront first third)
variable (decides : ∀ earlier ∈ all, ∀ later ∈ all, earlier.2 < later.2 ->
  if compareRows later.1 earlier.1 keys = .lt then inFront later earlier
  else inFront earlier later)
include trans decides

/-- A row that stood behind all others is put among them. -/
theorem exists_placed_insertDescending
    {row : StoredRow × Nat}
    {placed : List (StoredRow × Nat)}
    (isRow : row ∈ all)
    (arePlaced : ∀ other ∈ placed, other ∈ all ∧ other.2 < row.2)
    (ordered : placed.Pairwise fun first second => inFront second first) :
    ∃ extended : List (StoredRow × Nat), extended.Perm (row :: placed) ∧
      extended.map (·.1) = insertDescending keys row.1 (placed.map (·.1)) ∧
      extended.Pairwise fun first second => inFront second first := by
  induction placed with
  | nil => exact ⟨[row], .refl _, rfl, List.pairwise_singleton _ _⟩
  | cons last others inductionHypothesis =>
      rw [List.forall_mem_cons] at arePlaced
      obtain ⟨⟨isLast, lastEarlier⟩, areOthers⟩ := arePlaced
      rw [List.pairwise_cons] at ordered
      have decided := decides last isLast row isRow lastEarlier
      rw [List.map_cons, insertDescending]
      by_cases isBefore : compareRows row.1 last.1 keys = .lt
      · rw [if_pos isBefore] at decided
        obtain ⟨extended, permuted, inserted, orderedOthers⟩ :=
          inductionHypothesis areOthers ordered.2
        refine ⟨last :: extended, (permuted.cons last).trans (.swap row last others), ?_,
          List.pairwise_cons.2 ⟨fun other member => ?_, orderedOthers⟩⟩
        · rw [if_pos (beq_iff_eq.2 isBefore), List.map_cons, inserted]
        · rcases List.mem_cons.1 (permuted.mem_iff.1 member) with rfl | isOther
          · exact decided
          · exact ordered.1 other isOther
      · rw [if_neg isBefore] at decided
        refine ⟨row :: last :: others, .refl _, ?_, List.pairwise_cons.2
          ⟨List.forall_mem_cons.2 ⟨decided, fun other isOther => ?_⟩,
            List.pairwise_cons.2 ordered⟩⟩
        · rw [if_neg (fun isLess => isBefore (beq_iff_eq.1 isLess))]
          rfl
        · exact trans _ (areOthers other isOther).1 _ isLast _ isRow (ordered.1 other isOther)
            decided

/-- Rows are put into an order by which keys decide between each two of them. -/
theorem exists_placed_sortRows {rows : List StoredRow} (areAll : rows.zipIdx = all) :
    ∃ placed : List (StoredRow × Nat), placed.Perm all ∧
      placed.map (·.1) = sortRows keys rows ∧ placed.Pairwise inFront := by
  -- The rows that are still to be inserted stood behind all inserted ones.
  have inserted : ∀ (pending : List StoredRow) (position : Nat) (placed : List (StoredRow × Nat)),
      (∀ row ∈ placed ++ pending.zipIdx position, row ∈ all) ->
      (∀ row ∈ placed, row.2 < position) ->
      (placed.Pairwise fun first second => inFront second first) ->
        ∃ final : List (StoredRow × Nat), final.Perm (placed ++ pending.zipIdx position) ∧
          final.map (·.1) = pending.foldl (fun sorted row => insertDescending keys row sorted)
            (placed.map (·.1)) ∧
          final.Pairwise fun first second => inFront second first := by
    intro pending
    induction pending with
    | nil => exact fun _ placed _ _ ordered => ⟨placed, by simp, rfl, ordered⟩
    | cons row pending inductionHypothesis =>
        intro position placed members earlier ordered
        rw [List.zipIdx_cons, List.forall_mem_append, List.forall_mem_cons] at members
        obtain ⟨arePlaced, isRow, arePending⟩ := members
        obtain ⟨extended, permuted, isInserted, orderedAgain⟩ :=
          exists_placed_insertDescending trans decides isRow
            (fun other member => ⟨arePlaced other member, earlier other member⟩) ordered
        have extendedMembers : ∀ other ∈ extended ++ pending.zipIdx (position + 1),
            other ∈ all := by
          refine List.forall_mem_append.2 ⟨fun other member => ?_, arePending⟩
          rcases List.mem_cons.1 (permuted.mem_iff.1 member) with rfl | isPlaced
          · exact isRow
          · exact arePlaced other isPlaced
        have extendedEarlier : ∀ other ∈ extended, other.2 < position + 1 := by
          intro other member
          rcases List.mem_cons.1 (permuted.mem_iff.1 member) with rfl | isPlaced
          · exact Nat.lt_succ_self _
          · exact Nat.lt_succ_of_lt (earlier other isPlaced)
        obtain ⟨final, permutedAll, areInserted, orderedAll⟩ :=
          inductionHypothesis (position + 1) extended extendedMembers extendedEarlier orderedAgain
        refine ⟨final, ?_, ?_, orderedAll⟩
        · rw [List.zipIdx_cons]
          refine permutedAll.trans ((permuted.append_right _).trans ?_)
          exact List.perm_middle.symm
        · rw [areInserted, isInserted]
          rfl
  obtain ⟨final, permuted, areInserted, ordered⟩ :=
    inserted rows 0 [] (by simp [areAll]) (by simp) .nil
  refine ⟨final.reverse, ?_, ?_, List.pairwise_reverse.2 ordered⟩
  · rw [← areAll]
    exact (List.reverse_perm _).trans permuted
  · rw [List.map_reverse, areInserted]
    rfl

end Placed

/-- Ordering rows neither drops nor adds any. -/
theorem sortRows_perm (keys : List SortKey) (rows : List StoredRow) :
    (sortRows keys rows).Perm rows := by
  obtain ⟨placed, permuted, sorted, _⟩ := @exists_placed_sortRows keys (fun _ _ => True) _
    (by simp) (by simp) rows rfl
  rw [← sorted]
  simpa using permuted.map (·.1)

/-- Rows among which keys decide as an order does are put into this order. -/
theorem sortRows_pairwise
    {keys : List SortKey}
    {precedes : StoredRow -> StoredRow -> Prop}
    (total : ∀ first second, precedes first second ∨ precedes second first)
    (trans : ∀ first second third,
      precedes first second -> precedes second third -> precedes first third)
    {rows : List StoredRow}
    (decides : ∀ first ∈ rows, ∀ second ∈ rows,
      compareRows first second keys = .lt ↔ ¬precedes second first) :
    (sortRows keys rows).Pairwise precedes := by
  have decided : ∀ earlier ∈ rows.zipIdx, ∀ later ∈ rows.zipIdx, earlier.2 < later.2 ->
      if compareRows later.1 earlier.1 keys = .lt then precedes later.1 earlier.1
      else precedes earlier.1 later.1 := by
    intro earlier isEarlier later isLater _
    have decidesPair := decides later.1 (List.fst_mem_of_mem_zipIdx isLater) earlier.1
      (List.fst_mem_of_mem_zipIdx isEarlier)
    split
    · rename_i isBefore
      exact (total _ _).resolve_right (decidesPair.1 isBefore)
    · rename_i notBefore
      rwa [decidesPair, Classical.not_not] at notBefore
  obtain ⟨placed, _, sorted, ordered⟩ := @exists_placed_sortRows keys
    (fun first second => precedes first.1 second.1) _ (fun _ _ _ _ _ _ => trans _ _ _) decided
    rows rfl
  rw [← sorted]
  exact List.pairwise_map.2 ordered

theorem mem_of_mem_page
    {offset limit : Option Nat}
    {rows : List StoredRow}
    (member : stored ∈ page offset limit rows) :
    stored ∈ rows := by
  cases limit with
  | none => exact List.mem_of_mem_drop member
  | some limit => exact List.mem_of_mem_drop (List.mem_of_mem_take member)

/-- The selected rows are candidates. -/
theorem mem_of_mem_selected (member : stored ∈ selected query candidates) :
    stored ∈ candidates := by
  rw [selected] at member
  exact List.mem_of_mem_filter ((sortRows_perm _ _).mem_iff.1 (mem_of_mem_page member))

/-- A relation leads to stored rows of its target. -/
theorem mem_rows_of_mem_related
    {relation : Relation}
    {fromColumn toColumn : String}
    {row : StoredRow}
    (member : stored ∈ store.related relation fromColumn toColumn row) :
    stored ∈ store.rows relation.target := by
  rw [related] at member
  split at member
  · exact List.mem_of_mem_filter member
  · cases member

end Store
end RelationalApi
