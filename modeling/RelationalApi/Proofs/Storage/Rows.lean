import Mathlib.Data.List.Basic
import RelationalApi.Proofs.Storage.Equality
import RelationalApi.Storage.Store

/-!
# Fields of rows

A row answers for a column by its first field of that name.  Assignments keep the fields of a row
and their order, and two rows that carry well-formed documents agree in a column in both
directions or in neither.
-/

namespace RelationalApi

/-- The documents in all fields are well-formed. -/
def FieldsWellFormed (fields : List FieldValue) : Prop :=
  ∀ entry ∈ fields, entry.value.isWellFormed = true

instance (fields : List FieldValue) : Decidable (FieldsWellFormed fields) :=
  inferInstanceAs (Decidable (∀ entry ∈ fields, entry.value.isWellFormed = true))

@[simp] theorem fieldValue?_nil (name : String) : fieldValue? [] name = none := rfl

theorem fieldValue?_cons
    (entry : FieldValue)
    (fields : List FieldValue)
    (name : String) :
    fieldValue? (entry :: fields) name =
      if entry.field = name then some entry.value else fieldValue? fields name := by
  by_cases same : entry.field = name
  · simp [fieldValue?, same]
  · simp [fieldValue?, same, beq_eq_false_iff_ne.2 same]

/-- A value found under a name is that of a field of the name. -/
theorem mem_of_fieldValue?
    {fields : List FieldValue}
    {name : String}
    {value : Value}
    (found : fieldValue? fields name = some value) :
    ⟨name, value⟩ ∈ fields := by
  induction fields with
  | nil => simp at found
  | cons entry fields inductionHypothesis =>
      rw [fieldValue?_cons] at found
      split at found
      · rename_i same
        cases found
        subst same
        exact List.mem_cons_self
      · exact List.mem_cons_of_mem _ (inductionHypothesis found)

/-- A value is found under exactly the names of the fields. -/
theorem isSome_fieldValue?_iff (fields : List FieldValue) (name : String) :
    (fieldValue? fields name).isSome = true ↔ name ∈ fields.map (·.field) := by
  induction fields with
  | nil => simp
  | cons entry fields inductionHypothesis =>
      rw [fieldValue?_cons, List.map_cons, List.mem_cons]
      by_cases same : entry.field = name
      · simp [same]
      · rw [if_neg same, inductionHypothesis]
        simp [Ne.symm same]

/-- Where no two fields share a name, every field is found under its name. -/
theorem fieldValue?_of_mem
    {fields : List FieldValue}
    {entry : FieldValue}
    (distinct : (fields.map (·.field)).Nodup)
    (member : entry ∈ fields) :
    fieldValue? fields entry.field = some entry.value := by
  induction fields with
  | nil => simp at member
  | cons first fields inductionHypothesis =>
      rw [List.map_cons, List.nodup_cons] at distinct
      rw [fieldValue?_cons]
      rcases List.mem_cons.1 member with rfl | later
      · rw [if_pos rfl]
      · have different : first.field ≠ entry.field := by
          intro same
          exact distinct.1 (same ▸ List.mem_map_of_mem later)
        rw [if_neg different]
        exact inductionHypothesis distinct.2 later

theorem present?_eq_some
    {row : StoredRow}
    {field : String}
    {value : Value} :
    present? row field = some value ↔
      fieldValue? row field = some value ∧ value.isNull = false := by
  rw [present?]
  cases found : fieldValue? row field with
  | none => simp
  | some stored =>
      cases null : stored.isNull <;> simp only [Option.some.injEq] <;> grind

theorem present?_ne_none_iff (row : StoredRow) (field : String) :
    present? row field ≠ none ↔
      ∃ value, fieldValue? row field = some value ∧ value.isNull = false := by
  rw [Option.ne_none_iff_exists']
  exact exists_congr fun _ => present?_eq_some

namespace Store

/-- A projected row has null where the stored row has no value. -/
theorem fieldValue?_project
    {columns : List String}
    {column : String}
    (row : StoredRow)
    (member : column ∈ columns) :
    fieldValue? (project columns row) column = some ((fieldValue? row column).getD .null) := by
  rw [project]
  induction columns with
  | nil => simp at member
  | cons first columns inductionHypothesis =>
      rw [List.map_cons, fieldValue?_cons]
      split
      · rename_i same
        exact congrArg (fun name => some ((fieldValue? row name).getD .null)) same
      · rename_i different
        exact inductionHypothesis ((List.mem_cons.1 member).resolve_left (Ne.symm different))

/-- Two rows agree in a column when it holds equal values, other than null, in both. -/
theorem agree_iff (left right : StoredRow) (column : String) :
    agree left right column = true ↔
      ∃ value other, fieldValue? left column = some value ∧
        fieldValue? right column = some other ∧ value.isNull = false ∧
          value.equal other = true := by
  rw [agree]
  constructor
  · intro same
    split at same
    · rename_i value other present found
      obtain ⟨stored, notNull⟩ := present?_eq_some.1 present
      exact ⟨value, other, stored, found, notNull, same⟩
    · exact absurd same (by simp)
  · rintro ⟨value, other, stored, found, notNull, same⟩
    rw [present?_eq_some.2 ⟨stored, notNull⟩, found]
    exact same

/-- Rows with well-formed documents agree in a column in both directions or in neither. -/
theorem agree_comm
    {left right : StoredRow}
    (leftWellFormed : FieldsWellFormed left)
    (rightWellFormed : FieldsWellFormed right)
    (column : String) :
    agree left right column = agree right left column := by
  have symmetric : ∀ {left right : StoredRow}, FieldsWellFormed left -> FieldsWellFormed right ->
      agree left right column = true -> agree right left column = true := by
    intro left right leftWellFormed rightWellFormed same
    obtain ⟨value, other, stored, found, _, equal⟩ := (agree_iff _ _ _).1 same
    have reversed : other.equal value = true := by
      rw [Value.equal_comm other value (rightWellFormed _ (mem_of_fieldValue? found))
        (leftWellFormed _ (mem_of_fieldValue? stored))]
      exact equal
    have notNull : other.isNull = false := by
      cases other with
      | null => exact absurd equal (by simp [Value.equal_null_right])
      | _ => rfl
    exact (agree_iff _ _ _).2 ⟨other, value, found, stored, notNull, reversed⟩
  exact Bool.eq_iff_iff.2
    ⟨symmetric leftWellFormed rightWellFormed, symmetric rightWellFormed leftWellFormed⟩

theorem map_field_assign (row : StoredRow) (assignment : FieldValue) :
    (assign row assignment).map (·.field) = row.map (·.field) := by
  induction row with
  | nil => rfl
  | cons entry row inductionHypothesis =>
      rw [assign]
      split
      · rfl
      · rw [List.map_cons, List.map_cons, inductionHypothesis]

/-- Assignments keep the fields of a row and their order. -/
theorem map_field_foldl_assign (row : StoredRow) (assignments : List FieldValue) :
    (assignments.foldl assign row).map (·.field) = row.map (·.field) := by
  induction assignments generalizing row with
  | nil => rfl
  | cons assignment assignments inductionHypothesis =>
      rw [List.foldl_cons, inductionHypothesis, map_field_assign]

/-- A field after an assignment is one of before, or has the assigned name and value. -/
theorem mem_assign
    {row : StoredRow}
    {assignment entry : FieldValue}
    (member : entry ∈ assign row assignment) :
    entry ∈ row ∨ entry = assignment := by
  induction row with
  | nil => exact .inl member
  | cons first row inductionHypothesis =>
      rw [assign] at member
      split at member
      · rename_i same
        rcases List.mem_cons.1 member with rfl | later
        · rw [same]
          exact .inr rfl
        · exact .inl (List.mem_cons_of_mem _ later)
      · rcases List.mem_cons.1 member with rfl | later
        · exact .inl List.mem_cons_self
        · exact (inductionHypothesis later).imp (List.mem_cons_of_mem _) id

/-- The value under a name after an assignment is that of before, or was assigned to the name. -/
theorem fieldValue?_assign
    {row : StoredRow}
    {assignment : FieldValue}
    {name : String}
    {value : Value}
    (found : fieldValue? (assign row assignment) name = some value) :
    fieldValue? row name = some value ∨ assignment = ⟨name, value⟩ := by
  induction row with
  | nil => exact .inl found
  | cons first row inductionHypothesis =>
      rw [assign] at found
      rw [fieldValue?_cons]
      split at found
      · rename_i same
        rw [fieldValue?_cons] at found
        split at found
        · rename_i isNamed
          cases found
          refine .inr ?_
          rw [← isNamed, same]
        · rename_i isOther
          exact .inl (by rw [if_neg isOther]; exact found)
      · rw [fieldValue?_cons] at found
        split at found
        · rename_i isNamed
          exact .inl (by rw [if_pos isNamed]; exact found)
        · rename_i isOther
          rw [if_neg isOther]
          exact inductionHypothesis found

theorem fieldValue?_foldl_assign
    {row : StoredRow}
    {assignments : List FieldValue}
    {name : String}
    {value : Value}
    (found : fieldValue? (assignments.foldl assign row) name = some value) :
    fieldValue? row name = some value ∨ ⟨name, value⟩ ∈ assignments := by
  induction assignments generalizing row with
  | nil => exact .inl found
  | cons assignment assignments inductionHypothesis =>
      rcases inductionHypothesis found with early | later
      · rcases fieldValue?_assign early with before | rfl
        · exact .inl before
        · exact .inr List.mem_cons_self
      · exact .inr (List.mem_cons_of_mem _ later)

/-- Assignments to other names leave the value under a name as it is. -/
theorem fieldValue?_foldl_assign_of_forall_ne
    (row : StoredRow)
    {assignments : List FieldValue}
    {name : String}
    (others : ∀ assignment ∈ assignments, assignment.field ≠ name) :
    fieldValue? (assignments.foldl assign row) name = fieldValue? row name := by
  cases found : fieldValue? (assignments.foldl assign row) name with
  | some value =>
      rcases fieldValue?_foldl_assign found with before | assigned
      · exact before.symm
      · exact absurd rfl (others _ assigned)
  | none =>
      have absent := isSome_fieldValue?_iff (assignments.foldl assign row) name
      rw [map_field_foldl_assign, ← isSome_fieldValue?_iff, found] at absent
      cases before : fieldValue? row name with
      | none => rfl
      | some value => simp [before] at absent

theorem mem_foldl_assign
    {row : StoredRow}
    {assignments : List FieldValue}
    {entry : FieldValue}
    (member : entry ∈ assignments.foldl assign row) :
    entry ∈ row ∨ entry ∈ assignments := by
  induction assignments generalizing row with
  | nil => exact .inl member
  | cons assignment assignments inductionHypothesis =>
      rcases inductionHypothesis member with early | later
      · rcases mem_assign early with before | rfl
        · exact .inl before
        · exact .inr List.mem_cons_self
      · exact .inr (List.mem_cons_of_mem _ later)

end Store
end RelationalApi
