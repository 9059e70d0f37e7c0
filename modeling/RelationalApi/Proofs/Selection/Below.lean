import RelationalApi.Selection.Field

/-!
# Fields below fields

A selection is a list of fields with selections of their own, so what holds of a selection whenever
it holds of the selections of its fields holds of all selections.  Fields of one name select parts
of the same rows, so what is selected at a path of names is selected below any of the fields of each
name.
-/

namespace RelationalApi
namespace Selection

/-- Induction over a selection and all selections below its fields. -/
theorem below_induction
    {motive : Selection -> Prop}
    (step : ∀ selection, (∀ field ∈ selection, motive field.selection) -> motive selection)
    (selection : Selection) :
    motive selection :=
  step selection fun field member =>
    have isBelow : sizeOf field.selection < sizeOf field := by
      cases field
      simp only [SelectedField.mk.sizeOf_spec]
      omega
    have isShorter := List.sizeOf_lt_of_mem member
    below_induction step field.selection
termination_by sizeOf selection

/-- The fields that are selected below the fields of a name. -/
def fieldsBelow (name : String) (selection : Selection) : Selection :=
  (selection.filter fun field => field.name == name).flatMap (·.selection)

/-- The fields that are selected at a path of names. -/
def selectedAt : List String -> Selection -> Selection
  | [], selection => selection
  | name :: path, selection => selectedAt path (fieldsBelow name selection)

/-- Fields of one name that are selected at one path with equal arguments have related arguments. -/
def RelatesArguments (related : JsonEntries -> JsonEntries -> Prop) (selection : Selection) :
    Prop :=
  ∀ path, ∀ field ∈ selectedAt path selection, ∀ other ∈ selectedAt path selection,
    field.name = other.name ->
      (Json.object field.arguments == Json.object other.arguments) = true ->
        related field.arguments other.arguments

theorem mem_fieldsBelow {name : String} {selection : Selection} {inner : SelectedField} :
    inner ∈ fieldsBelow name selection ↔
      ∃ field ∈ selection, field.name = name ∧ inner ∈ field.selection := by
  rw [fieldsBelow, List.mem_flatMap]
  simp only [List.mem_filter, beq_iff_eq, and_assoc]

/-- What is selected at a path is selected there by one of the fields. -/
theorem mem_selectedAt {path : List String} {selection : Selection} {inner : SelectedField} :
    inner ∈ selectedAt path selection ↔ ∃ field ∈ selection, inner ∈ selectedAt path [field] := by
  induction path generalizing selection with
  | nil => simp [selectedAt]
  | cons name path inductionHypothesis =>
      rw [selectedAt, inductionHypothesis]
      constructor
      · rintro ⟨below, isBelow, member⟩
        obtain ⟨field, isField, isNamed, isBelow⟩ := mem_fieldsBelow.1 isBelow
        refine ⟨field, isField, inductionHypothesis.2 ⟨below, ?_, member⟩⟩
        exact mem_fieldsBelow.2 ⟨field, List.mem_singleton_self field, isNamed, isBelow⟩
      · rintro ⟨field, isField, member⟩
        obtain ⟨below, isBelow, member⟩ := inductionHypothesis.1 member
        obtain ⟨_, isOnly, isNamed, isBelow⟩ := mem_fieldsBelow.1 isBelow
        rw [List.mem_singleton.1 isOnly] at isNamed isBelow
        exact ⟨below, mem_fieldsBelow.2 ⟨field, isField, isNamed, isBelow⟩, member⟩

theorem mem_selectedAt_cons
    {name : String}
    {path : List String}
    {selection : Selection}
    {inner : SelectedField} :
    inner ∈ selectedAt (name :: path) selection ↔
      ∃ field ∈ selection, field.name = name ∧ inner ∈ selectedAt path field.selection := by
  rw [selectedAt, mem_selectedAt]
  constructor
  · rintro ⟨below, isBelow, member⟩
    obtain ⟨field, isField, isNamed, isBelow⟩ := mem_fieldsBelow.1 isBelow
    exact ⟨field, isField, isNamed, mem_selectedAt.2 ⟨below, isBelow, member⟩⟩
  · rintro ⟨field, isField, isNamed, member⟩
    obtain ⟨below, isBelow, member⟩ := mem_selectedAt.1 member
    exact ⟨below, mem_fieldsBelow.2 ⟨field, isField, isNamed, isBelow⟩, member⟩

theorem RelatesArguments.below
    {related : JsonEntries -> JsonEntries -> Prop}
    {selection : Selection}
    (relates : selection.RelatesArguments related)
    (name : String) :
    (fieldsBelow name selection).RelatesArguments related :=
  fun path => relates (name :: path)

theorem relatesArguments_iff
    {related : JsonEntries -> JsonEntries -> Prop}
    {selection : Selection} :
    selection.RelatesArguments related ↔
      (∀ field ∈ selection, ∀ other ∈ selection, field.name = other.name ->
        (Json.object field.arguments == Json.object other.arguments) = true ->
          related field.arguments other.arguments) ∧
      ∀ name, (fieldsBelow name selection).RelatesArguments related := by
  constructor
  · intro relates
    exact ⟨relates [], relates.below⟩
  · rintro ⟨here, below⟩ path
    cases path with
    | nil => exact here
    | cons name path => exact below name path

theorem selectedAt_nil (path : List String) : selectedAt path [] = [] := by
  induction path with
  | nil => rfl
  | cons name path inductionHypothesis => exact inductionHypothesis

/-- Fields without arguments relate them, where nothing is selected below them. -/
theorem relatesArguments_leaves
    {related : JsonEntries -> JsonEntries -> Prop}
    {selection : Selection}
    [Std.Refl related]
    (leaves : ∀ field ∈ selection, field.arguments = [] ∧ field.selection = []) :
    selection.RelatesArguments related := by
  rw [relatesArguments_iff]
  refine ⟨?_, fun name path field member => ?_⟩
  · intro field member other otherMember _ _
    rw [(leaves field member).1, (leaves other otherMember).1]
    exact Std.Refl.refl _
  · have nothing : fieldsBelow name selection = [] :=
      List.flatMap_eq_nil_iff.2 fun field member => (leaves field (List.mem_filter.1 member).1).2
    rw [nothing, selectedAt_nil] at member
    cases member

end Selection
end RelationalApi
