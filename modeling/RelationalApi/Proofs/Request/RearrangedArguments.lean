import RelationalApi.Proofs.Arguments.Rearrangement
import RelationalApi.Request.Compilation

/-!
# Reading rearranged arguments

The arguments of operations and relations are looked up by name, and input objects are read in the
order of the columns.  So both are read alike however their keys are ordered, as long as documents
that are stored as they are given are kept.
-/

namespace RelationalApi

open Outcome

section Arguments

variable {arguments others : JsonEntries}

/-- Arguments are given with the same names, and rearranged. -/
theorem given?_rearranged
    (rearranged : Json.Rearranged (.object arguments) (.object others))
    (name : String) :
    Option.Rel Json.Rearranged (given? arguments name) (given? others name) := by
  have found := rearranged.lookup name
  rw [given?.eq_def, given?.eq_def]
  generalize List.lookup name arguments = document at found ⊢
  generalize List.lookup name others = other at found ⊢
  cases found with
  | none => exact .none
  | @some document other documents =>
      cases documents with
      | same =>
          cases document with
          | null => exact .none
          | _ => exact .some (.same _)
      | array pairs => exact .some (.array pairs)
      | object distinct reordered pairs => exact .some (.object distinct reordered pairs)

theorem given?_getD_rearranged
    (rearranged : Json.Rearranged (.object arguments) (.object others))
    (name : String) :
    Json.Rearranged ((given? arguments name).getD .null) ((given? others name).getD .null) := by
  have found := given?_rearranged rearranged name
  generalize given? arguments name = document at found ⊢
  generalize given? others name = other at found ⊢
  cases found with
  | none => exact .same _
  | some documents => exact documents

theorem checkArguments_agree
    (rearranged : Json.Rearranged (.object arguments) (.object others))
    (allowed : List String)
    (path : String) :
    Agree Eq (checkArguments allowed path arguments) (checkArguments allowed path others) := by
  have sameFound := isSome_find?_keys rearranged.keys_perm fun key => !allowed.contains key
  rw [checkArguments, checkArguments]
  generalize (arguments.find? fun argument => !allowed.contains argument.1) = found at sameFound ⊢
  generalize (others.find? fun argument => !allowed.contains argument.1) = other at sameFound ⊢
  cases found <;> cases other <;> first | exact .ok rfl | exact .error | cases sameFound

theorem readCount_agree
    (rearranged : Json.Rearranged (.object arguments) (.object others))
    (path name : String) :
    Agree Eq (readCount arguments path name) (readCount others path name) := by
  have found := given?_rearranged rearranged name
  rw [readCount, readCount]
  generalize given? arguments name = document at found ⊢
  generalize given? others name = other at found ⊢
  cases found with
  | none => exact .ok rfl
  | some documents =>
      cases documents with
      | same => exact .refl (fun _ => rfl) _
      | array => exact .error
      | object => exact .error

/-- Two lists of arguments of a select differ at most in how documents are arranged. -/
structure SelectArguments.Rearranged (arguments others : SelectArguments) : Prop where
  offset_eq : arguments.offset = others.offset
  limit_eq : arguments.limit = others.limit
  orderBy : arguments.orderBy.Rearranged others.orderBy
  filter : arguments.filter.Rearranged others.filter

theorem SelectArguments.read_agree
    (rearranged : Json.Rearranged (.object arguments) (.object others))
    (path : String) :
    Agree SelectArguments.Rearranged (SelectArguments.read path arguments)
      (SelectArguments.read path others) := by
  rw [SelectArguments.read, SelectArguments.read]
  refine (readCount_agree rearranged path "offset").bind fun offset _ sameOffset => ?_
  refine (readCount_agree rearranged path "limit").bind fun limit _ sameLimit => ?_
  exact .ok ⟨sameOffset, sameLimit, given?_getD_rearranged rearranged "orderBy",
    given?_getD_rearranged rearranged "where"⟩

theorem readRelationArguments_agree
    (rearranged : Json.Rearranged (.object arguments) (.object others))
    (cardinality : Cardinality)
    (path : String) :
    Agree SelectArguments.Rearranged (readRelationArguments cardinality path arguments)
      (readRelationArguments cardinality path others) := by
  rw [readRelationArguments, readRelationArguments]
  exact (checkArguments_agree rearranged _ path).bind fun _ _ _ =>
    SelectArguments.read_agree rearranged path

end Arguments

section Inputs

variable {types : TableTypes} {entries others : JsonEntries}

/-- Two input objects give the same documents to the columns that keep documents. -/
def KeepsDocuments (columns : List ColumnCodec) (entries others : JsonEntries) : Prop :=
  ∀ column ∈ columns, column.kind.usesJson = true ->
    entries.lookup column.column = others.lookup column.column

/-- The input objects of an argument: a list of objects, or a single object. -/
def inputObjects : Json -> List JsonEntries
  | .array items => items.filterMap Json.object?
  | document => document.object?.toList

/-- Two input objects are rearranged, and give the same documents to the columns that keep them. -/
structure InputRearranged (columns : List ColumnCodec) (entries others : JsonEntries) : Prop where
  rearranged : Json.Rearranged (.object entries) (.object others)
  keeps : KeepsDocuments columns entries others

theorem readInputFields_agree
    (inputs : InputRearranged types.columns entries others)
    (path : String)
    (fields : List InputField) :
    Agree Eq (readInputFields types path entries fields)
      (readInputFields types path others fields) := by
  induction fields with
  | nil => exact .ok rfl
  | cons field fields inductionHypothesis =>
      have found := inputs.rearranged.lookup field.name
      have keeps := inputs.keeps
      rw [readInputFields, readInputFields]
      cases isColumn : types.column? field.name with
      | none =>
          generalize List.lookup field.name entries = document at found ⊢
          generalize List.lookup field.name others = other at found ⊢
          cases found with
          | none =>
              dsimp only
              split
              · exact .error
              · exact inductionHypothesis
          | some documents => exact .error
      | some column =>
          have isNamed : column.column = field.name := by
            have same := List.find?_some isColumn
            exact beq_iff_eq.1 same
          have decodes : ∀ document other, entries.lookup field.name = some document ->
              others.lookup field.name = some other -> document.Rearranged other ->
                Agree Eq (column.decode document (joinPath path field.name))
                  (column.decode other (joinPath path field.name)) := by
            intro document other atEntry atOther documents
            cases usesJson : column.kind.usesJson with
            | false => exact column.decode_agree usesJson documents _
            | true =>
                have same := keeps column (List.mem_of_find?_eq_some isColumn) usesJson
                rw [isNamed, atEntry, atOther, Option.some.injEq] at same
                exact same ▸ .refl (fun _ => rfl) _
          generalize List.lookup field.name entries = document at found decodes ⊢
          generalize List.lookup field.name others = other at found decodes ⊢
          cases found with
          | none =>
              dsimp only
              split
              · exact .error
              · exact inductionHypothesis
          | some documents =>
              refine (decodes _ _ rfl rfl documents).bind fun value _ same => ?_
              cases same
              refine inductionHypothesis.bind fun values _ same => ?_
              cases same
              exact .ok rfl

theorem readInputRow_agree
    (inputs : InputRearranged types.columns entries others)
    (fields : List InputField)
    (path : String) :
    Agree Eq (readInputRow types fields path entries) (readInputRow types fields path others) := by
  have sameFound := isSome_find?_keys inputs.rearranged.keys_perm fun key =>
    !fields.any fun field => field.name == key
  rw [readInputRow, readInputRow]
  generalize (entries.find? fun entry => !fields.any fun field => field.name == entry.1) = found
    at sameFound ⊢
  generalize (others.find? fun entry => !fields.any fun field => field.name == entry.1) = other
    at sameFound ⊢
  cases found with
  | none =>
      cases other with
      | none => exact readInputFields_agree inputs path fields
      | some entry => cases sameFound
  | some entry =>
      cases other with
      | none => cases sameFound
      | some other => exact .error

theorem readInputRows_agree
    {rows otherRows : List JsonEntries}
    (pairs : List.Forall₂ (InputRearranged types.columns) rows otherRows)
    (fields : List InputField)
    (index : Nat) :
    Agree Eq (readInputRows types fields index rows)
      (readInputRows types fields index otherRows) := by
  induction pairs generalizing index with
  | nil => exact .ok rfl
  | cons first _ inductionHypothesis =>
      rw [readInputRows, readInputRows]
      refine (readInputRow_agree first fields _).bind fun row _ same => ?_
      cases same
      refine (inductionHypothesis (index + 1)).bind fun rows _ same => ?_
      cases same
      exact .ok rfl

/-- The rows of an insert are the same where input objects are rearranged. -/
theorem readInsertRows_agree
    {rows otherRows : List JsonEntries}
    (pairs : List.Forall₂ (InputRearranged types.columns) rows otherRows) :
    Agree Eq (readInsertRows types rows) (readInsertRows types otherRows) := by
  have several := readInputRows_agree pairs (insertFields types.table types.columns) 0
  cases pairs with
  | nil => exact several
  | cons first later =>
      cases later with
      | nil =>
          refine (readInputRow_agree first _ "values").bind fun row _ same => ?_
          cases same
          exact .ok rfl
      | cons second others => exact several

end Inputs

section Operations

variable {columns : List ColumnCodec} {arguments others : JsonEntries}

theorem readInputObject_agree
    {document other : Json}
    (rearranged : document.Rearranged other)
    (keeps : List.Forall₂ (KeepsDocuments columns) (inputObjects document) (inputObjects other))
    (path : String) :
    Agree (InputRearranged columns) (readInputObject path document)
      (readInputObject path other) := by
  cases rearranged with
  | same =>
      cases document with
      | object entries => exact .ok ⟨.same _, fun _ _ _ => rfl⟩
      | _ => exact .error
  | array => exact .error
  | object distinct reordered pairs =>
      rw [inputObjects, inputObjects] at keeps
      · cases keeps with
        | cons first _ => exact .ok ⟨.object distinct reordered pairs, first⟩
      all_goals simp

theorem readInputObject_eq_error
    {document : Json}
    (noObject : document.object? = none)
    (path : String) :
    ∃ fault, readInputObject path document = .error fault := by
  cases document with
  | object entries => cases noObject
  | _ => exact ⟨_, rfl⟩

theorem readInputObjects_agree
    {items otherItems : List Json}
    (pairs : List.Forall₂ Json.Rearranged items otherItems)
    (keeps : List.Forall₂ (KeepsDocuments columns) (items.filterMap Json.object?)
      (otherItems.filterMap Json.object?))
    (path : String)
    (index : Nat) :
    Agree (List.Forall₂ (InputRearranged columns)) (readInputObjects path index items)
      (readInputObjects path index otherItems) := by
  induction pairs generalizing index with
  | nil => exact .ok .nil
  | @cons item other items otherItems first _ inductionHypothesis =>
      rw [readInputObjects, readInputObjects]
      cases isObject : item.object? with
      | none =>
          have noObject : other.object? = none := by
            cases first with
            | same => exact isObject
            | array => rfl
            | object => cases isObject
          obtain ⟨_, refused⟩ := readInputObject_eq_error isObject (itemPath path index)
          obtain ⟨_, refusedOther⟩ := readInputObject_eq_error noObject (itemPath path index)
          rw [refused, refusedOther]
          exact .error
      | some entries =>
          obtain ⟨others, isOther⟩ : ∃ others, other.object? = some others := by
            cases first with
            | same => exact ⟨_, isObject⟩
            | array => cases isObject
            | object => exact ⟨_, rfl⟩
          rw [List.filterMap_cons, isObject, List.filterMap_cons, isOther] at keeps
          cases keeps with
          | cons firstKeeps laterKeep =>
              have singles : List.Forall₂ (KeepsDocuments columns) (inputObjects item)
                  (inputObjects other) := by
                cases item <;> cases isObject
                cases other <;> cases isOther
                exact .cons firstKeeps .nil
              refine (readInputObject_agree first singles _).bind fun _ _ inputs => ?_
              exact (inductionHypothesis laterKeep (index + 1)).bind fun _ _ rows =>
                .ok (.cons inputs rows)

/-- The rows of an insert are rearranged input objects. -/
theorem readRowList_agree
    {document other : Json}
    (rearranged : document.Rearranged other)
    (keeps : List.Forall₂ (KeepsDocuments columns) (inputObjects document) (inputObjects other))
    (operation : String) :
    Agree (List.Forall₂ (InputRearranged columns)) (readRowList operation document)
      (readRowList operation other) := by
  have single := readInputObject_agree rearranged keeps (joinPath operation "values")
  cases rearranged with
  | same =>
      refine .refl (fun rows => ?_) _
      exact List.forall₂_same.2 fun _ _ => ⟨.same _, fun _ _ _ => rfl⟩
  | array pairs =>
      cases pairs with
      | nil => exact .error
      | cons first later => exact readInputObjects_agree (.cons first later) keeps _ 0
  | object distinct reordered pairs => exact single.bind fun _ _ inputs => .ok (.cons inputs .nil)

theorem readAssignments_agree
    {document other : Json}
    (rearranged : document.Rearranged other)
    (keeps : List.Forall₂ (KeepsDocuments columns) (inputObjects document) (inputObjects other))
    (operation : String) :
    Agree (InputRearranged columns) (readAssignments operation document)
      (readAssignments operation other) := by
  rw [readAssignments, readAssignments]
  refine (readInputObject_agree rearranged keeps _).bind fun entries others inputs => ?_
  dsimp only
  rw [inputs.rearranged.isEmpty_eq]
  split
  · exact .error
  · exact .ok inputs

/-- The arguments of two operations differ at most in how documents are arranged. -/
inductive OperationArguments.Rearranged (columns : List ColumnCodec) :
    OperationArguments -> OperationArguments -> Prop
  | select
      {arguments others : SelectArguments}
      (given : arguments.Rearranged others) :
      OperationArguments.Rearranged columns (.select arguments) (.select others)
  | insert
      {rows others : List JsonEntries}
      (pairs : List.Forall₂ (InputRearranged columns) rows others) :
      OperationArguments.Rearranged columns (.insert rows) (.insert others)
  | update
      {entries others : JsonEntries}
      {filter other : Json}
      (inputs : InputRearranged columns entries others)
      (filters : filter.Rearranged other) :
      OperationArguments.Rearranged columns (.update entries filter) (.update others other)
  | delete
      {filter other : Json}
      (filters : filter.Rearranged other) :
      OperationArguments.Rearranged columns (.delete filter) (.delete other)

/-- Two lists of arguments give the same documents to the columns that keep documents, in each of
the input objects. -/
def KeepsInputs (columns : List ColumnCodec) (arguments others : JsonEntries) : Prop :=
  ∀ name ∈ ["values", "set"], ∀ document other, arguments.lookup name = some document ->
    others.lookup name = some other ->
      List.Forall₂ (KeepsDocuments columns) (inputObjects document) (inputObjects other)

theorem requireArgument_agree
    (rearranged : Json.Rearranged (.object arguments) (.object others))
    (operation name : String) :
    Agree (fun document other => document.Rearranged other ∧
        arguments.lookup name = some document ∧ others.lookup name = some other)
      (requireArgument operation arguments name) (requireArgument operation others name) := by
  have found := given?_rearranged rearranged name
  have isLookedUp : ∀ {entries : JsonEntries} {document : Json},
      given? entries name = some document -> entries.lookup name = some document := by
    intro entries document isGiven
    rw [given?.eq_def] at isGiven
    split at isGiven
    · cases isGiven
    · exact isGiven
  rw [requireArgument, requireArgument]
  cases isGiven : given? arguments name with
  | none =>
      cases isOther : given? others name with
      | none => exact .error
      | some other => simp [isGiven, isOther] at found
  | some document =>
      cases isOther : given? others name with
      | none => simp [isGiven, isOther] at found
      | some other =>
          rw [isGiven, isOther, Option.rel_some_some] at found
          exact .ok ⟨found, isLookedUp isGiven, isLookedUp isOther⟩

/-- Rearranged arguments of an operation are read where the arguments are. -/
theorem OperationArguments.read_agree
    (rearranged : Json.Rearranged (.object arguments) (.object others))
    (keeps : KeepsInputs columns arguments others)
    (operation : Operation) :
    Agree (OperationArguments.Rearranged columns) (OperationArguments.read operation arguments)
      (OperationArguments.read operation others) := by
  have filters := given?_getD_rearranged rearranged "where"
  have selects := SelectArguments.read_agree rearranged operation.name
  have kept : ∀ name ∈ ["values", "set"], ∀ document other,
      document.Rearranged other ∧ arguments.lookup name = some document ∧
        others.lookup name = some other ->
      List.Forall₂ (KeepsDocuments columns) (inputObjects document) (inputObjects other) :=
    fun name member document other ⟨_, found, foundOther⟩ =>
      keeps name member document other found foundOther
  rw [OperationArguments.read, OperationArguments.read]
  refine (checkArguments_agree rearranged _ _).bind fun _ _ _ => ?_
  obtain ⟨kind, table⟩ := operation
  cases kind with
  | selectMany => exact selects.bind fun _ _ given => .ok (.select given)
  | selectOne => exact selects.bind fun _ _ given => .ok (.select given)
  | insertMany =>
      refine (requireArgument_agree rearranged _ _).bind fun document other found => ?_
      exact (readRowList_agree found.1 (kept _ (by simp) _ _ found) _).bind fun _ _ rows =>
        .ok (.insert rows)
  | insertOne =>
      refine (requireArgument_agree rearranged _ _).bind fun document other found => ?_
      exact (readInputObject_agree found.1 (kept _ (by simp) _ _ found) _).bind fun _ _ inputs =>
        .ok (.insert (.cons inputs .nil))
  | update =>
      refine (requireArgument_agree rearranged _ _).bind fun document other found => ?_
      exact (readAssignments_agree found.1 (kept _ (by simp) _ _ found) _).bind fun _ _ inputs =>
        .ok (.update inputs filters)
  | delete => exact .ok (.delete filters)

end Operations

end RelationalApi
