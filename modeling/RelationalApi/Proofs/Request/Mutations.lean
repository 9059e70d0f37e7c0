import RelationalApi.Proofs.Interface.Generation
import RelationalApi.Proofs.Selection.Pruning
import RelationalApi.Proofs.Storage.Defaults
import RelationalApi.Request.Compilation

/-!
# Compiled mutations

A compiled mutation gives the fields of its table only values which their columns read from the
arguments.  It returns the columns that the plan of its answer loads, unless the answer only says
that the operation succeeded.
-/

namespace RelationalApi

open Outcome

/-- All documents of some entries are well-formed. -/
def EntriesWellFormed (entries : JsonEntries) : Prop :=
  ∀ entry ∈ entries, entry.2.isWellFormed = true

theorem entriesWellFormed_of_object
    {entries : JsonEntries}
    (wellFormed : (Json.object entries).isWellFormed = true) :
    EntriesWellFormed entries := by
  rw [Json.isWellFormed_object, Bool.and_eq_true, Json.entriesWellFormed_iff] at wellFormed
  exact wellFormed.2

section Arguments

variable {operation path : String} {entries : JsonEntries} {document : Json}

theorem readInputObject_wellFormed
    (wellFormed : document.isWellFormed = true)
    (read : readInputObject path document = .ok entries) :
    EntriesWellFormed entries := by
  cases document with
  | object found =>
      cases read
      exact entriesWellFormed_of_object wellFormed
  | _ => cases read

theorem readInputObjects_wellFormed
    {index : Nat}
    {documents : List Json}
    {rows : List JsonEntries}
    (wellFormed : ∀ document ∈ documents, document.isWellFormed = true)
    (read : readInputObjects path index documents = .ok rows) :
    ∀ entries ∈ rows, EntriesWellFormed entries := by
  induction documents generalizing index rows with
  | nil =>
      rw [readInputObjects] at read
      cases read
      simp
  | cons document documents inductionHypothesis =>
      rw [List.forall_mem_cons] at wellFormed
      simp only [readInputObjects, bind_eq_ok, pure_eq_ok] at read
      obtain ⟨first, readFirst, others, readOthers, rfl⟩ := read
      exact List.forall_mem_cons.2 ⟨readInputObject_wellFormed wellFormed.1 readFirst,
        inductionHypothesis wellFormed.2 readOthers⟩

theorem readRowList_wellFormed
    {rows : List JsonEntries}
    (wellFormed : document.isWellFormed = true)
    (read : readRowList operation document = .ok rows) :
    ∀ entries ∈ rows, EntriesWellFormed entries := by
  rw [readRowList.eq_def] at read
  dsimp only at read
  split at read
  · cases read
  · rw [Json.isWellFormed_array, Json.itemsWellFormed_iff] at wellFormed
    exact readInputObjects_wellFormed wellFormed read
  · obtain ⟨entries, readObject, same⟩ := bind_eq_ok.1 read
    rw [pure_eq_ok] at same
    rw [← same, List.forall_mem_singleton]
    exact readInputObject_wellFormed wellFormed readObject

theorem requireArgument_wellFormed
    {arguments : JsonEntries}
    {name : String}
    (wellFormed : EntriesWellFormed arguments)
    (read : requireArgument operation arguments name = .ok document) :
    document.isWellFormed = true := by
  rw [requireArgument] at read
  split at read
  · rename_i found
    cases read
    rw [given?] at found
    split at found
    · cases found
    · exact wellFormed _ (JsonEntries.mem_of_lookup found)
  · cases read

/-- The documents that become values of rows are well-formed. -/
def OperationArguments.WellFormed : OperationArguments -> Prop
  | select _ => True
  | insert rows => ∀ entries ∈ rows, EntriesWellFormed entries
  | update assignments _ => EntriesWellFormed assignments
  | delete _ => True

theorem OperationArguments.read_wellFormed
    {operation : Operation}
    {arguments : JsonEntries}
    {sorted : OperationArguments}
    (wellFormed : EntriesWellFormed arguments)
    (read : OperationArguments.read operation arguments = .ok sorted) :
    sorted.WellFormed := by
  rw [OperationArguments.read, check_bind_eq_ok] at read
  obtain ⟨_, read⟩ := read
  split at read <;> simp only [bind_eq_ok, pure_eq_ok] at read
  · obtain ⟨_, _, rfl⟩ := read
    exact trivial
  · obtain ⟨_, _, rfl⟩ := read
    exact trivial
  · obtain ⟨document, required, rows, readRows, rfl⟩ := read
    exact readRowList_wellFormed (requireArgument_wellFormed wellFormed required) readRows
  · obtain ⟨document, required, row, readRow, rfl⟩ := read
    exact List.forall_mem_singleton.2
      (readInputObject_wellFormed (requireArgument_wellFormed wellFormed required) readRow)
  · obtain ⟨document, required, assignments, readSet, rfl⟩ := read
    simp only [readAssignments, bind_eq_ok] at readSet
    obtain ⟨entries, readObject, kept⟩ := readSet
    split at kept
    · cases kept
    · cases kept
      exact readInputObject_wellFormed (requireArgument_wellFormed wellFormed required) readObject
  · subst read
    exact trivial

end Arguments

section Rows

variable {types : TableTypes} {fields : List InputField} {path : String} {entries : JsonEntries}

theorem readInputFields_readBy
    {values : List FieldValue}
    (wellFormed : EntriesWellFormed entries)
    (read : readInputFields types path entries fields = .ok values) :
    ∀ value ∈ values, Fixture.ReadBy types.columns value := by
  induction fields generalizing values with
  | nil =>
      rw [readInputFields] at read
      cases read
      simp
  | cons field fields inductionHypothesis =>
      rw [readInputFields.eq_def] at read
      dsimp only at read
      split at read
      · split at read
        · cases read
        · exact inductionHypothesis read
      · cases read
      · rename_i document column given found
        simp only [bind_eq_ok, pure_eq_ok] at read
        obtain ⟨value, decoded, others, readOthers, rfl⟩ := read
        refine List.forall_mem_cons.2 ⟨?_, inductionHypothesis readOthers⟩
        exact ⟨column, document, _, found, wellFormed _ (JsonEntries.mem_of_lookup given), decoded⟩

theorem readInputRow_readBy
    {values : List FieldValue}
    (wellFormed : EntriesWellFormed entries)
    (read : readInputRow types fields path entries = .ok values) :
    ∀ value ∈ values, Fixture.ReadBy types.columns value := by
  rw [readInputRow] at read
  split at read
  · cases read
  · exact readInputFields_readBy wellFormed read

theorem readInputRows_readBy
    {index : Nat}
    {inputs : List JsonEntries}
    {rows : List (List FieldValue)}
    (wellFormed : ∀ entries ∈ inputs, EntriesWellFormed entries)
    (read : readInputRows types fields index inputs = .ok rows) :
    ∀ row ∈ rows, ∀ value ∈ row, Fixture.ReadBy types.columns value := by
  induction inputs generalizing index rows with
  | nil =>
      rw [readInputRows] at read
      cases read
      simp
  | cons entries inputs inductionHypothesis =>
      rw [List.forall_mem_cons] at wellFormed
      simp only [readInputRows, bind_eq_ok, pure_eq_ok] at read
      obtain ⟨row, readRow, others, readOthers, rfl⟩ := read
      exact List.forall_mem_cons.2 ⟨readInputRow_readBy wellFormed.1 readRow,
        inductionHypothesis wellFormed.2 readOthers⟩

theorem readInsertRows_readBy
    {inputs : List JsonEntries}
    {rows : List (List FieldValue)}
    (wellFormed : ∀ entries ∈ inputs, EntriesWellFormed entries)
    (read : readInsertRows types inputs = .ok rows) :
    ∀ row ∈ rows, ∀ value ∈ row, Fixture.ReadBy types.columns value := by
  rw [readInsertRows.eq_def] at read
  dsimp only at read
  split at read
  · rw [List.forall_mem_singleton] at wellFormed
    obtain ⟨row, readRow, same⟩ := bind_eq_ok.1 read
    rw [pure_eq_ok] at same
    rw [← same, List.forall_mem_singleton]
    exact readInputRow_readBy wellFormed readRow
  · exact readInputRows_readBy wellFormed read

end Rows

namespace Interface

variable {interface : Interface} {types : TableTypes} {operation : Operation}
variable {selection : Selection}

/-- What a mutation returns is what the plan of its answer loads. -/
inductive Answers (interface : Interface) (operation : Operation) (selection : Selection) :
    Option (List String) -> ResponsePlan -> Prop
  | success
      {output : ObjectOutput}
      (configured : interface.config.mutationResponse = .success) :
      Answers interface operation selection none (.success output)
  | returning
      {plan : SelectionPlan}
      {response : ResponsePlan}
      (configured : interface.config.mutationResponse = .returning)
      (pruned : interface.pruneItem operation.table operation.name selection = .ok plan)
      (form : response = if operation.kind = .insertOne then .single plan else .list plan) :
      Answers interface operation selection (some plan.columns) response

theorem answers_of_mutationPlan
    {returning : Option (List String)}
    {response : ResponsePlan}
    (planned : interface.mutationPlan operation selection = .ok (returning, response)) :
    interface.Answers operation selection returning response := by
  rw [mutationPlan] at planned
  split at planned <;> simp only [bind_eq_ok, pure_eq_ok, Prod.mk.injEq] at planned
  · rename_i configured
    obtain ⟨output, _, rfl, rfl⟩ := planned
    exact .success configured
  · rename_i configured
    obtain ⟨plan, pruned, rfl, rfl⟩ := planned
    exact .returning configured pruned rfl

/-- A mutation whose arguments are sorted changes the table of its operation and is answered as
planned.  From well-formed arguments it gives values which were read. -/
theorem compileArguments_mutate
    {arguments : OperationArguments}
    {mutation : Mutation}
    {response : ResponsePlan}
    (compiled : interface.compileArguments types operation arguments selection
      = .ok (.mutate mutation, response)) :
    mutation.table = types.name ∧ (arguments.WellFormed -> mutation.ReadBy types.columns) ∧
      interface.Answers operation selection mutation.returning response := by
  cases arguments with
  | select arguments =>
      simp only [compileArguments, compileSelect, bind_eq_ok] at compiled
      obtain ⟨plan, _, queried⟩ := compiled
      split at queried
      all_goals
        obtain ⟨query, _, same⟩ := bind_eq_ok.1 queried
        cases same
  | insert inputs =>
      simp only [compileArguments, bind_eq_ok, pure_eq_ok, Prod.exists, Prod.mk.injEq,
        Request.mutate.injEq] at compiled
      obtain ⟨returning, _, planned, rows, read, rfl, rfl⟩ := compiled
      exact ⟨rfl, fun wellFormed => readInsertRows_readBy wellFormed read,
        answers_of_mutationPlan planned⟩
  | update entries document =>
      simp only [compileArguments, bind_eq_ok, pure_eq_ok, Prod.exists, Prod.mk.injEq,
        Request.mutate.injEq] at compiled
      obtain ⟨returning, _, planned, assignments, read, filter, _, rfl, rfl⟩ := compiled
      exact ⟨rfl, fun wellFormed => readInputRow_readBy wellFormed read,
        answers_of_mutationPlan planned⟩
  | delete document =>
      simp only [compileArguments, bind_eq_ok, pure_eq_ok, Prod.exists, Prod.mk.injEq,
        Request.mutate.injEq] at compiled
      obtain ⟨returning, _, planned, filter, _, rfl, rfl⟩ := compiled
      exact ⟨rfl, fun _ => trivial, answers_of_mutationPlan planned⟩

/-- A compiled mutation changes the table of its operation and is answered as planned.  From
well-formed arguments it gives values which were read. -/
theorem compile_mutate
    {name : String}
    {arguments : JsonEntries}
    {compiled : CompiledOperation}
    {mutation : Mutation}
    (succeeded : interface.compile name arguments selection = .ok compiled)
    (requested : compiled.request = .mutate mutation) :
    ∃ types, interface.table? compiled.operation.table = some types ∧
      mutation.table = types.name ∧
      (EntriesWellFormed arguments -> mutation.ReadBy types.columns) ∧
      interface.Answers compiled.operation selection mutation.returning compiled.response := by
  rw [compile] at succeeded
  split at succeeded
  · cases succeeded
  · rename_i operation found
    simp only [bind_eq_ok, pure_eq_ok, Prod.exists, typesAt_eq_ok] at succeeded
    obtain ⟨sorted, read, types, foundTypes, request, response, compiledArguments, rfl⟩ := succeeded
    dsimp only at requested
    subst requested
    obtain ⟨sameName, readBy, answers⟩ := compileArguments_mutate compiledArguments
    exact ⟨types, foundTypes, sameName,
      fun wellFormed => readBy (OperationArguments.read_wellFormed wellFormed read), answers⟩

end Interface
end RelationalApi
