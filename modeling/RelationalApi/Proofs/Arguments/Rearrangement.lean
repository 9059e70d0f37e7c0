import RelationalApi.Arguments.OrderBy
import RelationalApi.Proofs.Scalar.Rearrangement
import RelationalApi.Proofs.Storage.AlikeQueries

/-!
# Compiling rearranged arguments

Filters are compiled in the order of the entries and orders in the order of the columns.  Either way
a rearranged argument compiles where the argument does: to a filter that accepts the same rows, and
to the same order.
-/

namespace RelationalApi

open Outcome

open RelationalApi.Filter (Alike ConditionsAlike)

/-- Compiles the entries of an object one by one and takes the conditions together. -/
def gatherConditions (compile : String -> Json -> Except ArgumentError (List Filter)) :
    JsonEntries -> Except ArgumentError (List Filter)
  | [] => .ok []
  | (key, document) :: entries => do
    let conditions ← compile key document
    let others ← gatherConditions compile entries
    return conditions ++ others

section Gathering

variable {compile : String -> Json -> Except ArgumentError (List Filter)}
variable {entries others : JsonEntries}

/-- Entries compile when each of them does. -/
theorem gatherConditions_succeeds :
    (∃ conditions, gatherConditions compile entries = .ok conditions) ↔
      ∀ entry ∈ entries, ∃ conditions, compile entry.1 entry.2 = .ok conditions := by
  induction entries with
  | nil => simp [gatherConditions]
  | cons entry entries inductionHypothesis =>
      obtain ⟨key, document⟩ := entry
      rw [List.forall_mem_cons, ← inductionHypothesis]
      simp only [gatherConditions, bind_eq_ok, pure_eq_ok]
      constructor
      · rintro ⟨_, conditions, first, later, rest, _⟩
        exact ⟨⟨conditions, first⟩, later, rest⟩
      · rintro ⟨⟨conditions, first⟩, later, rest⟩
        exact ⟨_, conditions, first, later, rest, rfl⟩

/-- What holds of conditions taken together when it holds of each, holds of the conditions of
entries when it holds of those of each entry. -/
theorem gatherConditions_test
    {test : List Filter -> Bool}
    (nothing : test [] = true)
    (together : ∀ conditions later, test (conditions ++ later) = (test conditions && test later))
    {conditions : List Filter}
    (gathered : gatherConditions compile entries = .ok conditions) :
    test conditions = true ↔
      ∀ entry ∈ entries, ∀ part, compile entry.1 entry.2 = .ok part -> test part = true := by
  induction entries generalizing conditions with
  | nil =>
      cases gathered
      simp [nothing]
  | cons entry entries inductionHypothesis =>
      obtain ⟨key, document⟩ := entry
      simp only [gatherConditions, bind_eq_ok, pure_eq_ok] at gathered
      obtain ⟨first, compiled, later, rest, rfl⟩ := gathered
      rw [List.forall_mem_cons, ← inductionHypothesis rest, together, Bool.and_eq_true]
      simp only [compiled, Except.ok.injEq, forall_eq']

/-- Matching entries have conditions that are alike, where those of each entry are. -/
theorem gatherConditions_agree
    (compile : String -> Json -> Except ArgumentError (List Filter))
    {related : Json -> Json -> Prop}
    (isMatch : JsonEntries.Match related entries others)
    (compiles : ∀ key value other, (key, value) ∈ entries -> related value other ->
      Agree ConditionsAlike (compile key value) (compile key other)) :
    Agree ConditionsAlike (gatherConditions compile entries)
      (gatherConditions compile others) := by
  have succeeds : (∃ conditions, gatherConditions compile entries = .ok conditions) ↔
      ∃ conditions, gatherConditions compile others = .ok conditions := by
    rw [gatherConditions_succeeds, gatherConditions_succeeds]
    constructor
    · rintro each ⟨key, other⟩ member
      obtain ⟨value, valueMember, holds⟩ := isMatch.back key other member
      exact (compiles key value other valueMember holds).exists_ok_iff.1 (each _ valueMember)
    · rintro each ⟨key, value⟩ member
      obtain ⟨other, otherMember, holds⟩ := isMatch.forth key value member
      exact (compiles key value other member holds).exists_ok_iff.2 (each _ otherMember)
  cases gathered : gatherConditions compile entries with
  | error fault =>
      cases gatheredOther : gatherConditions compile others with
      | error otherFault => exact .error
      | ok conditions => simp [gathered, gatheredOther] at succeeds
  | ok conditions =>
      obtain ⟨otherConditions, gatheredOther⟩ := succeeds.1 ⟨conditions, gathered⟩
      rw [gatheredOther]
      -- A test that does not tell apart the parts of an entry does not tell apart the whole.
      have sameTest : ∀ test : List Filter -> Bool, test [] = true ->
          (∀ part later, test (part ++ later) = (test part && test later)) ->
          (∀ part other, ConditionsAlike part other -> test part = test other) ->
          test conditions = test otherConditions := by
        intro test nothing together sees
        rw [Bool.eq_iff_iff, gatherConditions_test nothing together gathered,
          gatherConditions_test nothing together gatheredOther]
        constructor
        · rintro each ⟨key, other⟩ member otherPart compiled
          obtain ⟨value, valueMember, holds⟩ := isMatch.back key other member
          have agree := compiles key value other valueMember holds
          rw [compiled] at agree
          generalize outcome : compile key value = part at agree
          cases agree with
          | ok alike => exact sees _ _ alike ▸ each _ valueMember _ outcome
        · rintro each ⟨key, value⟩ member part compiled
          obtain ⟨other, otherMember, holds⟩ := isMatch.forth key value member
          obtain ⟨otherPart, compiledOther, alike⟩ :=
            (compiles key value other member holds).exists_ok compiled
          exact (sees _ _ alike).trans (each _ otherMember _ compiledOther)
      refine .ok ⟨?_, fun row => ?_⟩
      · exact sameTest List.isEmpty rfl (fun part later => by cases part <;> simp)
          fun _ _ alike => alike.isEmpty_eq
      · exact sameTest (·.all (Filter.holds row)) rfl (fun _ _ => List.all_append)
          fun _ _ alike => alike.all_eq row

end Gathering

theorem compileEntries_eq_gather
    (columns : List ColumnCodec)
    (path : String)
    (entries : JsonEntries) :
    compileEntries columns path entries =
      gatherConditions (compileEntry columns path) entries := by
  induction entries with
  | nil => rw [compileEntries, gatherConditions]
  | cons entry entries inductionHypothesis =>
      rw [compileEntries, gatherConditions, inductionHypothesis]

theorem compileOperators_eq_gather
    (compile : String -> Json -> Except ArgumentError (Option Filter))
    (entries : JsonEntries) :
    compileOperators compile entries =
      gatherConditions (fun name operand => (compile name operand).map Option.toList) entries := by
  induction entries with
  | nil => rfl
  | cons entry entries inductionHypothesis =>
      obtain ⟨name, operand⟩ := entry
      rw [compileOperators, gatherConditions, inductionHypothesis]
      cases compile name operand <;> rfl

section Operators

variable {column : ColumnCodec} {document other : Json}

theorem compileComparison_agree
    (column : ColumnCodec)
    (comparison : Comparison)
    (rearranged : document.Rearranged other)
    (path : String) :
    Agree Alike (compileComparison column comparison document path)
      (compileComparison column comparison other path) := by
  rw [compileComparison, compileComparison, rearranged.isNull_eq]
  split
  · exact .error
  · refine (column.decodeNonNull_agree rearranged path).bind fun value result alike => ?_
    refine .ok ⟨rfl, fun row => ?_⟩
    simp only [Filter.accepts_some, Filter.holds]
    cases present? row column.column with
    | none => rfl
    | some stored => cases comparison <;> simp only [Comparison.holds, alike stored]

theorem compilePattern_agree
    (column : ColumnCodec)
    (test : PatternTest)
    (rearranged : document.Rearranged other)
    (path : String) :
    Agree Alike (compilePattern column test document path)
      (compilePattern column test other path) := by
  cases rearranged with
  | same => exact .refl .refl _
  | array => exact .error
  | object => exact .error

theorem compileNullness_agree
    (column : ColumnCodec)
    (negated : Bool)
    (rearranged : document.Rearranged other)
    (path : String) :
    Agree Alike (compileNullness column negated document path)
      (compileNullness column negated other path) := by
  cases rearranged with
  | same => exact .refl .refl _
  | array => exact .error
  | object => exact .error

theorem compileMembership_agree
    (column : ColumnCodec)
    (negated : Bool)
    (rearranged : document.Rearranged other)
    (path : String) :
    Agree Alike (compileMembership column negated document path)
      (compileMembership column negated other path) := by
  cases rearranged with
  | same => exact .refl .refl _
  | array pairs =>
      have reads := readItems_agree pairs
        (fun item other related path => column.decodeNonNull_agree related path) path 0
      refine reads.bind fun values results alike => .ok ⟨rfl, fun row => ?_⟩
      simp only [Filter.accepts_some, Filter.holds]
      cases present? row column.column with
      | none => rfl
      | some stored =>
          have sameAny : (values.any fun value => stored.equal value) =
              results.any fun value => stored.equal value := by
            induction alike with
            | nil => rfl
            | cons first _ inductionHypothesis =>
                rw [List.any_cons, List.any_cons, (first stored).1, inductionHypothesis]
          simp only [sameAny]
  | object => exact .error

theorem compileOperator_agree
    (column : ColumnCodec)
    (name : String)
    (rearranged : document.Rearranged other)
    (path : String) :
    Agree Alike (compileOperator column path name document)
      (compileOperator column path name other) := by
  unfold compileOperator
  dsimp only
  split
  · exact compileNullness_agree column _ rearranged _
  · split
    · exact compileMembership_agree column _ rearranged _
    · split
      · exact compilePattern_agree column _ rearranged _
      · split
        · exact compileComparison_agree column _ rearranged _
        · exact .error

/-- An object of operators compiles to an alike filter where its operators do. -/
theorem compileOperatorObject_agree
    {compile : String -> Json -> Except ArgumentError (Option Filter)}
    (compiles : ∀ name value other, value.Rearranged other ->
      Agree Alike (compile name value) (compile name other))
    (rearranged : document.Rearranged other)
    (path : String) :
    Agree Alike (compileOperatorObject compile path document)
      (compileOperatorObject compile path other) := by
  cases rearranged with
  | same => exact .refl .refl _
  | array => exact .error
  | object distinct reordered pairs =>
      rw [compileOperatorObject, compileOperatorObject, compileOperators_eq_gather,
        compileOperators_eq_gather]
      have gathered := gatherConditions_agree
        (fun name operand => (compile name operand).map Option.toList)
        (Json.EntryRearranged.isMatch distinct reordered pairs)
        fun name value other _ values => ?_
      · exact gathered.bind fun _ _ alike => .ok alike.all
      · have agree := compiles name value other values
        generalize compile name value = outcome at agree ⊢
        generalize compile name other = otherOutcome at agree ⊢
        cases agree with
        | ok alike => exact .ok alike.toList
        | error => exact .error

theorem compileAlternatives_agree
    (column : ColumnCodec)
    {items others : List Json}
    (pairs : List.Forall₂ Json.Rearranged items others)
    (path : String)
    (index : Nat) :
    Agree (List.Forall₂ Alike) (compileAlternatives column path index items)
      (compileAlternatives column path index others) := by
  induction pairs generalizing index with
  | nil => exact .ok .nil
  | cons first _ inductionHypothesis =>
      rw [compileAlternatives, compileAlternatives]
      have branch := compileOperatorObject_agree
        (fun name _ _ values => compileOperator_agree column name values (itemPath path index))
        first (itemPath path index)
      refine branch.bind fun _ _ alike => ?_
      exact (inductionHypothesis (index + 1)).bind fun _ _ others => .ok (.cons alike others)

theorem compileColumnOr_agree
    (column : ColumnCodec)
    (rearranged : document.Rearranged other)
    (path : String) :
    Agree Alike (compileColumnOr column path document) (compileColumnOr column path other) := by
  cases rearranged with
  | same => exact .refl .refl _
  | array pairs =>
      exact (compileAlternatives_agree column pairs path 0).bind fun _ _ alike =>
        .ok (Filter.alike_disjunction alike)
  | object => exact .error

theorem compileColumn_agree
    (column : ColumnCodec)
    (rearranged : document.Rearranged other)
    (path : String) :
    Agree Alike (compileColumn column path document) (compileColumn column path other) := by
  refine compileOperatorObject_agree (fun name value other values => ?_) rearranged path
  split
  · exact compileColumnOr_agree column values _
  · exact compileOperator_agree column name values _

end Operators

theorem compileColumnEntry_agree
    (columns : List ColumnCodec)
    (key : String)
    {document other : Json}
    (rearranged : document.Rearranged other)
    (path : String) :
    Agree ConditionsAlike (compileColumnEntry columns path key document)
      (compileColumnEntry columns path key other) := by
  rw [compileColumnEntry, compileColumnEntry]
  split
  · exact (compileColumn_agree _ rearranged _).bind fun _ _ alike => .ok alike.toList
  · exact .error

/-- The lists of combinators compile to filters that are alike where their items do. -/
theorem compileBranches_agree
    {columns : List ColumnCodec}
    {items others : List Json}
    (compiles : ∀ item ∈ items, ∀ other, item.Rearranged other -> ∀ path,
      Agree Alike (compileWhere columns path item) (compileWhere columns path other))
    (pairs : List.Forall₂ Json.Rearranged items others)
    (path : String)
    (index : Nat) :
    Agree (List.Forall₂ Alike) (compileBranches columns path index items)
      (compileBranches columns path index others) := by
  induction pairs generalizing index with
  | nil =>
      rw [compileBranches]
      exact .ok .nil
  | cons first _ inductionHypothesis =>
      rw [List.forall_mem_cons] at compiles
      rw [compileBranches, compileBranches]
      refine (compiles.1 _ first _).bind fun _ _ alike => ?_
      exact (inductionHypothesis compiles.2 (index + 1)).bind fun _ _ others =>
        .ok (.cons alike others)

/-- A rearranged `where` argument compiles where the argument does, to an alike filter. -/
theorem compileWhere_agree
    (columns : List ColumnCodec)
    {document other : Json}
    (rearranged : document.Rearranged other)
    (path : String) :
    Agree Alike (compileWhere columns path document) (compileWhere columns path other) := by
  -- A document inside a `where` argument is an argument itself or the list of a combinator.
  suffices both : (∀ path, Agree Alike (compileWhere columns path document)
        (compileWhere columns path other)) ∧
      ∀ path key, Agree ConditionsAlike (compileEntry columns path key document)
        (compileEntry columns path key other) from both.1 path
  clear path
  induction document using Json.inside_induction generalizing other with
  | step document itemsHypothesis entriesHypothesis =>
      cases rearranged with
      | same => exact ⟨fun _ => .refl .refl _, fun _ _ => .refl .refl _⟩
      | array pairs =>
          refine ⟨fun path => ?_, fun path key => ?_⟩
          · rw [compileWhere, compileWhere]
            · exact .error
            all_goals simp
          · unfold compileEntry
            cases Combinator.ofKey? key with
            | none => exact compileColumnEntry_agree columns key (.array pairs) path
            | some combinator =>
                have branches := compileBranches_agree
                  (fun item member other values => (itemsHypothesis _ rfl item member values).1)
                  pairs (joinPath path key) 0
                exact branches.bind fun _ _ alike => Filter.combine_agree combinator _ alike
      | object distinct reordered pairs =>
          refine ⟨fun path => ?_, fun path key => ?_⟩
          · rw [compileWhere, compileWhere, compileEntries_eq_gather, compileEntries_eq_gather]
            have gathered := gatherConditions_agree (compileEntry columns path)
              (Json.EntryRearranged.isMatch distinct reordered pairs)
              fun key value other member values =>
                (entriesHypothesis _ rfl (key, value) member values).2 path key
            exact gathered.bind fun _ _ alike => .ok alike.all
          · have rearranged := Json.Rearranged.object distinct reordered pairs
            unfold compileEntry
            cases Combinator.ofKey? key with
            | none => exact compileColumnEntry_agree columns key rearranged path
            | some combinator => exact .error

theorem directionAt_agree
    {entries others : JsonEntries}
    (lookup : ∀ key, Option.Rel Json.Rearranged (entries.lookup key) (others.lookup key))
    (path column : String) :
    Agree Eq (directionAt entries path column) (directionAt others path column) := by
  have found := lookup column
  rw [directionAt.eq_def, directionAt.eq_def]
  generalize List.lookup column entries = document at found ⊢
  generalize List.lookup column others = other at found ⊢
  cases found with
  | none => exact .ok rfl
  | some rearranged =>
      cases rearranged with
      | same => exact .refl (fun _ => rfl) _
      | array => exact .error
      | object => exact .error

theorem sortKeys_agree
    {entries others : JsonEntries}
    (lookup : ∀ key, Option.Rel Json.Rearranged (entries.lookup key) (others.lookup key))
    (path : String)
    (columns : List ColumnCodec) :
    Agree Eq (sortKeys entries path columns) (sortKeys others path columns) := by
  induction columns with
  | nil => exact .ok rfl
  | cons column columns inductionHypothesis =>
      rw [sortKeys, sortKeys]
      refine (directionAt_agree lookup path column.column).bind fun direction _ same => ?_
      cases same
      refine inductionHypothesis.bind fun keys _ same => ?_
      cases same
      exact .ok rfl

/-- Keys that are none of the expected ones are found in rearranged objects alike. -/
theorem isSome_find?_keys
    {entries others : JsonEntries}
    (sameKeys : entries.keys.Perm others.keys)
    (unexpected : String -> Bool) :
    (entries.find? fun entry => unexpected entry.1).isSome =
      (others.find? fun entry => unexpected entry.1).isSome := by
  have keyed : ∀ entries : JsonEntries,
      (entries.find? fun entry => unexpected entry.1).isSome = entries.keys.any unexpected := by
    intro entries
    rw [List.isSome_find?, JsonEntries.keys, List.any_map]
    rfl
  rw [keyed, keyed]
  exact sameKeys.any_eq

/-- A rearranged `orderBy` argument compiles to the same order. -/
theorem compileOrderBy_agree
    (columns : List ColumnCodec)
    {document other : Json}
    (rearranged : document.Rearranged other)
    (path : String) :
    Agree Eq (compileOrderBy columns path document) (compileOrderBy columns path other) := by
  cases rearranged with
  | same => exact .refl (fun _ => rfl) _
  | array => exact .error
  | @object entries between others distinct reordered pairs =>
      have isMatch := Json.EntryRearranged.isMatch distinct reordered pairs
      have sameFound := isSome_find?_keys isMatch.keys_perm fun key =>
        !columns.any fun column => column.column == key
      rw [compileOrderBy, compileOrderBy]
      cases found : entries.find? fun entry =>
          !columns.any fun column => column.column == entry.1 with
      | some entry =>
          cases foundOther : others.find? fun entry =>
              !columns.any fun column => column.column == entry.1 with
          | some other => exact .error
          | none => simp [found, foundOther] at sameFound
      | none =>
          cases foundOther : others.find? fun entry =>
              !columns.any fun column => column.column == entry.1 with
          | some other => simp [found, foundOther] at sameFound
          | none => exact sortKeys_agree isMatch.lookup path columns

end RelationalApi
