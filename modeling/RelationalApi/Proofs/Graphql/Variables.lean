import RelationalApi.Graphql.Request
import RelationalApi.Proofs.Outcome

/-!
# Variables as literals

A document with variables stands for the document in which their values are written out.  A variable
without value takes away the argument or the field of an input object that it is given to, and is
null as an item of a list.  The condition of a directive is its first argument of that name, so a
directive whose condition is taken away has none, even if the argument is given again.
-/

namespace RelationalApi
namespace Graphql

open Outcome

mutual

/-- The literal for a document. -/
def literal : Json -> InputValue
  | .null => .null
  | .bool value => .bool value
  | .number value => .number value
  | .string text => .text text
  | .array items => .list (literals items)
  | .object entries => .object (literalFields entries)

def literals : List Json -> List InputValue
  | [] => []
  | item :: items => literal item :: literals items

def literalFields : JsonEntries -> InputArguments
  | [] => []
  | (key, value) :: entries => (key, literal value) :: literalFields entries

end

/-- The scope without variables. -/
def VariableScope.empty : VariableScope := ⟨[], []⟩

namespace InputValue

mutual

/-- A value with its variables written out.  A declared variable without value leaves nothing, and
what is not declared stays. -/
def writeOut (scope : VariableScope) : InputValue -> Option InputValue
  | reference name =>
      match scope.values.lookup name with
      | some document => some (literal document)
      | none => if scope.declared.contains name then none else some (reference name)
  | list items => some (list (writeOutItems scope items))
  | object fields => some (object (writeOutFields scope fields))
  | null => some null
  | bool value => some (bool value)
  | number value => some (number value)
  | text content => some (text content)
  | enumeration name => some (enumeration name)

/-- Items that are left without a value are null. -/
def writeOutItems (scope : VariableScope) : List InputValue -> List InputValue
  | [] => []
  | item :: items => (writeOut scope item).getD null :: writeOutItems scope items

/-- Fields that are left without a value are deleted. -/
def writeOutFields (scope : VariableScope) : InputArguments -> InputArguments
  | [] => []
  | (name, value) :: fields =>
      match writeOut scope value with
      | some written => (name, written) :: writeOutFields scope fields
      | none => writeOutFields scope fields

end

end InputValue

/-! ## Documents with variables written out -/

/-- What is done to the arguments of every field of a document, and to every directive. -/
structure Rewriting where
  arguments : InputArguments -> InputArguments
  directive : Directive -> Directive

namespace Rewriting

variable (rewriting : Rewriting)

mutual

def item : SelectionItem -> SelectionItem
  | .field label name arguments directives inner =>
      .field label name (rewriting.arguments arguments) (directives.map rewriting.directive)
        (items inner)
  | .spread fragment directives => .spread fragment (directives.map rewriting.directive)
  | .inline directives inner => .inline (directives.map rewriting.directive) (items inner)

def items : List SelectionItem -> List SelectionItem
  | [] => []
  | first :: others => item first :: items others

end

/-- Rewrites an operation, which then declares no variables. -/
def operation (definition : OperationDefinition) : OperationDefinition :=
  { definition with
    declarations := []
    directives := definition.directives.map rewriting.directive
    items := rewriting.items definition.items }

def fragment (definition : FragmentDefinition) : FragmentDefinition :=
  { definition with
    directives := definition.directives.map rewriting.directive
    items := rewriting.items definition.items }

def document (document : Document) : Document :=
  ⟨document.operations.map rewriting.operation, document.fragments.map rewriting.fragment⟩

end Rewriting

/-- Writes variables out in all arguments alike, those of directives included. -/
def VariableScope.everywhere (scope : VariableScope) : Rewriting where
  arguments := InputValue.writeOutFields scope
  directive directive :=
    { directive with arguments := InputValue.writeOutFields scope directive.arguments }

/-- Whether the condition of a directive is a declared variable without value. -/
def Directive.lacksCondition (scope : VariableScope) (directive : Directive) : Bool :=
  match directive.arguments.lookup conditionArgument with
  | some value => (value.writeOut scope).isNone
  | none => false

/-- A directive with its variables written out.  If its condition is a variable without value, then
no argument of that name is left. -/
def Directive.writeOut (scope : VariableScope) (directive : Directive) : Directive :=
  let written := InputValue.writeOutFields scope directive.arguments
  { directive with
    arguments :=
      if directive.lacksCondition scope then
        written.filter fun argument => argument.1 != conditionArgument
      else written }

/-- Writes variables out, by directives as they read their condition. -/
def VariableScope.writing (scope : VariableScope) : Rewriting where
  arguments := InputValue.writeOutFields scope
  directive := Directive.writeOut scope

/-- The variables of an operation with their values. -/
def OperationDefinition.scope (definition : OperationDefinition) (values : JsonEntries) :
    VariableScope :=
  ⟨definition.declarations.map (·.name), values⟩

/-- A document means the same as the one with the variables written out by a rewriting, whichever
operation is selected and whatever values its variables have. -/
def WritesOut (rewriting : VariableScope -> Rewriting) : Prop :=
  ∀ (document : Document) (operationName : Option String) (provided values : JsonEntries)
    (operation : OperationDefinition),
    document.select operationName = .ok operation ->
      resolveVariables provided [] operation.declarations = .ok values ->
        ((rewriting (operation.scope values)).document document).resolve operationName [] =
          document.resolve operationName provided

/-! ## Values -/

mutual

/-- Literals stand for the documents that they are the literals of. -/
theorem resolve_literal (scope : VariableScope) (path : String) :
    (document : Json) -> (literal document).resolve scope path = .ok (some document)
  | .null => by rw [literal, InputValue.resolve]
  | .bool value => by rw [literal, InputValue.resolve]
  | .number value => by rw [literal, InputValue.resolve]
  | .string text => by rw [literal, InputValue.resolve]
  | .array items => by
      rw [literal, InputValue.resolve, resolveItems_literals scope path items]
      rfl
  | .object entries => by
      rw [literal, InputValue.resolve, resolveFields_literalFields scope path entries]
      rfl

theorem resolveItems_literals (scope : VariableScope) (path : String) :
    (documents : List Json) ->
      InputValue.resolveItems scope path (literals documents) = .ok documents
  | [] => by rw [literals, InputValue.resolveItems]
  | document :: documents => by
      rw [literals, InputValue.resolveItems, resolve_literal scope path document,
        resolveItems_literals scope path documents]
      rfl

theorem resolveFields_literalFields (scope : VariableScope) (path : String) :
    (entries : JsonEntries) ->
      InputValue.resolveFields scope path (literalFields entries) = .ok entries
  | [] => by rw [literalFields, InputValue.resolveFields]
  | (key, value) :: entries => by
      rw [literalFields, InputValue.resolveFields, resolve_literal scope path value,
        resolveFields_literalFields scope path entries]
      rfl

end

section Values

variable (scope : VariableScope) (path : String)

-- The recursion follows the value in which variables are written out.
mutual

/-- A value stands for what is left of it when its variables are written out, or for nothing. -/
theorem resolve_writeOut :
    (value : InputValue) ->
      value.resolve scope path =
        ((value.writeOut scope).map (·.resolve .empty path)).getD (.ok none)
  | .reference name => by
      rw [InputValue.resolve, InputValue.writeOut]
      cases scope.values.lookup name with
      | some document => exact (resolve_literal .empty path document).symm
      | none =>
          cases scope.declared.contains name with
          | true => rfl
          | false =>
              change _ = InputValue.resolve VariableScope.empty path (.reference name)
              rw [InputValue.resolve]
              rfl
  | .list items => by
      rw [InputValue.resolve, InputValue.writeOut, resolveItems_writeOut items, Option.map_some,
        Option.getD_some, InputValue.resolve]
  | .object fields => by
      rw [InputValue.resolve, InputValue.writeOut, resolveFields_writeOut fields, Option.map_some,
        Option.getD_some, InputValue.resolve]
  | .null => by simp only [InputValue.writeOut, InputValue.resolve, Option.map, Option.getD]
  | .bool value => by simp only [InputValue.writeOut, InputValue.resolve, Option.map, Option.getD]
  | .number value => by
      simp only [InputValue.writeOut, InputValue.resolve, Option.map, Option.getD]
  | .text content => by
      simp only [InputValue.writeOut, InputValue.resolve, Option.map, Option.getD]
  | .enumeration name => by
      simp only [InputValue.writeOut, InputValue.resolve, Option.map, Option.getD]

theorem resolveItems_writeOut :
    (items : List InputValue) ->
      InputValue.resolveItems scope path items =
        InputValue.resolveItems .empty path (InputValue.writeOutItems scope items)
  | [] => by rw [InputValue.resolveItems, InputValue.writeOutItems, InputValue.resolveItems]
  | item :: items => by
      rw [InputValue.resolveItems, InputValue.writeOutItems, InputValue.resolveItems,
        resolve_writeOut item, resolveItems_writeOut items]
      cases item.writeOut scope with
      | some written => rfl
      | none =>
          rw [Option.getD_none, InputValue.resolve]
          rfl

theorem resolveFields_writeOut :
    (fields : InputArguments) ->
      InputValue.resolveFields scope path fields =
        InputValue.resolveFields .empty path (InputValue.writeOutFields scope fields)
  | [] => by rw [InputValue.resolveFields, InputValue.writeOutFields, InputValue.resolveFields]
  | (name, value) :: fields => by
      rw [InputValue.resolveFields, InputValue.writeOutFields, resolve_writeOut value,
        resolveFields_writeOut fields]
      cases value.writeOut scope with
      | some written => rw [Option.map_some, Option.getD_some, InputValue.resolveFields]
      | none =>
          rw [Option.map_none, Option.getD_none]
          cases InputValue.resolveFields .empty path (InputValue.writeOutFields scope fields)
            <;> rfl

end

/-- Arguments stand for what is left of them. -/
theorem resolveArguments_writeOut (resolved : JsonEntries) (arguments : InputArguments) :
    resolveArguments scope path resolved arguments =
      resolveArguments .empty path resolved (InputValue.writeOutFields scope arguments) := by
  induction arguments generalizing resolved with
  | nil => rw [resolveArguments, InputValue.writeOutFields, resolveArguments]
  | cons argument arguments inductionHypothesis =>
      obtain ⟨name, value⟩ := argument
      rw [resolveArguments, InputValue.writeOutFields, resolve_writeOut scope _ value]
      cases value.writeOut scope with
      | some written =>
          rw [Option.map_some, Option.getD_some, resolveArguments]
          exact congrArg _ (funext fun document => inductionHypothesis _)
      | none => exact inductionHypothesis resolved

end Values

/-! ## Directives -/

section Directives

variable (scope : VariableScope) {name : String} {value : InputValue} {arguments : InputArguments}

/-- The first field of a name keeps its place before others of the name, if it is left. -/
theorem lookup_writeOutFields_of_some
    {written : InputValue}
    (found : arguments.lookup name = some value)
    (isWritten : value.writeOut scope = some written) :
    (InputValue.writeOutFields scope arguments).lookup name = some written := by
  induction arguments with
  | nil => cases found
  | cons argument arguments inductionHypothesis =>
      obtain ⟨first, other⟩ := argument
      rw [List.lookup_cons] at found
      rw [InputValue.writeOutFields]
      by_cases same : name = first
      · rw [beq_iff_eq.2 same] at found
        cases found
        rw [isWritten, List.lookup_cons, beq_iff_eq.2 same]
      · rw [beq_eq_false_iff_ne.2 same] at found
        cases other.writeOut scope with
        | none => exact inductionHypothesis found
        | some written =>
            rw [List.lookup_cons, beq_eq_false_iff_ne.2 same]
            exact inductionHypothesis found

theorem lookup_writeOutFields_of_none
    (absent : arguments.lookup name = none) :
    (InputValue.writeOutFields scope arguments).lookup name = none := by
  induction arguments with
  | nil => rfl
  | cons argument arguments inductionHypothesis =>
      obtain ⟨first, other⟩ := argument
      rw [List.lookup_cons] at absent
      rw [InputValue.writeOutFields]
      by_cases same : name = first
      · rw [beq_iff_eq.2 same] at absent
        cases absent
      · rw [beq_eq_false_iff_ne.2 same] at absent
        cases other.writeOut scope with
        | none => exact inductionHypothesis absent
        | some written =>
            rw [List.lookup_cons, beq_eq_false_iff_ne.2 same]
            exact inductionHypothesis absent

theorem lookup_filter_ne (name : String) (arguments : InputArguments) :
    (arguments.filter fun argument => argument.1 != name).lookup name = none := by
  rw [List.lookup_eq_none_iff]
  intro argument member
  have isOther := (List.mem_filter.1 member).2
  simpa [bne, Bool.beq_comm] using isOther

/-- The condition of a directive when its variables are written out: none, if it is a variable
without value. -/
theorem Directive.lookup_writeOut (directive : Directive) :
    (directive.writeOut scope).arguments.lookup conditionArgument =
      (directive.arguments.lookup conditionArgument).bind (·.writeOut scope) := by
  cases found : directive.arguments.lookup conditionArgument with
  | none =>
      have present : directive.lacksCondition scope = false := by rw [lacksCondition, found]
      rw [writeOut, present]
      exact lookup_writeOutFields_of_none scope found
  | some value =>
      cases isWritten : value.writeOut scope with
      | none =>
          have lacks : directive.lacksCondition scope = true := by
            rw [lacksCondition, found]
            exact congrArg Option.isNone isWritten
          rw [writeOut, lacks, Option.bind_some, isWritten]
          exact lookup_filter_ne _ _
      | some written =>
          have present : directive.lacksCondition scope = false := by
            rw [lacksCondition, found]
            exact congrArg Option.isNone isWritten
          rw [writeOut, present, Option.bind_some, isWritten]
          exact lookup_writeOutFields_of_some scope found isWritten

/-- A directive lets in what it lets in when its variables are written out, and fails with the same
error. -/
theorem Directive.admits_writeOut (path : String) (directive : Directive) :
    directive.admits scope path = (directive.writeOut scope).admits .empty path := by
  have sameName : (directive.writeOut scope).name = directive.name := rfl
  rw [admits, admits, sameName, lookup_writeOut]
  cases directive.arguments.lookup conditionArgument with
  | none => rfl
  | some value =>
      rw [Option.bind_some]
      dsimp only
      rw [resolve_writeOut scope _ value]
      cases value.writeOut scope <;> rfl

theorem admitted_writeOut (path : String) (directives : List Directive) :
    admitted scope path directives =
      admitted .empty path (directives.map (Directive.writeOut scope)) := by
  induction directives with
  | nil => rw [admitted, List.map_nil, admitted]
  | cons directive directives inductionHypothesis =>
      rw [admitted, List.map_cons, admitted, directive.admits_writeOut scope path,
        inductionHypothesis]

end Directives

/-! ## Selections -/

section Selections

variable (scope : VariableScope)

-- The recursion follows the item in which variables are written out.
mutual

/-- An item stands for the same fields when its variables are written out, if spreads do. -/
theorem resolve_writing (expand : Expansion) (spreading : List String) (path : String) :
    (item : SelectionItem) ->
      item.resolve scope expand spreading path =
        (scope.writing.item item).resolve .empty expand spreading path
  | .field label name arguments directives items => by
      rw [SelectionItem.resolve, Rewriting.item, SelectionItem.resolve,
        admitted_writeOut scope path directives]
      dsimp only
      rw [resolveArguments_writeOut scope, resolveItems_writing expand spreading _ items]
      rfl
  | .spread fragment directives => by
      rw [SelectionItem.resolve, Rewriting.item, SelectionItem.resolve,
        admitted_writeOut scope path directives]
      rfl
  | .inline directives items => by
      rw [SelectionItem.resolve, Rewriting.item, SelectionItem.resolve,
        admitted_writeOut scope path directives, resolveItems_writing expand spreading path items]
      rfl

theorem resolveItems_writing (expand : Expansion) (spreading : List String) (path : String) :
    (items : List SelectionItem) ->
      resolveItems scope expand spreading path items =
        resolveItems .empty expand spreading path (scope.writing.items items)
  | [] => by rw [resolveItems, Rewriting.items, resolveItems]
  | item :: items => by
      rw [resolveItems, Rewriting.items, resolveItems, resolve_writing expand spreading path item,
        resolveItems_writing expand spreading path items]

end

theorem find?_fragment (rewriting : Rewriting) (fragments : List FragmentDefinition)
    (name : String) :
    ((fragments.map rewriting.fragment).find? fun fragment => fragment.name == name) =
      (fragments.find? fun fragment => fragment.name == name).map rewriting.fragment := by
  rw [List.find?_map]
  rfl

/-- A fragment stands for the same fields when variables are written out in all fragments. -/
theorem expandFragment_writing (fragments : List FragmentDefinition) (fuel : Nat) :
    expandFragment scope fragments fuel =
      expandFragment .empty (fragments.map scope.writing.fragment) fuel := by
  induction fuel with
  | zero =>
      funext spreading path name
      rw [expandFragment, expandFragment, find?_fragment]
      cases fragments.find? fun fragment => fragment.name == name <;> rfl
  | succ fuel inductionHypothesis =>
      funext spreading path name
      rw [expandFragment, expandFragment, find?_fragment]
      cases fragments.find? fun fragment => fragment.name == name with
      | none => rfl
      | some fragment =>
          dsimp only [Option.map_some]
          rw [resolveItems_writing scope, inductionHypothesis]
          rfl

theorem resolveSelection_writing (fragments : List FragmentDefinition)
    (items : List SelectionItem) :
    resolveSelection scope fragments items =
      resolveSelection .empty (fragments.map scope.writing.fragment)
        (scope.writing.items items) := by
  rw [resolveSelection, resolveSelection, List.length_map, expandFragment_writing,
    resolveItems_writing]

end Selections

/-! ## Documents -/

/-- An operation is selected because it is the only one, or by its name. -/
theorem Document.select_eq_ok
    {document : Document}
    {operationName : Option String}
    {operation : OperationDefinition} :
    document.select operationName = .ok operation ↔
      (document.operations = [operation] ∧ (operationName = none ∨ operation.name = none)) ∨
        ∃ name, operationName = some name ∧ document.operation? name = some operation := by
  obtain ⟨operations, fragments⟩ := document
  rw [select.eq_def]
  split
  case h_1 only isOnly =>
    dsimp only at isOnly
    subst isOnly
    simp
  case h_2 isOnly =>
    dsimp only at isOnly
    subst isOnly
    simp only [operation?, List.find?_singleton]
    constructor
    · intro same
      cases same
      exact .inl ⟨rfl, .inr rfl⟩
    · rintro (⟨same, _⟩ | ⟨_, _, found⟩)
      · exact congrArg Except.ok (List.cons.inj same).1
      · cases found
  case h_3 name notUnnamed =>
    have notOnly : ¬(operations = [operation] ∧ operation.name = none) := by
      rintro ⟨rfl, unnamed⟩
      obtain ⟨type, _, declarations, directives, items⟩ := operation
      cases unnamed
      exact notUnnamed type declarations directives items rfl
    have byName : (⟨operations, fragments⟩ : Document).operations = [operation] ∧
        (some name = none ∨ operation.name = none) ↔ False := by
      simpa using notOnly
    rw [byName, false_or]
    simp only [Option.some.injEq, exists_eq_left']
    cases Document.operation? ⟨operations, fragments⟩ name <;> simp
  case h_4 notOnly =>
    constructor
    · intro impossible
      cases impossible
    · rintro (⟨only, _⟩ | ⟨_, impossible, _⟩)
      · exact (notOnly operation only).elim
      · cases impossible

/-- A rewritten document has the rewritten operation where the document has the operation. -/
theorem Document.select_rewriting
    (rewriting : Rewriting)
    {document : Document}
    {operationName : Option String}
    {operation : OperationDefinition}
    (selected : document.select operationName = .ok operation) :
    (rewriting.document document).select operationName = .ok (rewriting.operation operation) := by
  rw [select_eq_ok] at selected ⊢
  refine selected.imp ?_ ?_
  · rintro ⟨only, unnamed⟩
    refine ⟨?_, unnamed⟩
    rw [Rewriting.document, only]
    rfl
  · rintro ⟨name, isNamed, found⟩
    refine ⟨name, isNamed, ?_⟩
    rw [operation?] at found ⊢
    rw [Rewriting.document, List.find?_map]
    exact Option.map_eq_some_iff.2 ⟨operation, found, rfl⟩

/-- What an operation asks for, once its variables have values. -/
theorem OperationDefinition.resolve_eq
    {definition : OperationDefinition}
    {provided values : JsonEntries}
    (resolved : resolveVariables provided [] definition.declarations = .ok values)
    (fragments : List FragmentDefinition) :
    definition.resolve fragments provided = do
      let root ← definition.type.root
      let fields ← resolveSelection (definition.scope values) fragments definition.items
      return ⟨root, fields⟩ := by
  rw [resolve, resolved]
  rfl

/-- A document asks for the same when the variables of the selected operation are written out: for
the same fields, or it fails with the same error. -/
theorem variables_are_transparent
    {document : Document}
    {operationName : Option String}
    {provided values : JsonEntries}
    {operation : OperationDefinition}
    (selected : document.select operationName = .ok operation)
    (resolved : resolveVariables provided [] operation.declarations = .ok values) :
    ((operation.scope values).writing.document document).resolve operationName [] =
      document.resolve operationName provided := by
  have written := Document.select_rewriting (operation.scope values).writing selected
  have withoutVariables : resolveVariables [] []
      ((operation.scope values).writing.operation operation).declarations = .ok [] := by
    rw [Rewriting.operation, resolveVariables]
  rw [Document.resolve, Document.resolve, selected, written]
  change OperationDefinition.resolve _ _ _ = OperationDefinition.resolve _ _ _
  rw [OperationDefinition.resolve_eq resolved, OperationDefinition.resolve_eq withoutVariables,
    resolveSelection_writing (operation.scope values)]
  rfl

/-- A query for users with an integer `$least` that is 3 by default, a name, a limit that may be
left out, and a condition that may not. -/
def listing : OperationDefinition where
  type := .query
  name := some "Listing"
  declarations :=
    [ ⟨"least", true, [], some (.number (.int 3))⟩, ⟨"name", true, [], none⟩,
      ⟨"limit", true, [], none⟩, ⟨"full", false, [], none⟩ ]
  directives := []
  items :=
    [ .field none "users"
        [ ("where", .object
            [ ("id", .object [("gt", .reference "least"), ("lt", .reference "limit")]),
              ("name", .object [("eq", .reference "name")]) ]),
          ("limit", .reference "limit") ]
        []
        [ .spread "Latest" [],
          .inline [⟨"include", [("if", .reference "full")]⟩] [.field none "email" [] [] []] ] ]

/-- The posts in the listing, in a fragment. -/
def latestPosts : FragmentDefinition where
  name := "Latest"
  directives := []
  items :=
    [ .field (some "latest") "posts"
        [("where", .object
          [("id", .object [("inArray", .list [.reference "limit", .reference "least"])])])]
        [⟨"skip", [("if", .reference "full")]⟩]
        [.field none "title" [] [] []] ]

/-- The listing and its fragment, where the name is given as null and the condition as false. -/
def writtenListing : Document where
  operations :=
    [ { type := .query
        name := some "Listing"
        declarations := []
        directives := []
        items :=
          [ .field none "users"
              [("where", .object
                [ ("id", .object [("gt", .number (.int 3))]),
                  ("name", .object [("eq", .null)]) ])]
              []
              [ .spread "Latest" [],
                .inline [⟨"include", [("if", .bool false)]⟩] [.field none "email" [] [] []] ] ] } ]
  fragments :=
    [ { name := "Latest"
        directives := []
        items :=
          [ .field (some "latest") "posts"
              [("where", .object [("id", .object [("inArray", .list [.null, .number (.int 3)])])])]
              [⟨"skip", [("if", .bool false)]⟩]
              [.field none "title" [] [] []] ] } ]

theorem variables_are_transparent_listing :
    ∃ values,
      (⟨[listing], [latestPosts]⟩ : Document).select none = .ok listing ∧
      resolveVariables [("name", .null), ("full", .bool false)] [] listing.declarations
        = .ok values ∧
      (listing.scope values).writing.document ⟨[listing], [latestPosts]⟩ = writtenListing ∧
      writtenListing.resolve none [] =
        (⟨[listing], [latestPosts]⟩ : Document).resolve none
          [("name", .null), ("full", .bool false)] := by
  have resolved : resolveVariables [("name", .null), ("full", .bool false)] [] listing.declarations
      = .ok [("least", .number (.int 3)), ("name", .null), ("full", .bool false)] := by
    rfl
  have written : (listing.scope [("least", .number (.int 3)), ("name", .null),
      ("full", .bool false)]).writing.document ⟨[listing], [latestPosts]⟩ = writtenListing := by
    rfl
  refine ⟨_, rfl, resolved, written, ?_⟩
  rw [← written]
  exact variables_are_transparent rfl resolved

/-- A query that skips its field on a variable, and gives the condition once more behind it. -/
def skippedTwice : OperationDefinition where
  type := .query
  name := none
  declarations := [⟨"hidden", true, [], none⟩]
  directives := []
  items :=
    [ .field none "users" []
        [⟨"skip", [("if", .reference "hidden"), ("if", .bool false)]⟩]
        [.field none "id" [] [] []] ]

/-- Where the condition of a directive is a variable without value, the condition is missing, even
if it is given again.  It would not be missing if only the variable were deleted. -/
theorem not_writesOut_everywhere :
    (⟨[skippedTwice], []⟩ : Document).resolve none [] = .error (.missing "@skip.if") ∧
      ¬WritesOut VariableScope.everywhere := by
  have fails : (⟨[skippedTwice], []⟩ : Document).resolve none []
      = .error (.missing "@skip.if") := by
    rfl
  have passes : ((skippedTwice.scope []).everywhere.document ⟨[skippedTwice], []⟩).resolve none []
      = .ok ⟨.query, [{ name := "users", selection := [{ name := "id" }] }]⟩ := by
    rfl
  refine ⟨fails, fun writesOut => ?_⟩
  have same := writesOut ⟨[skippedTwice], []⟩ none [] [] skippedTwice rfl rfl
  rw [fails, passes] at same
  cases same

end Graphql
end RelationalApi
