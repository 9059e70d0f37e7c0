import Mathlib.Logic.Relation
import RelationalApi.Proofs.Graphql.Flattening

/-!
# Fragments

What cannot be flattened is a fragment that is spread inside itself, directly or through other
fragments.  In a document with nothing else wrong those are the only failures, and only spreads
that directives let in count.  A fragment may be spread as often as one likes next to itself.
-/

namespace RelationalApi
namespace Graphql

open Outcome

/-! ## Items at all depths -/

/-- The items in the set of an item. -/
def SelectionItem.items : SelectionItem -> List SelectionItem
  | field _ _ _ _ items => items
  | spread _ _ => []
  | inline _ items => items

/-- The arguments of an item. -/
def SelectionItem.arguments : SelectionItem -> InputArguments
  | field _ _ arguments _ _ => arguments
  | spread _ _ => []
  | inline _ _ => []

/-- An item stands among others or in their sets, at any depth, where the directives of the item and
of all items around it pass. -/
inductive Occurs (passes : List Directive -> Prop) : List SelectionItem -> SelectionItem -> Prop
  | here {items : List SelectionItem} {item : SelectionItem} :
      item ∈ items -> passes item.directives -> Occurs passes items item
  | inside {items : List SelectionItem} {outer item : SelectionItem} :
      outer ∈ items -> passes outer.directives -> Occurs passes outer.items item ->
        Occurs passes items item

mutual

/-- The variables in a value. -/
def InputValue.references : InputValue -> List String
  | .reference name => [name]
  | .list items => InputValue.referencesItems items
  | .object fields => InputValue.referencesFields fields
  | .null => []
  | .bool _ => []
  | .number _ => []
  | .text _ => []
  | .enumeration _ => []

def InputValue.referencesItems : List InputValue -> List String
  | [] => []
  | item :: items => item.references ++ InputValue.referencesItems items

def InputValue.referencesFields : InputArguments -> List String
  | [] => []
  | (_, value) :: fields => value.references ++ InputValue.referencesFields fields

end

/-- A value is the condition itself, or a variable whose value it is. -/
inductive InputValue.Means (scope : VariableScope) (condition : Bool) : InputValue -> Prop
  | given : Means scope condition (.bool condition)
  | held {name : String} :
      scope.values.lookup name = some (.bool condition) -> Means scope condition (.reference name)

/-- A directive is one of the two that exist, has a condition, and lets items in or not. -/
inductive Directive.Decides (scope : VariableScope) (directive : Directive) : Bool -> Prop
  | included {condition : Bool} {value : InputValue} :
      directive.name = "include" ->
        directive.arguments.lookup conditionArgument = some value -> value.Means scope condition ->
          Decides scope directive condition
  | skipped {condition : Bool} {value : InputValue} :
      directive.name = "skip" ->
        directive.arguments.lookup conditionArgument = some value -> value.Means scope condition ->
          Decides scope directive (!condition)

/-- All of the directives let items in. -/
def LetIn (scope : VariableScope) (directives : List Directive) : Prop :=
  ∀ directive ∈ directives, directive.Decides scope true

/-- Nothing is wrong with an item by itself: the fragment that it spreads is defined, its directives
have conditions, and the variables in its arguments are declared. -/
structure SelectionItem.Valid (scope : VariableScope) (fragments : List FragmentDefinition)
    (item : SelectionItem) : Prop where
  defined : ∀ name directives, item = .spread name directives ->
    ∃ fragment, (fragments.find? fun fragment => fragment.name == name) = some fragment
  conditions : ∀ directive ∈ item.directives, ∃ isIncluded, directive.Decides scope isIncluded
  declared : InputValue.referencesFields item.arguments ⊆ scope.declared

/-- Nothing is wrong with any item among others and in their sets. -/
def ItemsValid (scope : VariableScope) (fragments : List FragmentDefinition)
    (items : List SelectionItem) : Prop :=
  ∀ item, Occurs (fun _ => True) items item -> item.Valid scope fragments

section Validity

variable {scope : VariableScope} {fragments : List FragmentDefinition}
variable {spreading : List String} {path : String} {item : SelectionItem}
variable {items : List SelectionItem}

mutual

/-- A value whose variables are declared stands for a document, or for none. -/
theorem exists_resolve_of_declared
    (path : String) :
    (value : InputValue) -> value.references ⊆ scope.declared ->
      ∃ document, value.resolve scope path = .ok document
  | .reference name, declared => by
      have isDeclared : scope.declared.contains name = true := by
        rw [InputValue.references] at declared
        exact List.contains_iff_mem.2 (declared List.mem_cons_self)
      rw [InputValue.resolve, isDeclared]
      cases scope.values.lookup name with
      | some document => exact ⟨_, rfl⟩
      | none => exact ⟨_, rfl⟩
  | .list items, declared => by
      rw [InputValue.references] at declared
      obtain ⟨documents, resolved⟩ := exists_resolveItems_of_declared path items declared
      exact ⟨_, by rw [InputValue.resolve]; exact bind_eq_ok.2 ⟨documents, resolved, rfl⟩⟩
  | .object fields, declared => by
      rw [InputValue.references] at declared
      obtain ⟨entries, resolved⟩ := exists_resolveFields_of_declared path fields declared
      exact ⟨_, by rw [InputValue.resolve]; exact bind_eq_ok.2 ⟨entries, resolved, rfl⟩⟩
  | .null, _ => ⟨_, by rw [InputValue.resolve]⟩
  | .bool _, _ => ⟨_, by rw [InputValue.resolve]⟩
  | .number _, _ => ⟨_, by rw [InputValue.resolve]⟩
  | .text _, _ => ⟨_, by rw [InputValue.resolve]⟩
  | .enumeration _, _ => ⟨_, by rw [InputValue.resolve]⟩

theorem exists_resolveItems_of_declared
    (path : String) :
    (items : List InputValue) -> InputValue.referencesItems items ⊆ scope.declared ->
      ∃ documents, InputValue.resolveItems scope path items = .ok documents
  | [], _ => ⟨_, by rw [InputValue.resolveItems]⟩
  | item :: items, declared => by
      rw [InputValue.referencesItems, List.append_subset] at declared
      obtain ⟨document, resolved⟩ := exists_resolve_of_declared path item declared.1
      obtain ⟨documents, others⟩ := exists_resolveItems_of_declared path items declared.2
      rw [InputValue.resolveItems, resolved, others]
      exact ⟨_, rfl⟩

theorem exists_resolveFields_of_declared
    (path : String) :
    (fields : InputArguments) -> InputValue.referencesFields fields ⊆ scope.declared ->
      ∃ entries, InputValue.resolveFields scope path fields = .ok entries
  | [], _ => ⟨_, by rw [InputValue.resolveFields]⟩
  | (name, value) :: fields, declared => by
      rw [InputValue.referencesFields, List.append_subset] at declared
      obtain ⟨document, resolved⟩ := exists_resolve_of_declared path value declared.1
      obtain ⟨entries, others⟩ := exists_resolveFields_of_declared path fields declared.2
      rw [InputValue.resolveFields, resolved, others]
      exact ⟨_, rfl⟩

end

/-- Arguments whose variables are declared stand for entries. -/
theorem exists_resolveArguments_of_declared
    {arguments : InputArguments}
    (declared : InputValue.referencesFields arguments ⊆ scope.declared)
    (path : String)
    (resolved : JsonEntries) :
    ∃ entries, resolveArguments scope path resolved arguments = .ok entries := by
  induction arguments generalizing resolved with
  | nil => exact ⟨resolved, by rw [resolveArguments]⟩
  | cons argument arguments inductionHypothesis =>
      obtain ⟨name, value⟩ := argument
      rw [InputValue.referencesFields, List.append_subset] at declared
      obtain ⟨document, isResolved⟩ :=
        exists_resolve_of_declared (extendPath path name) value declared.1
      rw [resolveArguments, isResolved]
      exact inductionHypothesis declared.2 _

theorem InputValue.Means.resolve_eq
    {condition : Bool}
    {value : InputValue}
    (means : value.Means scope condition)
    (path : String) :
    value.resolve scope path = .ok (some (.bool condition)) := by
  cases means with
  | given => rw [InputValue.resolve]
  | held found => rw [InputValue.resolve, found]

/-- A directive that decides does so wherever it stands. -/
theorem Directive.Decides.admits_eq
    {directive : Directive}
    {isIncluded : Bool}
    (decides : directive.Decides scope isIncluded)
    (path : String) :
    directive.admits scope path = .ok isIncluded := by
  cases decides with
  | included named found means =>
      rw [Directive.admits, named, found]
      dsimp only
      rw [means.resolve_eq]
      cases isIncluded <;> rfl
  | @skipped condition value named found means =>
      rw [Directive.admits, named, found]
      dsimp only
      rw [means.resolve_eq]
      cases condition <;> rfl

/-- Directives with conditions let an item in exactly where all of them do. -/
theorem exists_admitted_eq
    {directives : List Directive}
    (conditions : ∀ directive ∈ directives, ∃ isIncluded, directive.Decides scope isIncluded)
    (path : String) :
    ∃ isIncluded, admitted scope path directives = .ok isIncluded ∧
      (isIncluded = true ↔ LetIn scope directives) := by
  induction directives with
  | nil => exact ⟨true, by rw [admitted], by simp [LetIn]⟩
  | cons directive directives inductionHypothesis =>
      rw [List.forall_mem_cons] at conditions
      obtain ⟨⟨isIncluded, decides⟩, others⟩ := conditions
      rw [admitted, decides.admits_eq path, LetIn, List.forall_mem_cons]
      cases isIncluded with
      | true =>
          obtain ⟨areIncluded, admits, letIn⟩ := inductionHypothesis others
          exact ⟨areIncluded, admits, letIn.trans (iff_and_self.2 fun _ => decides)⟩
      | false =>
          refine ⟨false, rfl, iff_of_false Bool.false_ne_true fun letIn => ?_⟩
          cases (letIn.1.admits_eq path).symm.trans (decides.admits_eq path)

/-- Directives that all let an item in let it in wherever it stands. -/
theorem LetIn.admitted_eq
    {directives : List Directive}
    (letIn : LetIn scope directives)
    (path : String) :
    admitted scope path directives = .ok true := by
  obtain ⟨isIncluded, admits, decided⟩ :=
    exists_admitted_eq (fun directive member => ⟨true, letIn directive member⟩) path
  rwa [decided.2 letIn] at admits

theorem SelectionItem.Valid.exists_admitted_eq
    (valid : item.Valid scope fragments)
    (path : String) :
    ∃ isIncluded, admitted scope path item.directives = .ok isIncluded ∧
      (isIncluded = true ↔ LetIn scope item.directives) :=
  Graphql.exists_admitted_eq valid.conditions path

/-- What is flattened in the place of a valid item is let in. -/
theorem SelectionItem.Valid.letIn
    {leads : Pending × (Selection -> Selection)}
    (valid : item.Valid scope fragments)
    (isNext : item.next? scope fragments spreading path = .ok (some leads)) :
    LetIn scope item.directives := by
  obtain ⟨isIncluded, admits, decided⟩ := valid.exists_admitted_eq path
  have isAdmitted := (next?_eq_some.1 isNext).1
  rw [admits] at isAdmitted
  exact decided.1 (Except.ok.inj isAdmitted)

/-- The one failure of a valid item is a spread of a fragment that is being spread. -/
theorem SelectionItem.Valid.eq_of_next?_eq_error
    {fault : ArgumentError}
    (valid : item.Valid scope fragments)
    (failed : item.next? scope fragments spreading path = .error fault) :
    ∃ name directives, item = .spread name directives ∧ LetIn scope directives ∧
      name ∈ spreading ∧ fault = .invalid path (.recursiveFragment name) := by
  obtain ⟨isIncluded, admits, decided⟩ := valid.exists_admitted_eq path
  rcases next?_eq_error.1 failed with impossible | ⟨isAdmitted, failed⟩
  · cases admits.symm.trans impossible
  · rw [admits] at isAdmitted
    have letIn := decided.1 (Except.ok.inj isAdmitted)
    cases item with
    | field label name arguments directives items =>
        obtain ⟨entries, resolved⟩ := exists_resolveArguments_of_declared valid.declared
          (extendPath path (label.getD name)) []
        rcases bind_eq_error.1 failed with impossible | ⟨_, _, impossible⟩
        · cases resolved.symm.trans impossible
        · cases impossible
    | spread name directives =>
        rcases inner_spread_eq_error.1 failed with ⟨unknown, _⟩ | ⟨_, _, member, isFault⟩
        · obtain ⟨fragment, found⟩ := valid.defined name directives rfl
          cases unknown.symm.trans found
        · exact ⟨name, directives, rfl, letIn, member, isFault⟩
    | inline directives items => cases failed

end Validity

/-! ## Chains of spreads -/

/-- A fragment is spread by one of the items, at some depth, where directives let that in. -/
def Spreads (scope : VariableScope) (items : List SelectionItem) (name : String) : Prop :=
  ∃ directives, Occurs (LetIn scope) items (.spread name directives)

/-- The first fragment spreads the second one. -/
def Leads (scope : VariableScope) (fragments : List FragmentDefinition) (first second : String) :
    Prop :=
  ∃ fragment, (fragments.find? fun fragment => fragment.name == first) = some fragment ∧
    Spreads scope fragment.items second

/-- A chain of spreads leads from items to a fragment. -/
def Reaches (scope : VariableScope) (fragments : List FragmentDefinition)
    (items : List SelectionItem) (name : String) : Prop :=
  ∃ first, Spreads scope items first ∧ Relation.ReflTransGen (Leads scope fragments) first name

section Chains

variable {scope : VariableScope} {fragments : List FragmentDefinition}
variable {spreading : List String} {path name first second : String}
variable {item outer : SelectionItem} {items : List SelectionItem} {inner pending : Pending}
variable {finish : Selection -> Selection} {fields : Selection}

/-- What an item leads to are the items in its set, unless it is a spread. -/
theorem SelectionItem.eq_of_inner_eq_ok
    {passes : List Directive -> Prop}
    (leads : outer.inner scope fragments spreading path = .ok (inner, finish))
    (occurs : Occurs passes outer.items item) :
    ∃ innerPath, inner = ⟨spreading, innerPath, outer.items⟩ := by
  cases outer with
  | field label name arguments directives items =>
      obtain ⟨_, _, same⟩ := bind_eq_ok.1 leads
      cases same
      exact ⟨_, rfl⟩
  | spread name directives => cases occurs <;> contradiction
  | inline directives items =>
      cases leads
      exact ⟨_, rfl⟩

/-- Where items are flattened, so is what each of them leads to. -/
theorem Flattens.exists_inner
    (flattens : Flattens scope fragments ⟨spreading, path, items⟩ (.ok fields))
    (member : item ∈ items)
    (letIn : LetIn scope item.directives) :
    ∃ inner finish below, item.inner scope fragments spreading path = .ok (inner, finish) ∧
      Flattens scope fragments inner (.ok below) := by
  generalize isPending : (⟨spreading, path, items⟩ : Pending) = pending at flattens
  generalize isOutcome : (Except.ok fields : Except ArgumentError Selection) = outcome at flattens
  induction flattens generalizing items fields with
  | nil =>
      cases isPending
      cases member
  | failed => cases isOutcome
  | failedBelow => cases isOutcome
  | excluded leads _ inductionHypothesis =>
      cases isPending
      cases member with
      | head =>
          have isAdmitted := letIn.admitted_eq path
          rw [SelectionItem.next?_eq_none.1 leads] at isAdmitted
          cases isAdmitted
      | tail _ member => exact inductionHypothesis member rfl isOutcome
  | @included _ _ _ _ _ _ _ outcome leads below _ _ inductionHypothesis =>
      cases isPending
      cases member with
      | head => exact ⟨_, _, _, (SelectionItem.next?_eq_some.1 leads).2, below⟩
      | tail _ member =>
          cases outcome with
          | error fault => cases isOutcome
          | ok later => exact inductionHypothesis member rfl rfl

/-- A fragment is flattened inside other fragments. -/
def FlattensInside (scope : VariableScope) (fragments : List FragmentDefinition)
    (spreading : List String) (name : String) : Prop :=
  ∃ fragment path fields,
    (fragments.find? fun fragment => fragment.name == name) = some fragment ∧
      Flattens scope fragments ⟨name :: spreading, path, fragment.items⟩ (.ok fields)

/-- Where items are flattened, so is every fragment that they spread, and it is not being spread
already. -/
theorem Flattens.inside_of_spreads
    (flattens : Flattens scope fragments ⟨spreading, path, items⟩ (.ok fields))
    (spreads : Spreads scope items name) :
    name ∉ spreading ∧ FlattensInside scope fragments spreading name := by
  obtain ⟨directives, occurs⟩ := spreads
  generalize isItem : SelectionItem.spread name directives = item at occurs
  induction occurs generalizing path fields with
  | here member letIn =>
      subst isItem
      obtain ⟨inner, finish, below, isInner, flattensBelow⟩ := flattens.exists_inner member letIn
      obtain ⟨fragment, found, fresh, rfl, _⟩ := SelectionItem.inner_spread_eq_ok.1 isInner
      exact ⟨fresh, fragment, path, below, found, flattensBelow⟩
  | inside member letIn occurs inductionHypothesis =>
      obtain ⟨inner, finish, below, isInner, flattensBelow⟩ := flattens.exists_inner member letIn
      obtain ⟨innerPath, rfl⟩ := SelectionItem.eq_of_inner_eq_ok isInner occurs
      exact inductionHypothesis flattensBelow isItem

/-- Where a fragment is flattened, so is the next one in a chain, inside one fragment more. -/
theorem FlattensInside.next
    (flattens : FlattensInside scope fragments spreading first)
    (leads : Leads scope fragments first second) :
    second ∉ first :: spreading ∧ FlattensInside scope fragments (first :: spreading) second := by
  obtain ⟨fragment, path, fields, found, flattens⟩ := flattens
  obtain ⟨other, isOther, spreads⟩ := leads
  cases found.symm.trans isOther
  exact flattens.inside_of_spreads spreads

/-- Where a fragment is flattened, so are those further along a chain, and they are not the
fragment itself. -/
theorem FlattensInside.along
    (flattens : FlattensInside scope fragments spreading first)
    (chain : Relation.TransGen (Leads scope fragments) first second) :
    ∃ deeper, first ∈ deeper ∧ second ∉ deeper ∧ FlattensInside scope fragments deeper second := by
  -- The fragments that are being spread only become more along the chain.
  induction chain with
  | single leads =>
      obtain ⟨fresh, inside⟩ := flattens.next leads
      exact ⟨_, List.mem_cons_self, fresh, inside⟩
  | tail _ leads inductionHypothesis =>
      obtain ⟨deeper, member, _, inside⟩ := inductionHypothesis
      obtain ⟨fresh, further⟩ := inside.next leads
      exact ⟨_, List.mem_cons_of_mem _ member, fresh, further⟩

/-- A fragment that is flattened does not lead back to itself. -/
theorem FlattensInside.not_cyclic (flattens : FlattensInside scope fragments spreading name) :
    ¬Relation.TransGen (Leads scope fragments) name name := by
  intro chain
  obtain ⟨deeper, member, fresh, _⟩ := flattens.along chain
  exact fresh member

/-- Where items are flattened, so is every fragment that they reach. -/
theorem Flattens.inside_of_reaches
    (flattens : Flattens scope fragments ⟨spreading, path, items⟩ (.ok fields))
    (reaches : Reaches scope fragments items name) :
    ∃ deeper, FlattensInside scope fragments deeper name := by
  obtain ⟨first, spreads, chain⟩ := reaches
  have inside := (flattens.inside_of_spreads spreads).2
  rcases Relation.reflTransGen_iff_eq_or_transGen.1 chain with rfl | chain
  · exact ⟨spreading, inside⟩
  · obtain ⟨deeper, _, _, further⟩ := inside.along chain
    exact ⟨deeper, further⟩

/-! ## Failures of valid documents -/

theorem Occurs.of_tail
    {passes : List Directive -> Prop}
    {other : SelectionItem}
    (occurs : Occurs passes items other) :
    Occurs passes (item :: items) other := by
  cases occurs with
  | here member holds => exact .here (List.mem_cons_of_mem _ member) holds
  | inside member holds occurs => exact .inside (List.mem_cons_of_mem _ member) holds occurs

theorem Reaches.of_tail (reaches : Reaches scope fragments items name) :
    Reaches scope fragments (item :: items) name := by
  obtain ⟨first, ⟨directives, occurs⟩, chain⟩ := reaches
  exact ⟨first, ⟨directives, occurs.of_tail⟩, chain⟩

theorem Reaches.of_below
    (letIn : LetIn scope item.directives)
    (reaches : Reaches scope fragments item.items name) :
    Reaches scope fragments (item :: items) name := by
  obtain ⟨first, ⟨directives, occurs⟩, chain⟩ := reaches
  exact ⟨first, ⟨directives, .inside List.mem_cons_self letIn occurs⟩, chain⟩

theorem Reaches.of_spread
    {directives : List Directive}
    (letIn : LetIn scope directives)
    (chain : Relation.ReflTransGen (Leads scope fragments) first second) :
    Reaches scope fragments (.spread first directives :: items) second :=
  ⟨first, ⟨directives, .here List.mem_cons_self letIn⟩, chain⟩

theorem ItemsValid.nil : ItemsValid scope fragments [] := by
  intro item occurs
  cases occurs <;> contradiction

/-- Items are valid where each is, by itself and in its set. -/
theorem itemsValid_cons :
    ItemsValid scope fragments (item :: items) ↔
      item.Valid scope fragments ∧ ItemsValid scope fragments item.items ∧
        ItemsValid scope fragments items := by
  constructor
  · intro valid
    refine ⟨valid item (.here List.mem_cons_self trivial), ?_, ?_⟩
    · exact fun other occurs => valid other (.inside List.mem_cons_self trivial occurs)
    · exact fun other occurs => valid other occurs.of_tail
  · rintro ⟨valid, below, tail⟩ other (⟨member, _⟩ | ⟨member, _, occurs⟩)
    · rcases List.mem_cons.1 member with rfl | member
      · exact valid
      · exact tail other (.here member trivial)
    · rcases List.mem_cons.1 member with rfl | member
      · exact below other occurs
      · exact tail other (.inside member trivial occurs)

/-- From items a chain of spreads leads to a fragment that is being spread already, or that leads
back to itself. -/
def ReachesCycle (scope : VariableScope) (fragments : List FragmentDefinition)
    (pending : Pending) : Prop :=
  ∃ name, Reaches scope fragments pending.items name ∧
    (name ∈ pending.spreading ∨ Relation.TransGen (Leads scope fragments) name name)

theorem ReachesCycle.of_tail (reaches : ReachesCycle scope fragments ⟨spreading, path, items⟩) :
    ReachesCycle scope fragments ⟨spreading, path, item :: items⟩ := by
  obtain ⟨name, reaches, cyclic⟩ := reaches
  exact ⟨name, reaches.of_tail, cyclic⟩

/-- A chain from the items of a fragment is a chain from its spread.  If it leads back to that
fragment, the fragment leads back to itself. -/
theorem ReachesCycle.of_spread
    {directives : List Directive}
    {fragment : FragmentDefinition}
    (found : (fragments.find? fun fragment => fragment.name == name) = some fragment)
    (letIn : LetIn scope directives)
    (reaches : ReachesCycle scope fragments ⟨name :: spreading, path, fragment.items⟩) :
    ReachesCycle scope fragments ⟨spreading, path, .spread name directives :: items⟩ := by
  obtain ⟨last, ⟨first, spreads, chain⟩, cyclic⟩ := reaches
  have further : Relation.TransGen (Leads scope fragments) name last :=
    .head' ⟨fragment, found, spreads⟩ chain
  rcases cyclic with member | cyclic
  · rcases List.mem_cons.1 member with rfl | member
    · exact ⟨last, .of_spread letIn .refl, .inr further⟩
    · exact ⟨last, .of_spread letIn further.to_reflTransGen, .inl member⟩
  · exact ⟨last, .of_spread letIn further.to_reflTransGen, .inr cyclic⟩

/-- A chain from what a valid item leads to is a chain from the item. -/
theorem ReachesCycle.of_inner
    (valid : item.Valid scope fragments)
    (isNext : item.next? scope fragments spreading path = .ok (some (inner, finish)))
    (reaches : ReachesCycle scope fragments inner) :
    ReachesCycle scope fragments ⟨spreading, path, item :: items⟩ := by
  have letIn := valid.letIn isNext
  have isInner := (SelectionItem.next?_eq_some.1 isNext).2
  cases item with
  | spread name directives =>
      obtain ⟨fragment, found, _, rfl, _⟩ := SelectionItem.inner_spread_eq_ok.1 isInner
      exact reaches.of_spread found letIn
  | field label name arguments directives inside =>
      obtain ⟨_, _, same⟩ := bind_eq_ok.1 isInner
      cases same
      obtain ⟨last, reaches, cyclic⟩ := reaches
      exact ⟨last, reaches.of_below letIn, cyclic⟩
  | inline directives inside =>
      cases isInner
      obtain ⟨last, reaches, cyclic⟩ := reaches
      exact ⟨last, reaches.of_below letIn, cyclic⟩

/-- What a valid item leads to is valid. -/
theorem ItemsValid.of_inner
    (definitions : ∀ fragment ∈ fragments, ItemsValid scope fragments fragment.items)
    (valid : ItemsValid scope fragments item.items)
    (isInner : item.inner scope fragments spreading path = .ok (inner, finish)) :
    ItemsValid scope fragments inner.items := by
  cases item with
  | spread name directives =>
      obtain ⟨fragment, found, _, rfl, _⟩ := SelectionItem.inner_spread_eq_ok.1 isInner
      exact definitions fragment (List.mem_of_find?_eq_some found)
  | field label name arguments directives items =>
      obtain ⟨_, _, same⟩ := bind_eq_ok.1 isInner
      cases same
      exact valid
  | inline directives items =>
      cases isInner
      exact valid

/-- In a valid document, flattening fails only at a fragment that is spread inside itself, at the
end of a chain of spreads that are let in. -/
theorem Flattens.recursive_of_valid
    {outcome : Except ArgumentError Selection}
    {fault : ArgumentError}
    (definitions : ∀ fragment ∈ fragments, ItemsValid scope fragments fragment.items)
    (flattens : Flattens scope fragments pending outcome)
    (failed : outcome = .error fault)
    (valid : ItemsValid scope fragments pending.items) :
    (∃ path name, fault = .invalid path (.recursiveFragment name)) ∧
      ReachesCycle scope fragments pending := by
  -- The chain is built from its end, at the failure, back to the items.
  induction flattens with
  | nil => cases failed
  | failed isNext =>
      cases failed
      obtain ⟨name, directives, rfl, letIn, member, rfl⟩ :=
        (itemsValid_cons.1 valid).1.eq_of_next?_eq_error isNext
      exact ⟨⟨_, name, rfl⟩, name, .of_spread letIn .refl, .inl member⟩
  | excluded _ _ inductionHypothesis =>
      obtain ⟨recursive, reaches⟩ := inductionHypothesis failed (itemsValid_cons.1 valid).2.2
      exact ⟨recursive, reaches.of_tail⟩
  | failedBelow isNext _ inductionHypothesis =>
      cases failed
      obtain ⟨itself, below, _⟩ := itemsValid_cons.1 valid
      obtain ⟨recursive, reaches⟩ := inductionHypothesis rfl
        (below.of_inner definitions (SelectionItem.next?_eq_some.1 isNext).2)
      exact ⟨recursive, reaches.of_inner itself isNext⟩
  | @included _ _ _ _ _ _ _ outcome _ _ _ _ inductionHypothesis =>
      cases outcome with
      | ok later => cases failed
      | error other =>
          cases failed
          obtain ⟨recursive, reaches⟩ := inductionHypothesis rfl (itemsValid_cons.1 valid).2.2
          exact ⟨recursive, reaches.of_tail⟩

/-- In a valid document, resolution fails with a fragment that spreads itself exactly where a chain
of spreads leads from the operation to a fragment, and from there back to it. -/
theorem resolveSelection_recursive_iff
    (valid : ItemsValid scope fragments items)
    (definitions : ∀ fragment ∈ fragments, ItemsValid scope fragments fragment.items) :
    (∃ path name, resolveSelection scope fragments items
        = .error (.invalid path (.recursiveFragment name))) ↔
      ∃ name, Reaches scope fragments items name ∧
        Relation.TransGen (Leads scope fragments) name name := by
  have flattens :
      Flattens scope fragments ⟨[], "", items⟩ (resolveSelection scope fragments items) :=
    flattens_iff_resolveSelection.2 rfl
  constructor
  · rintro ⟨path, name, failed⟩
    obtain ⟨_, last, reaches, cyclic⟩ := flattens.recursive_of_valid definitions failed valid
    exact ⟨last, reaches, cyclic.resolve_left List.not_mem_nil⟩
  · rintro ⟨name, reaches, cyclic⟩
    cases outcome : resolveSelection scope fragments items with
    | error fault =>
        obtain ⟨⟨path, name, rfl⟩, _⟩ := flattens.recursive_of_valid definitions outcome valid
        exact ⟨path, name, rfl⟩
    | ok fields =>
        rw [outcome] at flattens
        obtain ⟨deeper, inside⟩ := flattens.inside_of_reaches reaches
        exact (inside.not_cyclic cyclic).elim

/-- Flattening ends for all items, also those of fragments that refer to each other in a cycle, and
ends as resolution does.  Where resolution succeeds, it succeeds with the same fields when spreads
are replaced by inline fragments, in the operation and in the fragments.  In a document with nothing
else wrong, it fails with a fragment that spreads itself exactly where there is one, at the end of a
chain of spreads that are let in. -/
theorem resolveSelection_spreads
    (scope : VariableScope)
    (fragments : List FragmentDefinition)
    (items : List SelectionItem) :
    (∀ outcome, Flattens scope fragments ⟨[], "", items⟩ outcome ↔
      resolveSelection scope fragments items = outcome) ∧
    (∀ fields inlined others, resolveSelection scope fragments items = .ok fields ->
      List.Forall₂ (FragmentDefinition.Inlines fragments) fragments inlined ->
        List.Forall₂ (Inlines fragments) items others ->
          resolveSelection scope inlined others = .ok fields) ∧
    (ItemsValid scope fragments items ->
      (∀ fragment ∈ fragments, ItemsValid scope fragments fragment.items) ->
        ((∃ path name, resolveSelection scope fragments items
            = .error (.invalid path (.recursiveFragment name))) ↔
          ∃ name, Reaches scope fragments items name ∧
            Relation.TransGen (Leads scope fragments) name name)) := by
  refine ⟨fun outcome => flattens_iff_resolveSelection, ?_, resolveSelection_recursive_iff⟩
  intro fields inlined others succeeds definitions pairs
  have flattens : Flattens scope fragments ⟨[], "", items⟩ (.ok fields) :=
    flattens_iff_resolveSelection.2 succeeds
  exact flattens_iff_resolveSelection.1
    (flattens.of_inlines definitions rfl ⟨rfl, List.Subset.refl _, pairs⟩)

end Chains

/-- The posts of an author, and on demand what their comments show of other authors. -/
def authorFragment : FragmentDefinition where
  name := "Author"
  directives := []
  items :=
    [ .field none "name" [] [] [],
      .spread "Replies" [⟨"include", [("if", .reference "deep")]⟩] ]

/-- The replies of an author, with their authors. -/
def repliesFragment : FragmentDefinition where
  name := "Replies"
  directives := []
  items := [.field none "replies" [] [] [.spread "Author" []]]

/-- The replies of an author, where the fragment for authors is written out. -/
def inlinedReplies : FragmentDefinition :=
  { repliesFragment with
    items := [.field none "replies" [] [] [.inline [] authorFragment.items]] }

/-- A document in which authors are spread twice. -/
def spreadAuthors : List SelectionItem :=
  [.field none "users" [] [] [.spread "Author" [], .spread "Author" []]]

/-- The document with one of the spreads written out. -/
def inlinedAuthors : List SelectionItem :=
  [.field none "users" [] [] [.inline [] authorFragment.items, .spread "Author" []]]

/-- The scope in which authors show what replies show of authors, or do not. -/
def authorScope (isDeep : Bool) : VariableScope := ⟨["deep"], [("deep", .bool isDeep)]⟩

theorem itemsValid_authors (isDeep : Bool) :
    ItemsValid (authorScope isDeep) [authorFragment, repliesFragment] spreadAuthors ∧
      ∀ fragment ∈ [authorFragment, repliesFragment],
        ItemsValid (authorScope isDeep) [authorFragment, repliesFragment] fragment.items := by
  have field (name : String) (items : List SelectionItem) :
      (SelectionItem.field none name [] [] items).Valid (authorScope isDeep)
        [authorFragment, repliesFragment] :=
    ⟨nofun, nofun, nofun⟩
  have author : (SelectionItem.spread "Author" []).Valid (authorScope isDeep)
      [authorFragment, repliesFragment] :=
    ⟨fun name directives same => by cases same; exact ⟨authorFragment, rfl⟩, nofun, nofun⟩
  have replies : (SelectionItem.spread "Replies" [⟨"include", [("if", .reference "deep")]⟩]).Valid
      (authorScope isDeep) [authorFragment, repliesFragment] := by
    refine ⟨fun name directives same => by cases same; exact ⟨repliesFragment, rfl⟩, ?_, nofun⟩
    exact List.forall_mem_singleton.2 ⟨isDeep, .included rfl rfl (.held rfl)⟩
  refine ⟨?_, List.forall_mem_cons.2 ⟨?_, List.forall_mem_singleton.2 ?_⟩⟩
  · have authors := itemsValid_cons.2 ⟨author, .nil, itemsValid_cons.2 ⟨author, .nil, .nil⟩⟩
    exact itemsValid_cons.2 ⟨field "users" _, authors, .nil⟩
  · exact itemsValid_cons.2
      ⟨field "name" [], .nil, itemsValid_cons.2 ⟨replies, .nil, .nil⟩⟩
  · exact itemsValid_cons.2
      ⟨field "replies" _, itemsValid_cons.2 ⟨author, .nil, .nil⟩, .nil⟩

theorem resolveSelection_spreads_authors :
    Flattens (authorScope false) [authorFragment, repliesFragment] ⟨[], "", spreadAuthors⟩
        (.ok [{ name := "users", selection := [{ name := "name" }, { name := "name" }] }]) ∧
      resolveSelection (authorScope false) [authorFragment, inlinedReplies] inlinedAuthors
        = .ok [{ name := "users", selection := [{ name := "name" }, { name := "name" }] }] ∧
      ∃ path name, resolveSelection (authorScope true) [authorFragment, repliesFragment]
        spreadAuthors = .error (.invalid path (.recursiveFragment name)) := by
  have shallow := resolveSelection_spreads (authorScope false) [authorFragment, repliesFragment]
    spreadAuthors
  have deep := resolveSelection_spreads (authorScope true) [authorFragment, repliesFragment]
    spreadAuthors
  have succeeds : resolveSelection (authorScope false) [authorFragment, repliesFragment]
      spreadAuthors
      = .ok [{ name := "users", selection := [{ name := "name" }, { name := "name" }] }] := by
    rfl
  refine ⟨(shallow.1 _).2 succeeds, ?_, ?_⟩
  · refine shallow.2.1 _ [authorFragment, inlinedReplies] inlinedAuthors succeeds ?_ ?_
    · have author : authorFragment.Inlines [authorFragment, repliesFragment] authorFragment :=
        ⟨rfl, Inlines.refl_items _ _⟩
      have replies : repliesFragment.Inlines [authorFragment, repliesFragment] inlinedReplies :=
        ⟨rfl, .cons (.field (.cons (.replaced rfl (Inlines.refl_items _ _)) .nil)) .nil⟩
      exact .cons author (.cons replies .nil)
    · exact .cons (.field (.cons (.replaced rfl (Inlines.refl_items _ _)) (.cons .kept .nil))) .nil
  · obtain ⟨valid, definitions⟩ := itemsValid_authors true
    have included : LetIn (authorScope true) [⟨"include", [("if", .reference "deep")]⟩] :=
      List.forall_mem_singleton.2 (.included rfl rfl (.held rfl))
    have first : Leads (authorScope true) [authorFragment, repliesFragment] "Author" "Replies" :=
      ⟨authorFragment, rfl, _, .here (.tail _ (.head _)) included⟩
    have second : Leads (authorScope true) [authorFragment, repliesFragment] "Replies" "Author" :=
      ⟨repliesFragment, rfl, [], .inside (.head _) nofun (.here (.head _) nofun)⟩
    have start : Spreads (authorScope true) spreadAuthors "Author" :=
      ⟨[], .inside (.head _) nofun (.here (.head _) nofun)⟩
    exact (deep.2.2 valid definitions).2
      ⟨"Author", ⟨"Author", start, .refl⟩, .tail (.single first) second⟩

end Graphql
end RelationalApi
