import Mathlib.Data.List.Perm.Subperm
import RelationalApi.Graphql.Resolution
import RelationalApi.Proofs.Outcome

/-!
# Flattening

Resolution of a selection puts the fields of fragments in the place of their spreads.  Fragments
jump to other parts of a document, so what bounds the recursion is how many of them are not being
spread already.  As a relation between items and what becomes of them, flattening follows the
jumps without a bound; since it holds of what resolution gives, and of nothing else, the bound of
resolution is never what ends it.  An inline fragment in the place of a spread is flattened to the
same fields.
-/

namespace RelationalApi
namespace Graphql

open Outcome

/-! ## Flattening as a relation -/

/-- The directives of an item. -/
def SelectionItem.directives : SelectionItem -> List Directive
  | field _ _ _ directives _ => directives
  | spread _ directives => directives
  | inline directives _ => directives

/-- Items to flatten at a path, inside the fragments that are being spread. -/
structure Pending where
  spreading : List String
  path : String
  items : List SelectionItem

/-- What an item that is let in leads to: the items to flatten for it, and what becomes of their
fields. -/
def SelectionItem.inner (scope : VariableScope) (fragments : List FragmentDefinition)
    (spreading : List String) (path : String) :
    SelectionItem -> Except ArgumentError (Pending × (Selection -> Selection))
  | .field label name arguments _ items => do
      let resolved ← resolveArguments scope (extendPath path (label.getD name)) [] arguments
      return (⟨spreading, extendPath path (label.getD name), items⟩,
        fun selection => [⟨name, label, resolved, selection⟩])
  | .spread name _ =>
      match fragments.find? fun fragment => fragment.name == name with
      | none => .error (.invalid path (.unknownFragment name))
      | some fragment =>
          if name ∈ spreading then .error (.invalid path (.recursiveFragment name))
          else .ok (⟨name :: spreading, path, fragment.items⟩, id)
  | .inline _ items => .ok (⟨spreading, path, items⟩, id)

/-- What an item leads to, if it is not left out. -/
def SelectionItem.next? (scope : VariableScope) (fragments : List FragmentDefinition)
    (spreading : List String) (path : String) (item : SelectionItem) :
    Except ArgumentError (Option (Pending × (Selection -> Selection))) :=
  match admitted scope path item.directives with
  | .error fault => .error fault
  | .ok false => .ok none
  | .ok true => (item.inner scope fragments spreading path).map some

/-- How items are flattened: one after another, each by flattening what it leads to. -/
inductive Flattens (scope : VariableScope) (fragments : List FragmentDefinition) :
    Pending -> Except ArgumentError Selection -> Prop
  | nil {spreading : List String} {path : String} :
      Flattens scope fragments ⟨spreading, path, []⟩ (.ok [])
  | failed {spreading path item items fault} :
      item.next? scope fragments spreading path = .error fault ->
        Flattens scope fragments ⟨spreading, path, item :: items⟩ (.error fault)
  | excluded {spreading path item items outcome} :
      item.next? scope fragments spreading path = .ok none ->
        Flattens scope fragments ⟨spreading, path, items⟩ outcome ->
          Flattens scope fragments ⟨spreading, path, item :: items⟩ outcome
  | failedBelow {spreading path item items inner finish fault} :
      item.next? scope fragments spreading path = .ok (some (inner, finish)) ->
        Flattens scope fragments inner (.error fault) ->
          Flattens scope fragments ⟨spreading, path, item :: items⟩ (.error fault)
  | included {spreading path item items inner finish fields outcome} :
      item.next? scope fragments spreading path = .ok (some (inner, finish)) ->
        Flattens scope fragments inner (.ok fields) ->
          Flattens scope fragments ⟨spreading, path, items⟩ outcome ->
            Flattens scope fragments ⟨spreading, path, item :: items⟩
              (outcome.map (finish fields ++ ·))

section Flattening

variable {scope : VariableScope} {fragments : List FragmentDefinition} {pending : Pending}
variable {spreading : List String} {path name : String} {item : SelectionItem}
variable {items : List SelectionItem} {inner : Pending} {finish : Selection -> Selection}
variable {outcome others : Except ArgumentError Selection}

theorem SelectionItem.next?_eq_none :
    item.next? scope fragments spreading path = .ok none ↔
      admitted scope path item.directives = .ok false := by
  rw [next?]
  rcases admitted scope path item.directives with _ | _ | _
  · simp
  · simp
  · cases item.inner scope fragments spreading path <;> simp [Except.map]

theorem SelectionItem.next?_eq_some :
    item.next? scope fragments spreading path = .ok (some (inner, finish)) ↔
      admitted scope path item.directives = .ok true ∧
        item.inner scope fragments spreading path = .ok (inner, finish) := by
  rw [next?]
  rcases admitted scope path item.directives with _ | _ | _
  · simp
  · simp
  · cases item.inner scope fragments spreading path <;> simp [Except.map]

theorem SelectionItem.next?_eq_error {fault : ArgumentError} :
    item.next? scope fragments spreading path = .error fault ↔
      admitted scope path item.directives = .error fault ∨
        (admitted scope path item.directives = .ok true ∧
          item.inner scope fragments spreading path = .error fault) := by
  rw [next?]
  rcases admitted scope path item.directives with _ | _ | _
  · simp
  · simp
  · cases item.inner scope fragments spreading path <;> simp [Except.map]

/-- A spread leads to the items of its fragment, which is not being spread already. -/
theorem SelectionItem.inner_spread_eq_ok {directives : List Directive} :
    (SelectionItem.spread name directives).inner scope fragments spreading path
        = .ok (inner, finish) ↔
      ∃ fragment, (fragments.find? fun fragment => fragment.name == name) = some fragment ∧
        name ∉ spreading ∧ inner = ⟨name :: spreading, path, fragment.items⟩ ∧ finish = id := by
  rw [SelectionItem.inner]
  cases fragments.find? fun fragment => fragment.name == name with
  | none => simp
  | some fragment =>
      by_cases member : name ∈ spreading
      · simp [member]
      · simp [member, eq_comm]

/-- A spread fails where there is no such fragment, or it is being spread already. -/
theorem SelectionItem.inner_spread_eq_error
    {directives : List Directive}
    {fault : ArgumentError} :
    (SelectionItem.spread name directives).inner scope fragments spreading path = .error fault ↔
      ((fragments.find? fun fragment => fragment.name == name) = none ∧
          fault = .invalid path (.unknownFragment name)) ∨
        ∃ fragment, (fragments.find? fun fragment => fragment.name == name) = some fragment ∧
          name ∈ spreading ∧ fault = .invalid path (.recursiveFragment name) := by
  rw [SelectionItem.inner]
  cases fragments.find? fun fragment => fragment.name == name with
  | none => simp [eq_comm]
  | some fragment =>
      by_cases member : name ∈ spreading
      · simp [member, eq_comm]
      · simp [member]

/-- Items are flattened in one way only. -/
theorem Flattens.unique
    (flattens : Flattens scope fragments pending outcome)
    (again : Flattens scope fragments pending others) :
    outcome = others := by
  induction flattens generalizing others with
  | nil =>
      cases again
      rfl
  | failed leads =>
      cases again with
      | failed leadsAgain =>
          cases leads.symm.trans leadsAgain
          rfl
      | excluded leadsAgain _ => cases leads.symm.trans leadsAgain
      | failedBelow leadsAgain _ => cases leads.symm.trans leadsAgain
      | included leadsAgain _ _ => cases leads.symm.trans leadsAgain
  | excluded leads _ inductionHypothesis =>
      cases again with
      | failed leadsAgain => cases leads.symm.trans leadsAgain
      | excluded _ rest => exact inductionHypothesis rest
      | failedBelow leadsAgain _ => cases leads.symm.trans leadsAgain
      | included leadsAgain _ _ => cases leads.symm.trans leadsAgain
  | failedBelow leads _ inductionHypothesis =>
      cases again with
      | failed leadsAgain => cases leads.symm.trans leadsAgain
      | excluded leadsAgain _ => cases leads.symm.trans leadsAgain
      | failedBelow leadsAgain below =>
          cases leads.symm.trans leadsAgain
          exact inductionHypothesis below
      | included leadsAgain below _ =>
          cases leads.symm.trans leadsAgain
          cases inductionHypothesis below
  | included leads _ _ inductionHypothesis restHypothesis =>
      cases again with
      | failed leadsAgain => cases leads.symm.trans leadsAgain
      | excluded leadsAgain _ => cases leads.symm.trans leadsAgain
      | failedBelow leadsAgain below =>
          cases leads.symm.trans leadsAgain
          cases inductionHypothesis below
      | included leadsAgain below rest =>
          cases leads.symm.trans leadsAgain
          cases inductionHypothesis below
          rw [restHypothesis rest]

/-- How a single item is flattened: by flattening what it leads to. -/
inductive FlattensItem (scope : VariableScope) (fragments : List FragmentDefinition)
    (spreading : List String) (path : String) (item : SelectionItem) :
    Except ArgumentError Selection -> Prop
  | failed {fault : ArgumentError} :
      item.next? scope fragments spreading path = .error fault ->
        FlattensItem scope fragments spreading path item (.error fault)
  | excluded :
      item.next? scope fragments spreading path = .ok none ->
        FlattensItem scope fragments spreading path item (.ok [])
  | included {inner : Pending} {finish : Selection -> Selection}
      {outcome : Except ArgumentError Selection} :
      item.next? scope fragments spreading path = .ok (some (inner, finish)) ->
        Flattens scope fragments inner outcome ->
          FlattensItem scope fragments spreading path item (outcome.map finish)

/-- An item is flattened before the items behind it, unless it fails. -/
theorem FlattensItem.cons
    (first : FlattensItem scope fragments spreading path item outcome)
    (rest : Flattens scope fragments ⟨spreading, path, items⟩ others) :
    Flattens scope fragments ⟨spreading, path, item :: items⟩ (do
      let fields ← outcome
      let later ← others
      return fields ++ later) := by
  cases first with
  | failed leads => exact .failed leads
  | excluded leads =>
      have shape : (do
          let later ← others
          return [] ++ later) = others := by
        cases others <;> rfl
      exact shape.symm ▸ .excluded leads rest
  | @included inner finish outcome leads below =>
      cases outcome with
      | error fault => exact .failedBelow leads below
      | ok fields =>
          have shape : (do
              let later ← others
              return finish fields ++ later) = others.map (finish fields ++ ·) := by
            cases others <;> rfl
          exact shape.symm ▸ .included leads below rest

/-- An expansion does with spreads inside some fragments what flattening does. -/
structure Expansion.Follows (expand : Expansion) (scope : VariableScope)
    (fragments : List FragmentDefinition) (spreading : List String) : Prop where
  unknown : ∀ path name, (fragments.find? fun fragment => fragment.name == name) = none ->
    expand spreading path name = .error (.invalid path (.unknownFragment name))
  recursive : ∀ path name fragment,
    (fragments.find? fun fragment => fragment.name == name) = some fragment -> name ∈ spreading ->
      expand spreading path name = .error (.invalid path (.recursiveFragment name))
  known : ∀ path name fragment,
    (fragments.find? fun fragment => fragment.name == name) = some fragment -> name ∉ spreading ->
      Flattens scope fragments ⟨name :: spreading, path, fragment.items⟩
        (expand spreading path name)

/-- An item is flattened by what it leads to where its directives let it in. -/
theorem flattensItem_of_inner
    (item : SelectionItem)
    (fails : ∀ fault, item.inner scope fragments spreading path = .error fault ->
      .error fault = outcome)
    (leads : ∀ inner finish, item.inner scope fragments spreading path = .ok (inner, finish) ->
      ∃ below, Flattens scope fragments inner below ∧ below.map finish = outcome) :
    FlattensItem scope fragments spreading path item (do
      if ← admitted scope path item.directives then outcome else return []) := by
  cases admits : admitted scope path item.directives with
  | error fault => exact .failed (SelectionItem.next?_eq_error.2 (.inl admits))
  | ok isIncluded =>
      cases isIncluded with
      | false => exact .excluded (SelectionItem.next?_eq_none.2 admits)
      | true =>
          cases isInner : item.inner scope fragments spreading path with
          | error fault =>
              cases fails fault isInner
              exact .failed (SelectionItem.next?_eq_error.2 (.inr ⟨admits, isInner⟩))
          | ok pair =>
              obtain ⟨inner, finish⟩ := pair
              obtain ⟨below, flattens, rfl⟩ := leads inner finish isInner
              exact .included (SelectionItem.next?_eq_some.2 ⟨admits, isInner⟩) flattens

/-- A field is flattened where the items in its set are. -/
theorem flattensItem_field
    {expand : Expansion}
    {label : Option String}
    {arguments : InputArguments}
    {directives : List Directive}
    (below : Flattens scope fragments ⟨spreading, extendPath path (label.getD name), items⟩
      (resolveItems scope expand spreading (extendPath path (label.getD name)) items)) :
    FlattensItem scope fragments spreading path (.field label name arguments directives items)
      ((SelectionItem.field label name arguments directives items).resolve scope expand spreading
        path) := by
  rw [SelectionItem.resolve]
  refine flattensItem_of_inner (.field label name arguments directives items) ?_ ?_
  · intro fault failed
    rcases bind_eq_error.1 failed with notResolved | ⟨_, _, impossible⟩
    · dsimp only
      rw [notResolved]
      rfl
    · cases impossible
  · intro next finish leads
    obtain ⟨resolved, isResolved, same⟩ := bind_eq_ok.1 leads
    cases same
    refine ⟨_, below, ?_⟩
    dsimp only
    rw [isResolved]
    cases resolveItems scope expand spreading (extendPath path (label.getD name)) items <;> rfl

/-- A spread is flattened where the expansion follows the flattening. -/
theorem flattensItem_spread
    {expand : Expansion}
    {directives : List Directive}
    (follows : expand.Follows scope fragments spreading) :
    FlattensItem scope fragments spreading path (.spread name directives)
      ((SelectionItem.spread name directives).resolve scope expand spreading path) := by
  rw [SelectionItem.resolve]
  refine flattensItem_of_inner (.spread name directives) ?_ ?_
  · intro fault failed
    rcases SelectionItem.inner_spread_eq_error.1 failed with
      ⟨unknown, rfl⟩ | ⟨fragment, found, member, rfl⟩
    · exact (follows.unknown path name unknown).symm
    · exact (follows.recursive path name fragment found member).symm
  · intro next finish leads
    obtain ⟨fragment, found, fresh, rfl, rfl⟩ := SelectionItem.inner_spread_eq_ok.1 leads
    refine ⟨_, follows.known path name fragment found fresh, ?_⟩
    cases expand spreading path name <;> rfl

/-- An inline fragment is flattened where its items are. -/
theorem flattensItem_inline
    {expand : Expansion}
    {directives : List Directive}
    (below : Flattens scope fragments ⟨spreading, path, items⟩
      (resolveItems scope expand spreading path items)) :
    FlattensItem scope fragments spreading path (.inline directives items)
      ((SelectionItem.inline directives items).resolve scope expand spreading path) := by
  rw [SelectionItem.resolve]
  refine flattensItem_of_inner (.inline directives items) ?_ ?_
  · intro fault impossible
    cases impossible
  · intro next finish leads
    cases leads
    refine ⟨_, below, ?_⟩
    cases resolveItems scope expand spreading path items <;> rfl

-- The recursion follows the items; spreads are left to the expansion.
mutual

theorem flattensItem_resolve
    {expand : Expansion}
    (follows : expand.Follows scope fragments spreading) :
    (item : SelectionItem) -> (path : String) ->
      FlattensItem scope fragments spreading path item (item.resolve scope expand spreading path)
  | .field label name _ _ inner, path =>
      flattensItem_field (flattens_resolveItems follows inner (extendPath path (label.getD name)))
  | .spread _ _, _ => flattensItem_spread follows
  | .inline _ inner, path => flattensItem_inline (flattens_resolveItems follows inner path)

theorem flattens_resolveItems
    {expand : Expansion}
    (follows : expand.Follows scope fragments spreading) :
    (items : List SelectionItem) -> (path : String) ->
      Flattens scope fragments ⟨spreading, path, items⟩
        (resolveItems scope expand spreading path items)
  | [], path => by
      rw [resolveItems]
      exact .nil
  | item :: items, path => by
      rw [resolveItems]
      exact (flattensItem_resolve follows item path).cons (flattens_resolveItems follows items path)

end

/-- Fragments of different names cannot be more than there are fragments. -/
theorem length_le_of_fragments
    (distinct : spreading.Nodup)
    (defined : ∀ name ∈ spreading, ∃ fragment ∈ fragments, fragment.name = name) :
    spreading.length ≤ fragments.length := by
  have subset : spreading ⊆ fragments.map (·.name) := by
    intro name member
    obtain ⟨fragment, isFragment, isNamed⟩ := defined name member
    exact List.mem_map.2 ⟨fragment, isFragment, isNamed⟩
  simpa using (List.subperm_of_subset distinct subset).length_le

/-- The fuel is enough as long as it counts the fragments that are not being spread. -/
theorem follows_expandFragment
    {fuel : Nat}
    (distinct : spreading.Nodup)
    (defined : ∀ name ∈ spreading, ∃ fragment ∈ fragments, fragment.name = name)
    (enough : fragments.length ≤ fuel + spreading.length) :
    (expandFragment scope fragments fuel).Follows scope fragments spreading := by
  induction fuel generalizing spreading with
  | zero =>
      constructor
      · intro path name unknown
        rw [expandFragment, unknown]
      · intro path name fragment found member
        rw [expandFragment, found]
      · -- All fragments are being spread already, this one included.
        intro path name fragment found fresh
        have isDefined := List.mem_of_find?_eq_some found
        have isNamed : fragment.name = name := by simpa using List.find?_some found
        have atMost := @length_le_of_fragments fragments (name :: spreading)
          (List.nodup_cons.2 ⟨fresh, distinct⟩)
          (List.forall_mem_cons.2 ⟨⟨fragment, isDefined, isNamed⟩, defined⟩)
        rw [List.length_cons] at atMost
        omega
  | succ fuel inductionHypothesis =>
      constructor
      · intro path name unknown
        rw [expandFragment, unknown]
      · intro path name fragment found member
        rw [expandFragment, found]
        exact if_pos (List.contains_iff_mem.2 member)
      · intro path name fragment found fresh
        have isDefined := List.mem_of_find?_eq_some found
        have isNamed : fragment.name = name := by simpa using List.find?_some found
        have follows := inductionHypothesis (List.nodup_cons.2 ⟨fresh, distinct⟩)
          (List.forall_mem_cons.2 ⟨⟨fragment, isDefined, isNamed⟩, defined⟩)
          (by rw [List.length_cons]; omega)
        rw [expandFragment, found]
        dsimp only
        rw [if_neg (fun member => fresh (List.contains_iff_mem.1 member))]
        exact flattens_resolveItems follows fragment.items path

/-- Flattening always ends, and ends as resolution does. -/
theorem flattens_iff_resolveSelection :
    Flattens scope fragments ⟨[], "", items⟩ outcome ↔
      resolveSelection scope fragments items = outcome := by
  have flattens :
      Flattens scope fragments ⟨[], "", items⟩ (resolveSelection scope fragments items) :=
    flattens_resolveItems (follows_expandFragment .nil (by simp) (by simp)) items ""
  constructor
  · intro other
    exact flattens.unique other
  · rintro rfl
    exact flattens

end Flattening

/-! ## Spreads replaced by what they stand for -/

/-- The second item is the first one with spreads replaced, any of them and at any depth.  In the
place of a spread is an inline fragment with the directives of the spread and the items of the
fragment, in which spreads may be replaced in turn. -/
inductive Inlines (fragments : List FragmentDefinition) : SelectionItem -> SelectionItem -> Prop
  | field {label : Option String} {name : String} {arguments : InputArguments}
      {directives : List Directive} {items others : List SelectionItem} :
      List.Forall₂ (Inlines fragments) items others ->
        Inlines fragments (.field label name arguments directives items)
          (.field label name arguments directives others)
  | kept {name : String} {directives : List Directive} :
      Inlines fragments (.spread name directives) (.spread name directives)
  | replaced {name : String} {directives : List Directive} {fragment : FragmentDefinition}
      {others : List SelectionItem} :
      (fragments.find? fun fragment => fragment.name == name) = some fragment ->
        List.Forall₂ (Inlines fragments) fragment.items others ->
          Inlines fragments (.spread name directives) (.inline directives others)
  | inline {directives : List Directive} {items others : List SelectionItem} :
      List.Forall₂ (Inlines fragments) items others ->
        Inlines fragments (.inline directives items) (.inline directives others)

/-- The second fragment is the first one with spreads replaced. -/
structure FragmentDefinition.Inlines (fragments : List FragmentDefinition)
    (fragment other : FragmentDefinition) : Prop where
  name : fragment.name = other.name
  items : List.Forall₂ (Graphql.Inlines fragments) fragment.items other.items

section Inlining

variable {scope : VariableScope} {fragments inlined : List FragmentDefinition}
variable {spreading fewer : List String} {path : String} {item other : SelectionItem}
variable {items others : List SelectionItem} {pending inner : Pending}
variable {finish : Selection -> Selection} {fields : Selection}

mutual

/-- Replacing no spread is a way to replace some. -/
theorem Inlines.refl (fragments : List FragmentDefinition) :
    (item : SelectionItem) -> Inlines fragments item item
  | .field _ _ _ _ items => .field (Inlines.refl_items fragments items)
  | .spread _ _ => .kept
  | .inline _ items => .inline (Inlines.refl_items fragments items)

theorem Inlines.refl_items (fragments : List FragmentDefinition) :
    (items : List SelectionItem) -> List.Forall₂ (Inlines fragments) items items
  | [] => .nil
  | item :: items => .cons (Inlines.refl fragments item) (Inlines.refl_items fragments items)

end

theorem Inlines.directives_eq (inlines : Inlines fragments item other) :
    other.directives = item.directives := by
  cases inlines <;> rfl

/-- What items lead to with spreads replaced: to items with spreads replaced, at the same path and
inside no other fragments. -/
structure Pending.Inlines (fragments : List FragmentDefinition) (pending other : Pending) :
    Prop where
  path : other.path = pending.path
  spreading : other.spreading ⊆ pending.spreading
  items : List.Forall₂ (Graphql.Inlines fragments) pending.items other.items

/-- An item with spreads replaced leads to what the item leads to, with spreads replaced. -/
theorem exists_inner_of_inlines
    (definitions : List.Forall₂ (FragmentDefinition.Inlines fragments) fragments inlined)
    (inlines : Inlines fragments item other)
    (subset : fewer ⊆ spreading)
    (leads : item.inner scope fragments spreading path = .ok (inner, finish)) :
    ∃ otherInner, other.inner scope inlined fewer path = .ok (otherInner, finish) ∧
      inner.Inlines fragments otherInner := by
  cases inlines with
  | field pairs =>
      obtain ⟨resolved, isResolved, same⟩ := bind_eq_ok.1 leads
      cases same
      exact ⟨_, bind_eq_ok.2 ⟨resolved, isResolved, rfl⟩, rfl, subset, pairs⟩
  | inline pairs =>
      cases leads
      exact ⟨_, rfl, rfl, subset, pairs⟩
  | @kept name directives =>
      have found : Option.Rel (FragmentDefinition.Inlines fragments)
          (fragments.find? fun fragment => fragment.name == name)
          (inlined.find? fun fragment => fragment.name == name) :=
        rel_find? (fun first second inlines => by rw [inlines.name]) definitions
      obtain ⟨fragment, isFragment, fresh, rfl, rfl⟩ := SelectionItem.inner_spread_eq_ok.1 leads
      rw [isFragment] at found
      generalize isOther : inlined.find? _ = otherFragment at found
      cases found with
      | some inlines =>
          exact ⟨_, SelectionItem.inner_spread_eq_ok.2
            ⟨_, isOther, fun member => fresh (subset member), rfl, rfl⟩,
            rfl, List.cons_subset_cons name subset, inlines.items⟩
  | replaced found pairs =>
      obtain ⟨fragment, isFragment, _, rfl, rfl⟩ := SelectionItem.inner_spread_eq_ok.1 leads
      cases found.symm.trans isFragment
      exact ⟨_, rfl, rfl, fun _ member => List.mem_cons_of_mem _ (subset member), pairs⟩

/-- An item that is left out is so with spreads replaced. -/
theorem next?_none_of_inlines
    (inlines : Inlines fragments item other)
    (leads : item.next? scope fragments spreading path = .ok none) :
    other.next? scope inlined fewer path = .ok none := by
  rw [SelectionItem.next?_eq_none] at leads ⊢
  rw [inlines.directives_eq]
  exact leads

/-- An item that is let in is so with spreads replaced. -/
theorem exists_next?_of_inlines
    (definitions : List.Forall₂ (FragmentDefinition.Inlines fragments) fragments inlined)
    (inlines : Inlines fragments item other)
    (subset : fewer ⊆ spreading)
    (leads : item.next? scope fragments spreading path = .ok (some (inner, finish))) :
    ∃ otherInner, other.next? scope inlined fewer path = .ok (some (otherInner, finish)) ∧
      inner.Inlines fragments otherInner := by
  obtain ⟨admits, isInner⟩ := SelectionItem.next?_eq_some.1 leads
  obtain ⟨otherInner, isOther, inlinesInner⟩ :=
    exists_inner_of_inlines definitions inlines subset isInner
  refine ⟨otherInner, SelectionItem.next?_eq_some.2 ⟨?_, isOther⟩, inlinesInner⟩
  rw [inlines.directives_eq]
  exact admits

/-- Items with spreads replaced are flattened to the same fields.  A spread that is replaced is no
longer inside its fragment, which only makes failures rarer. -/
theorem Flattens.of_inlines
    {outcome : Except ArgumentError Selection}
    {replaced : Pending}
    (definitions : List.Forall₂ (FragmentDefinition.Inlines fragments) fragments inlined)
    (flattens : Flattens scope fragments pending outcome)
    (succeeds : outcome = .ok fields)
    (inlines : pending.Inlines fragments replaced) :
    Flattens scope inlined replaced (.ok fields) := by
  -- The induction follows the jumps to fragments, where spreads are replaced as in the operation.
  induction flattens generalizing fields replaced with
  | nil =>
      cases succeeds
      obtain ⟨_, _, otherItems⟩ := replaced
      obtain ⟨rfl, subset, pairs⟩ := inlines
      cases pairs
      exact .nil
  | failed => cases succeeds
  | failedBelow => cases succeeds
  | excluded leads _ inductionHypothesis =>
      obtain ⟨_, _, otherItems⟩ := replaced
      obtain ⟨rfl, subset, pairs⟩ := inlines
      cases pairs with
      | cons first pairs =>
          refine .excluded (next?_none_of_inlines first leads) (inductionHypothesis succeeds ?_)
          exact ⟨rfl, subset, pairs⟩
  | @included _ _ _ _ _ _ _ outcome leads _ _ belowHypothesis inductionHypothesis =>
      obtain ⟨_, _, otherItems⟩ := replaced
      obtain ⟨rfl, subset, pairs⟩ := inlines
      cases outcome with
      | error fault => cases succeeds
      | ok later =>
          cases succeeds
          cases pairs with
          | cons first pairs =>
              obtain ⟨otherInner, otherLeads, inlinesInner⟩ :=
                exists_next?_of_inlines definitions first subset leads
              refine .included otherLeads (belowHypothesis rfl inlinesInner)
                (inductionHypothesis rfl ?_)
              exact ⟨rfl, subset, pairs⟩

end Inlining

end Graphql
end RelationalApi
