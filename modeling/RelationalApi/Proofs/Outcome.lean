import Mathlib.Data.List.Forall2

/-!
# Outcomes of checked computations

What it means that a chain of steps succeeds, each of which may fail: every step succeeds, and the
later ones on the results of the earlier ones.
-/

namespace RelationalApi
namespace Outcome

variable {ε ζ α β : Type}

theorem bind_eq_ok
    {first : Except ε α}
    {next : α -> Except ε β}
    {result : β} :
    (first >>= next) = .ok result ↔ ∃ value, first = .ok value ∧ next value = .ok result := by
  cases first with
  | error fault => simp [bind, Except.bind]
  | ok value => simp [bind, Except.bind]

/-- A chain of steps fails where its first step does, or a later one on the result of the first. -/
theorem bind_eq_error
    {first : Except ε α}
    {next : α -> Except ε β}
    {fault : ε} :
    (first >>= next) = .error fault ↔
      first = .error fault ∨ ∃ value, first = .ok value ∧ next value = .error fault := by
  cases first with
  | error other => simp [bind, Except.bind]
  | ok value => simp [bind, Except.bind]

/-- A check in front of a computation has to pass. -/
theorem check_bind_eq_ok
    {check : Except ε Unit}
    {next : Except ε β}
    {result : β} :
    (check >>= fun _ => next) = .ok result ↔ check = .ok () ∧ next = .ok result := by
  cases check <;> simp [bind, Except.bind]

theorem pure_eq_ok {value result : α} :
    (pure value : Except ε α) = .ok result ↔ value = result := by
  simp [pure, Except.pure]

theorem mapError_eq_ok
    {outcome : Except ε α}
    {convert : ε -> ζ}
    {result : α} :
    outcome.mapError convert = .ok result ↔ outcome = .ok result := by
  cases outcome <;> simp [Except.mapError]

theorem toOption_pure (value : α) : (pure value : Except ε α).toOption = some value := rfl

theorem toOption_bind
    (first : Except ε α)
    (next : α -> Except ε β) :
    (first >>= next).toOption = first.toOption.bind fun value => (next value).toOption := by
  cases first <;> rfl

theorem toOption_eq_some
    {outcome : Except ε α}
    {result : α} :
    outcome.toOption = some result ↔ outcome = .ok result := by
  cases outcome <;> simp [Except.toOption]

/-- Converting the first result before the next step is like converting the last result, where the
steps correspond. -/
theorem map_bind_eq
    {γ δ : Type}
    {first : Except ε α}
    {convert : α -> γ}
    {next : γ -> Except ε δ}
    {last : α -> Except ε β}
    {finish : β -> δ}
    (same : ∀ value, next (convert value) = (last value).map finish) :
    (first.map convert >>= next) = (first >>= last).map finish := by
  cases first with
  | error fault => rfl
  | ok value => exact same value

/-- Steps over a list succeed when each of them does. -/
theorem mapM_eq_ok
    {step : α -> Except ε β}
    {items : List α}
    {results : List β} :
    items.mapM step = .ok results ↔
      List.Forall₂ (fun item result => step item = .ok result) items results := by
  induction items generalizing results with
  | nil =>
      rw [List.mapM_nil, pure_eq_ok, List.forall₂_nil_left_iff]
      exact eq_comm
  | cons item items inductionHypothesis =>
      simp only [List.mapM_cons, bind_eq_ok, pure_eq_ok, List.forall₂_cons_left_iff,
        inductionHypothesis]
      constructor
      · rintro ⟨value, stepped, others, rest, rfl⟩
        exact ⟨value, others, stepped, rest, rfl⟩
      · rintro ⟨value, others, stepped, rest, rfl⟩
        exact ⟨value, stepped, others, rest, rfl⟩

/-- Steps over a list that count the items succeed when each of them does, whatever its number. -/
theorem counted_eq_ok
    (run : Nat -> List α -> Except ε (List β))
    {step : Nat -> α -> Except ε β}
    {related : α -> β -> Prop}
    (run_nil : ∀ index, run index [] = .ok [])
    (run_cons : ∀ index item items, run index (item :: items) = do
      let result ← step index item
      let results ← run (index + 1) items
      return result :: results)
    (succeeds : ∀ index item result, step index item = .ok result ↔ related item result)
    {index : Nat}
    {items : List α}
    {results : List β} :
    run index items = .ok results ↔ List.Forall₂ related items results := by
  induction items generalizing index results with
  | nil =>
      rw [run_nil, List.forall₂_nil_left_iff, Except.ok.injEq]
      exact eq_comm
  | cons item items inductionHypothesis =>
      simp only [run_cons, bind_eq_ok, pure_eq_ok, succeeds, List.forall₂_cons_left_iff,
        inductionHypothesis]
      constructor
      · rintro ⟨result, first, others, rest, rfl⟩
        exact ⟨result, others, first, rest, rfl⟩
      · rintro ⟨result, others, first, rest, rfl⟩
        exact ⟨result, first, others, rest, rfl⟩

/-- Steps whose results are put one after another can be split where the list is. -/
theorem concatenated_append
    (run : List α -> Except ε (List β))
    {step : α -> Except ε (List β)}
    (run_nil : run [] = .ok [])
    (run_cons : ∀ item items, run (item :: items) = do
      let results ← step item
      let later ← run items
      return results ++ later)
    (items others : List α) :
    run (items ++ others) = do
      let results ← run items
      let later ← run others
      return results ++ later := by
  induction items with
  | nil =>
      rw [List.nil_append, run_nil]
      cases run others <;> rfl
  | cons item items inductionHypothesis =>
      simp only [List.cons_append, run_cons, inductionHypothesis, bind_assoc, pure_bind,
        List.append_assoc]

theorem mapM_congr
    {step other : α -> Except ε β}
    {items : List α}
    (same : ∀ item ∈ items, step item = other item) :
    items.mapM step = items.mapM other := by
  induction items with
  | nil => rfl
  | cons item items inductionHypothesis =>
      rw [List.forall_mem_cons] at same
      rw [List.mapM_cons, List.mapM_cons, same.1, inductionHypothesis same.2]

/-- Steps over a list fail only where one of them does. -/
theorem exists_of_mapM_eq_error
    {step : α -> Except ε β}
    {items : List α}
    {fault : ε}
    (failed : items.mapM step = .error fault) :
    ∃ item ∈ items, step item = .error fault := by
  induction items with
  | nil => cases failed
  | cons item items inductionHypothesis =>
      rw [List.mapM_cons, bind_eq_error] at failed
      rcases failed with first | ⟨_, _, later⟩
      · exact ⟨item, List.mem_cons_self, first⟩
      · rcases bind_eq_error.1 later with others | ⟨_, _, impossible⟩
        · obtain ⟨other, member, failedOther⟩ := inductionHypothesis others
          exact ⟨other, List.mem_cons_of_mem _ member, failedOther⟩
        · cases impossible

theorem exists_results
    {related : α -> β -> Prop}
    {items : List α}
    (succeeds : ∀ item ∈ items, ∃ result, related item result) :
    ∃ results, List.Forall₂ related items results := by
  induction items with
  | nil => exact ⟨[], .nil⟩
  | cons item items inductionHypothesis =>
      rw [List.forall_mem_cons] at succeeds
      obtain ⟨result, first⟩ := succeeds.1
      obtain ⟨results, others⟩ := inductionHypothesis succeeds.2
      exact ⟨result :: results, .cons first others⟩

theorem exists_mapM_eq_ok
    {step : α -> Except ε β}
    {items : List α}
    (succeeds : ∀ item ∈ items, ∃ result, step item = .ok result) :
    ∃ results, items.mapM step = .ok results := by
  obtain ⟨results, pairs⟩ := exists_results succeeds
  exact ⟨results, mapM_eq_ok.2 pairs⟩

/-- Every result of steps over a list comes from an item. -/
theorem exists_item
    {related : α -> β -> Prop}
    {items : List α}
    {results : List β}
    (pairs : List.Forall₂ related items results) :
    ∀ result ∈ results, ∃ item ∈ items, related item result := by
  induction pairs with
  | nil => simp
  | cons first _ inductionHypothesis =>
      refine List.forall_mem_cons.2 ⟨⟨_, List.mem_cons_self, first⟩, ?_⟩
      intro result member
      obtain ⟨item, itemMember, other⟩ := inductionHypothesis result member
      exact ⟨item, List.mem_cons_of_mem _ itemMember, other⟩

/-- The result at a position comes from the item there. -/
theorem exists_item_at
    {related : α -> β -> Prop}
    {items : List α}
    {results : List β}
    (pairs : List.Forall₂ related items results)
    {position : Nat}
    {result : β}
    (found : results[position]? = some result) :
    ∃ item, items[position]? = some item ∧ related item result := by
  induction pairs generalizing position with
  | nil => simp at found
  | @cons item first items results holds _ inductionHypothesis =>
      cases position with
      | zero =>
          rw [List.getElem?_cons_zero] at found
          cases found
          exact ⟨item, List.getElem?_cons_zero, holds⟩
      | succ position =>
          rw [List.getElem?_cons_succ] at found ⊢
          exact inductionHypothesis found

/-- Every item has a result of its own. -/
theorem exists_result
    {related : α -> β -> Prop}
    {items : List α}
    {results : List β}
    (pairs : List.Forall₂ related items results) :
    ∀ item ∈ items, ∃ result ∈ results, related item result := by
  induction pairs with
  | nil => simp
  | cons first _ inductionHypothesis =>
      refine List.forall_mem_cons.2 ⟨⟨_, List.mem_cons_self, first⟩, ?_⟩
      intro item member
      obtain ⟨result, resultMember, other⟩ := inductionHypothesis item member
      exact ⟨result, List.mem_cons_of_mem _ resultMember, other⟩

/-- The first items that pass a test are related where related items pass the test alike. -/
theorem rel_find?
    {related : α -> β -> Prop}
    {test : α -> Bool}
    {otherTest : β -> Bool}
    (alike : ∀ item other, related item other -> test item = otherTest other)
    {items : List α}
    {others : List β}
    (pairs : List.Forall₂ related items others) :
    Option.Rel related (items.find? test) (others.find? otherTest) := by
  induction pairs with
  | nil => exact .none
  | @cons item other items others first _ inductionHypothesis =>
      rw [List.find?_cons, List.find?_cons, alike item other first]
      cases otherTest other with
      | true => exact .some first
      | false => exact inductionHypothesis

/-- The first result of a name comes from the first item of the name, where steps keep names. -/
theorem find?_eq_some_iff
    {step : α -> Except ε β}
    {itemName : α -> String}
    {resultName : β -> String}
    (keepsName : ∀ item result, step item = .ok result -> resultName result = itemName item)
    {items : List α}
    {results : List β}
    (pairs : List.Forall₂ (fun item result => step item = .ok result) items results)
    {name : String}
    {result : β} :
    results.find? (fun result => resultName result == name) = some result ↔
      ∃ item, items.find? (fun item => itemName item == name) = some item ∧
        step item = .ok result := by
  have found : Option.Rel (fun item result => step item = .ok result)
      (items.find? fun item => itemName item == name)
      (results.find? fun result => resultName result == name) :=
    rel_find? (fun item result stepped => by rw [keepsName item result stepped]) pairs
  generalize items.find? _ = item at found ⊢
  generalize results.find? _ = other at found ⊢
  cases found with
  | none => simp
  | some stepped => simp [stepped]

/-- Lists are related in one step where they are in two, given that their items are. -/
theorem forall₂_trans
    {γ : Type}
    {first : α -> β -> Prop}
    {second : β -> γ -> Prop}
    {whole : α -> γ -> Prop}
    {items : List α}
    {middle : List β}
    {others : List γ}
    (step : ∀ item ∈ items, ∀ between other, first item between -> second between other ->
      whole item other)
    (pairs : List.Forall₂ first items middle)
    (otherPairs : List.Forall₂ second middle others) :
    List.Forall₂ whole items others := by
  induction pairs generalizing others with
  | nil =>
      cases otherPairs
      exact .nil
  | cons related _ inductionHypothesis =>
      rw [List.forall_mem_cons] at step
      cases otherPairs with
      | cons otherRelated otherPairs =>
          exact .cons (step.1 _ _ related otherRelated) (inductionHypothesis step.2 otherPairs)

/-- Lists that are related in two steps are so over a list in between. -/
theorem exists_between
    {γ : Type}
    {first : α -> β -> Prop}
    {second : β -> γ -> Prop}
    {items : List α}
    {others : List γ}
    (pairs : List.Forall₂ (fun item other => ∃ between, first item between ∧ second between other)
      items others) :
    ∃ middle, List.Forall₂ first items middle ∧ List.Forall₂ second middle others := by
  induction pairs with
  | nil => exact ⟨[], .nil, .nil⟩
  | cons related _ inductionHypothesis =>
      obtain ⟨between, firstRelated, secondRelated⟩ := related
      obtain ⟨middle, firsts, seconds⟩ := inductionHypothesis
      exact ⟨between :: middle, .cons firstRelated firsts, .cons secondRelated seconds⟩

theorem forM_eq_ok
    {check : α -> Except ε Unit}
    {items : List α} :
    items.forM check = .ok () ↔ ∀ item ∈ items, check item = .ok () := by
  induction items with
  | nil => simp [pure, Except.pure]
  | cons item items inductionHypothesis =>
      change (check item >>= fun _ => items.forM check) = .ok () ↔ _
      rw [bind_eq_ok, List.forall_mem_cons, inductionHypothesis]
      constructor
      · rintro ⟨_, checked, rest⟩
        exact ⟨checked, rest⟩
      · rintro ⟨checked, rest⟩
        exact ⟨(), checked, rest⟩

/-- Two computations agree when both succeed, with related results, or both fail. -/
inductive Agree (related : α -> β -> Prop) : Except ε α -> Except ζ β -> Prop
  | ok {value : α} {other : β} (holds : related value other) :
      Agree related (.ok value) (.ok other)
  | error {fault : ε} {other : ζ} : Agree related (.error fault) (.error other)

namespace Agree

variable {η γ δ : Type} {related : α -> β -> Prop}

theorem refl
    {related : α -> α -> Prop}
    (reflexive : ∀ value, related value value)
    (outcome : Except ε α) :
    Agree related outcome outcome := by
  cases outcome with
  | error fault => exact .error
  | ok value => exact .ok (reflexive value)

theorem mono
    {wider : α -> β -> Prop}
    {outcome : Except ε α}
    {other : Except ζ β}
    (agree : Agree related outcome other)
    (isWider : ∀ value result, related value result -> wider value result) :
    Agree wider outcome other := by
  cases agree with
  | ok holds => exact .ok (isWider _ _ holds)
  | error => exact .error

/-- Chains of steps agree when their steps do. -/
theorem bind
    {after : γ -> δ -> Prop}
    {outcome : Except ε α}
    {other : Except ζ β}
    {next : α -> Except ε γ}
    {otherNext : β -> Except ζ δ}
    (agree : Agree related outcome other)
    (step : ∀ value result, related value result -> Agree after (next value) (otherNext result)) :
    Agree after (outcome >>= next) (other >>= otherNext) := by
  cases agree with
  | ok holds => exact step _ _ holds
  | error => exact .error

theorem pure {value : α} {other : β} (holds : related value other) :
    Agree related (Pure.pure value : Except ε α) (Pure.pure other : Except ζ β) :=
  .ok holds

/-- Where one of two computations that agree succeeds, the other one does. -/
theorem exists_ok
    {outcome : Except ε α}
    {other : Except ζ β}
    (agree : Agree related outcome other)
    {value : α}
    (succeeds : outcome = .ok value) :
    ∃ result, other = .ok result ∧ related value result := by
  subst succeeds
  cases agree with
  | ok holds => exact ⟨_, rfl, holds⟩

theorem exists_ok_iff
    {outcome : Except ε α}
    {other : Except ζ β}
    (agree : Agree related outcome other) :
    (∃ value, outcome = .ok value) ↔ ∃ result, other = .ok result := by
  cases agree with
  | ok holds => exact ⟨fun _ => ⟨_, rfl⟩, fun _ => ⟨_, rfl⟩⟩
  | error =>
      constructor
      · rintro ⟨_, impossible⟩
        cases impossible
      · rintro ⟨_, impossible⟩
        cases impossible

/-- Steps over paired items agree when the steps of each pair do. -/
theorem mapM
    {items : List α}
    {others : List β}
    {paired : α -> β -> Prop}
    {after : γ -> δ -> Prop}
    {step : α -> Except ε γ}
    {otherStep : β -> Except ζ δ}
    (pairs : List.Forall₂ paired items others)
    (steps : ∀ item other, paired item other -> Agree after (step item) (otherStep other)) :
    Agree (List.Forall₂ after) (items.mapM step) (others.mapM otherStep) := by
  induction pairs with
  | nil => exact .ok .nil
  | cons first _ inductionHypothesis =>
      rw [List.mapM_cons, List.mapM_cons]
      refine (steps _ _ first).bind fun _ _ holds => ?_
      exact inductionHypothesis.bind fun _ _ others => .ok (.cons holds others)

end Agree

/-- Two computations end alike when both succeed, with related results, or both fail with one
fault. -/
inductive EndAlike (related : α -> β -> Prop) : Except ε α -> Except ε β -> Prop
  | ok {value : α} {other : β} (holds : related value other) :
      EndAlike related (.ok value) (.ok other)
  | error {fault : ε} : EndAlike related (.error fault) (.error fault)

namespace EndAlike

variable {γ δ : Type} {related : α -> β -> Prop}

theorem bind
    {last : γ -> δ -> Prop}
    {outcome : Except ε α}
    {other : Except ε β}
    {next : α -> Except ε γ}
    {otherNext : β -> Except ε δ}
    (alike : EndAlike related outcome other)
    (step : ∀ value result, outcome = .ok value -> other = .ok result -> related value result ->
      EndAlike last (next value) (otherNext result)) :
    EndAlike last (outcome >>= next) (other >>= otherNext) := by
  cases alike with
  | ok holds => exact step _ _ rfl rfl holds
  | error => exact .error

theorem mono
    {wider : α -> β -> Prop}
    {outcome : Except ε α}
    {other : Except ε β}
    (alike : EndAlike related outcome other)
    (isWider : ∀ value result, outcome = .ok value -> related value result -> wider value result) :
    EndAlike wider outcome other := by
  cases alike with
  | ok holds => exact .ok (isWider _ _ rfl holds)
  | error => exact .error

/-- Computations that begin with one step end alike when they do after it. -/
theorem after
    {last : γ -> δ -> Prop}
    {next : α -> Except ε γ}
    {otherNext : α -> Except ε δ}
    (outcome : Except ε α)
    (step : ∀ value, EndAlike last (next value) (otherNext value)) :
    EndAlike last (outcome >>= next) (outcome >>= otherNext) := by
  cases outcome with
  | error fault => exact .error
  | ok value => exact step value

end EndAlike

end Outcome
end RelationalApi
