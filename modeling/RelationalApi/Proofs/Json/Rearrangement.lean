import Mathlib.Data.List.Perm.Basic
import RelationalApi.Proofs.Json.Entries
import RelationalApi.Proofs.Json.Equality
import RelationalApi.Proofs.Outcome

/-!
# Rearranged documents

A document is rearranged by putting the entries of objects in another order, at any depth.  Look-ups
in rearranged objects find rearranged values, and equality of documents does not see the order.
-/

namespace RelationalApi
namespace Json

/-- Induction over a document and all documents inside it. -/
theorem inside_induction
    {motive : Json -> Prop}
    (step : ∀ document,
      (∀ items, document = .array items -> ∀ item ∈ items, motive item) ->
        (∀ entries, document = .object entries -> ∀ entry ∈ entries, motive entry.2) ->
          motive document)
    (document : Json) :
    motive document := by
  refine step document ?_ ?_
  · intro items isArray item member
    have smaller := List.sizeOf_lt_of_mem member
    exact inside_induction step item
  · intro entries isObject entry member
    have smaller := List.sizeOf_lt_of_mem member
    have isInside : sizeOf entry.2 < sizeOf entry := by
      cases entry
      simp only [Prod.mk.sizeOf_spec]
      omega
    exact inside_induction step entry.2
termination_by sizeOf document
decreasing_by
  · rw [isArray, Json.array.sizeOf_spec]
    omega
  · rw [isObject, Json.object.sizeOf_spec]
    omega

mutual

/-- Two documents differ at most in the order of the entries of objects at any depth.  Objects whose
entries are reordered have distinct keys. -/
inductive Rearranged : Json -> Json -> Prop
  | same (document : Json) : Rearranged document document
  | array
      {items others : List Json}
      (pairs : List.Forall₂ Rearranged items others) :
      Rearranged (.array items) (.array others)
  | object
      {entries between others : JsonEntries}
      (distinct : entries.keys.Nodup)
      (reordered : entries.Perm between)
      (pairs : List.Forall₂ EntryRearranged between others) :
      Rearranged (.object entries) (.object others)

/-- Two entries have one key and values that are rearranged. -/
inductive EntryRearranged : String × Json -> String × Json -> Prop
  | entry (key : String) {value other : Json} (values : Rearranged value other) :
      EntryRearranged (key, value) (key, other)

end

end Json

/-- Objects of distinct keys have the same keys, and related values under each of them. -/
structure JsonEntries.Match (related : Json -> Json -> Prop) (entries others : JsonEntries) :
    Prop where
  distinct : entries.keys.Nodup
  keys_perm : entries.keys.Perm others.keys
  forth : ∀ key value, (key, value) ∈ entries ->
    ∃ other, (key, other) ∈ others ∧ related value other
  back : ∀ key other, (key, other) ∈ others ->
    ∃ value, (key, value) ∈ entries ∧ related value other

namespace JsonEntries.Match

variable {related : Json -> Json -> Prop} {entries others : JsonEntries}

theorem otherDistinct (isMatch : Match related entries others) : others.keys.Nodup :=
  isMatch.keys_perm.nodup isMatch.distinct

theorem length_eq (isMatch : Match related entries others) : entries.length = others.length := by
  have same := isMatch.keys_perm.length_eq
  rwa [keys, keys, List.length_map, List.length_map] at same

/-- Look-ups find related values. -/
theorem lookup (isMatch : Match related entries others) (key : String) :
    Option.Rel related (entries.lookup key) (others.lookup key) := by
  have sameKeys : (entries.lookup key).isSome = true ↔ (others.lookup key).isSome = true := by
    rw [isSome_lookup_iff, isSome_lookup_iff, isMatch.keys_perm.mem_iff]
  cases found : entries.lookup key with
  | none =>
      rw [found] at sameKeys
      cases foundOther : others.lookup key with
      | none => exact .none
      | some other => simp [foundOther] at sameKeys
  | some value =>
      obtain ⟨other, member, holds⟩ := isMatch.forth key value (mem_of_lookup found)
      rw [lookup_of_mem isMatch.otherDistinct member]
      exact .some holds

end JsonEntries.Match

namespace Json

/-- The entries of rearranged objects match. -/
theorem EntryRearranged.isMatch
    {entries between others : JsonEntries}
    (distinct : entries.keys.Nodup)
    (reordered : entries.Perm between)
    (pairs : List.Forall₂ EntryRearranged between others) :
    JsonEntries.Match Rearranged entries others := by
  have sameKeys : between.keys = others.keys := by
    clear reordered
    induction pairs with
    | nil => rfl
    | cons first _ inductionHypothesis =>
        cases first
        simp only [JsonEntries.keys, List.map_cons] at inductionHypothesis ⊢
        rw [inductionHypothesis]
  refine ⟨distinct, sameKeys ▸ reordered.map _, ?_, ?_⟩
  · intro key value member
    obtain ⟨⟨_, other⟩, otherMember, entry⟩ :=
      Outcome.exists_result pairs _ (reordered.mem_iff.1 member)
    cases entry with
    | entry _ values => exact ⟨other, otherMember, values⟩
  · intro key other member
    obtain ⟨⟨_, value⟩, valueMember, entry⟩ := Outcome.exists_item pairs _ member
    cases entry with
    | entry _ values => exact ⟨value, reordered.mem_iff.2 valueMember, values⟩

theorem Rearranged.isNull_eq {document other : Json} (rearranged : Rearranged document other) :
    document.isNull = other.isNull := by
  cases rearranged <;> rfl

/-- What is found under a key of rearranged objects is rearranged. -/
theorem Rearranged.lookup
    {entries others : JsonEntries}
    (rearranged : Rearranged (.object entries) (.object others))
    (key : String) :
    Option.Rel Rearranged (entries.lookup key) (others.lookup key) := by
  cases rearranged with
  | same =>
      cases entries.lookup key with
      | none => exact .none
      | some value => exact .some (.same value)
  | object distinct reordered pairs =>
      exact (EntryRearranged.isMatch distinct reordered pairs).lookup key

theorem Rearranged.keys_perm
    {entries others : JsonEntries}
    (rearranged : Rearranged (.object entries) (.object others)) :
    entries.keys.Perm others.keys := by
  cases rearranged with
  | same => exact .refl _
  | object distinct reordered pairs =>
      exact (EntryRearranged.isMatch distinct reordered pairs).keys_perm

/-- Rearranging twice is rearranging. -/
theorem Rearranged.trans
    {document middle other : Json}
    (rearranged : Rearranged document middle)
    (again : Rearranged middle other) :
    Rearranged document other := by
  induction document using inside_induction generalizing middle other with
  | step document itemsHypothesis entriesHypothesis =>
      cases rearranged with
      | same => exact again
      | array pairs =>
          cases again with
          | same => exact .array pairs
          | array otherPairs =>
              refine .array (Outcome.forall₂_trans ?_ pairs otherPairs)
              intro item member between other first second
              exact itemsHypothesis _ rfl item member first second
      | @object entries between others distinct reordered pairs =>
          cases again with
          | same => exact .object distinct reordered pairs
          | object _ otherReordered otherPairs =>
              -- The second reordering is carried out first, on the entries not yet related.
              have composed : Relation.Comp (List.Forall₂ EntryRearranged) List.Perm between _ :=
                ⟨_, pairs, otherReordered⟩
              rw [List.forall₂_comp_perm_eq_perm_comp_forall₂] at composed
              obtain ⟨early, reorderedEarly, pairsEarly⟩ := composed
              refine .object distinct (reordered.trans reorderedEarly)
                (Outcome.forall₂_trans ?_ pairsEarly otherPairs)
              intro entry member _ _ first second
              have isEntry := (reordered.trans reorderedEarly).mem_iff.2 member
              cases first with
              | entry key values =>
                  cases second with
                  | entry _ otherValues =>
                      exact .entry key (entriesHypothesis _ rfl _ isEntry values otherValues)

theorem equalItems_right
    {documents items others : List Json}
    (congruence : ∀ document ∈ documents, ∀ left right, Rearranged left right ->
      equal document left = equal document right)
    (pairs : List.Forall₂ Rearranged items others) :
    equalItems documents items = equalItems documents others := by
  induction pairs generalizing documents with
  | nil => rfl
  | @cons item other items others first _ inductionHypothesis =>
      cases documents with
      | nil => rfl
      | cons document documents =>
          rw [List.forall_mem_cons] at congruence
          rw [equalItems, equalItems, congruence.1 item other first,
            inductionHypothesis congruence.2]

theorem Rearranged.isEmpty_eq
    {entries others : JsonEntries}
    (rearranged : Rearranged (.object entries) (.object others)) :
    entries.isEmpty = others.isEmpty := by
  have sameLength := rearranged.keys_perm.length_eq
  rw [JsonEntries.keys, JsonEntries.keys, List.length_map, List.length_map] at sameLength
  cases entries <;> cases others <;> simp_all

/-- Rearranged documents are equal to the same documents. -/
theorem Rearranged.equal_right
    {left right : Json}
    (rearranged : Rearranged left right)
    (document : Json) :
    equal document left = equal document right := by
  induction document using inside_induction generalizing left right with
  | step document itemsHypothesis entriesHypothesis =>
      cases rearranged with
      | same => rfl
      | array pairs =>
          cases document with
          | array documents =>
              rw [equal, equal,
                equalItems_right (fun item member _ _ => itemsHypothesis _ rfl item member) pairs]
          | _ => simp [equal]
      | object distinct reordered pairs =>
          have isMatch := EntryRearranged.isMatch distinct reordered pairs
          cases document with
          | object documents =>
              rw [equal, equal, isMatch.length_eq]
              refine congrArg _ (Bool.eq_iff_iff.2 ?_)
              rw [equalEntries_iff, equalEntries_iff]
              refine forall₂_congr fun entry member => ?_
              have found := isMatch.lookup entry.1
              generalize List.lookup entry.1 _ = value at found ⊢
              generalize List.lookup entry.1 _ = other at found ⊢
              cases found with
              | none => simp
              | some values =>
                  simp only [Option.some.injEq, exists_eq_left']
                  rw [entriesHypothesis _ rfl _ member values]
          | _ => simp [equal]

theorem equalItems_left
    {documents items others : List Json}
    (congruence : ∀ item ∈ items, ∀ other, Rearranged item other -> ∀ document,
      equal item document = equal other document)
    (pairs : List.Forall₂ Rearranged items others) :
    equalItems items documents = equalItems others documents := by
  induction pairs generalizing documents with
  | nil => rfl
  | cons first _ inductionHypothesis =>
      rw [List.forall_mem_cons] at congruence
      cases documents with
      | nil => rfl
      | cons document documents =>
          rw [equalItems, equalItems, congruence.1 _ first, inductionHypothesis congruence.2]

/-- Rearranged documents have the same equal documents. -/
theorem Rearranged.equal_left
    {left right : Json}
    (rearranged : Rearranged left right)
    (document : Json) :
    equal left document = equal right document := by
  induction left using inside_induction generalizing right document with
  | step left itemsHypothesis entriesHypothesis =>
      cases rearranged with
      | same => rfl
      | @array items others pairs =>
          cases document with
          | array documents =>
              rw [equal, equal,
                equalItems_left (fun item member _ => itemsHypothesis _ rfl item member) pairs]
          | _ => simp [equal]
      | @object entries between others distinct reordered pairs =>
          have isMatch := EntryRearranged.isMatch distinct reordered pairs
          cases document with
          | object documents =>
              rw [equal, equal, isMatch.length_eq]
              refine congrArg _ (Bool.eq_iff_iff.2 ?_)
              rw [equalEntries_iff, equalEntries_iff]
              constructor
              · rintro partners ⟨key, other⟩ member
                obtain ⟨value, valueMember, values⟩ := isMatch.back key other member
                obtain ⟨partner, found, same⟩ := partners _ valueMember
                exact ⟨partner, found, entriesHypothesis _ rfl _ valueMember values partner ▸ same⟩
              · rintro partners ⟨key, value⟩ member
                obtain ⟨other, otherMember, values⟩ := isMatch.forth key value member
                obtain ⟨partner, found, same⟩ := partners _ otherMember
                exact ⟨partner, found, entriesHypothesis _ rfl _ member values partner ▸ same⟩
          | _ => simp [equal]

end Json
end RelationalApi
