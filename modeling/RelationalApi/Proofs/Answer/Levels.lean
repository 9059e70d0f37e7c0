import RelationalApi.Answer.Filling
import RelationalApi.Proofs.Json.Entries
import RelationalApi.Proofs.Selection.Pruning

/-!
# Levels of answers

A path of response keys leads from an answer to the objects at one of its levels.  A layout keeps
an entry for every field, and filling overwrites earlier entries of a key by later ones.  So the
objects at a level show what the last field of each key on the path selects, and nothing that
earlier fields of the same keys select.
-/

namespace RelationalApi

open Outcome

/-- The response keys of a selection, each at its first place. -/
def responseKeys (selection : Selection) : List String :=
  (selection.map (·.key)).eraseDups

/-- The last field of a key. -/
def lastField? (key : String) (selection : Selection) : Option SelectedField :=
  selection.reverse.find? fun field => field.key == key

/-- The last entry of a key, which decides what the key is answered with. -/
def lastOutput? (key : String) (entries : List (OutputEntry ObjectOutput)) :
    Option (OutputEntry ObjectOutput) :=
  entries.reverse.find? fun entry => entry.key == key

/-- All that is selected at a path, under any of the fields of each key. -/
def requestedAt : List String -> Selection -> Selection
  | [], selection => selection
  | key :: path, selection =>
    requestedAt path ((selection.filter fun field => field.key == key).flatMap (·.selection))

/-- What is selected at a path under the last field of each key. -/
def lastAt : List String -> Selection -> Selection
  | [], selection => selection
  | key :: path, selection => lastAt path (((lastField? key selection).map (·.selection)).getD [])

namespace Json

/-- The parts of an answer: the items of a list, nothing of null, else the answer itself. -/
def parts : Json -> List Json
  | .null => []
  | .array items => items
  | document => [document]

/-- The objects at a path of keys, over all items of the lists on the way. -/
def objectsAt : List String -> Json -> List Json
  | [], answer => answer.parts
  | key :: path, answer =>
    answer.parts.flatMap fun object => ((object.get? key).map (objectsAt path)).getD []

/-- Every object of an answer has an entry for all that is selected at its path. -/
def Merges (answer : Json) (selection : Selection) : Prop :=
  ∀ path, ∀ object ∈ answer.objectsAt path, ∀ field ∈ requestedAt path selection,
    (object.get? field.key).isSome = true

theorem parts_object (entries : JsonEntries) : parts (.object entries) = [.object entries] := rfl

theorem objectsAt_null (path : List String) : objectsAt path .null = [] := by
  cases path <;> rfl

theorem mem_objectsAt_object
    {key : String}
    {path : List String}
    {entries : JsonEntries}
    {document : Json} :
    document ∈ objectsAt (key :: path) (.object entries) ↔
      ∃ value, entries.lookup key = some value ∧ document ∈ objectsAt path value := by
  rw [objectsAt, parts_object, List.flatMap_singleton]
  change document ∈ ((entries.lookup key).map (objectsAt path)).getD [] ↔ _
  cases entries.lookup key <;> simp

/-- What is found in a list of objects is found in one of them. -/
theorem exists_item_of_mem_objectsAt
    {path : List String}
    {items : List Json}
    {document : Json}
    (areObjects : ∀ item ∈ items, ∃ entries, item = .object entries)
    (found : document ∈ objectsAt path (.array items)) :
    ∃ item ∈ items, document ∈ objectsAt path item := by
  cases path with
  | nil =>
      obtain ⟨entries, rfl⟩ := areObjects document found
      exact ⟨_, found, List.mem_singleton_self _⟩
  | cons key path =>
      obtain ⟨item, member, inItem⟩ := List.mem_flatMap.1 found
      obtain ⟨entries, rfl⟩ := areObjects item member
      refine ⟨_, member, ?_⟩
      rw [objectsAt, parts_object, List.flatMap_singleton]
      exact inItem

end Json

theorem mem_responseKeys {selection : Selection} {key : String} :
    key ∈ responseKeys selection ↔ ∃ field ∈ selection, field.key = key := by
  rw [responseKeys, List.mem_eraseDups, List.mem_map]

theorem lastAt_nil (path : List String) : lastAt path [] = [] := by
  induction path with
  | nil => rfl
  | cons key path inductionHypothesis => exact inductionHypothesis

theorem lastOutput?_cons
    (key : String)
    (entry : OutputEntry ObjectOutput)
    (entries : List (OutputEntry ObjectOutput)) :
    lastOutput? key (entry :: entries) =
      (lastOutput? key entries).or (if entry.key = key then some entry else none) := by
  rw [lastOutput?, List.reverse_cons, List.find?_append, List.find?_singleton, lastOutput?]
  by_cases same : entry.key = key <;> simp [same]

namespace Interface

variable {interface : Interface} {types : TableTypes} {selection : Selection}

/-- An object is laid out for a selection. -/
def LaysOut (interface : Interface) (selection : Selection) (object : ObjectOutput) : Prop :=
  ∃ types shape path typeName table plan,
    interface.pruneFields types shape path (SelectionPlan.empty typeName table) selection
        = .ok plan ∧
      plan.output = object

/-- An entry is laid out for a field, with an object for the fields below it. -/
inductive EntryFor (interface : Interface) : SelectedField -> OutputEntry ObjectOutput -> Prop
  | leaf
      {field : SelectedField}
      {entry : OutputEntry ObjectOutput}
      (sameKey : entry.key = field.key)
      (noFields : field.selection = []) :
      EntryFor interface field entry
  | relation
      {field : SelectedField}
      {name : String}
      {cardinality : Cardinality}
      {object : ObjectOutput}
      (laidOut : interface.LaysOut field.selection object) :
      EntryFor interface field (.relation field.key name cardinality object)

theorem EntryFor.key_eq
    {field : SelectedField}
    {entry : OutputEntry ObjectOutput}
    (laidOut : interface.EntryFor field entry) :
    entry.key = field.key := by
  cases laidOut with
  | leaf sameKey _ => exact sameKey
  | relation _ => rfl

theorem map_key_entries
    {entries : List (OutputEntry ObjectOutput)}
    (laid : List.Forall₂ interface.EntryFor selection entries) :
    entries.map (·.key) = selection.map (·.key) := by
  induction laid with
  | nil => rfl
  | cons first _ inductionHypothesis =>
      rw [List.map_cons, List.map_cons, first.key_eq, inductionHypothesis]

theorem output_withIdentity (plan : SelectionPlan) (identity : String) :
    (plan.withIdentity identity).output = plan.output := by
  rw [SelectionPlan.withIdentity]
  split <;> rfl

/-- A field that is pruned appends its entry to a layout. -/
theorem entry_of_pruneField
    {shape : Option Shape}
    {path : String}
    {plan extended : SelectionPlan}
    {field : SelectedField}
    (pruned : interface.pruneField types shape path plan field = .ok extended) :
    ∃ entry, interface.EntryFor field entry ∧
      extended.output.entries = plan.output.entries ++ [entry] := by
  rcases pruneField_eq_ok.1 pruned with
    ⟨_, isLeaf, rfl⟩ | ⟨_, _, isLeaf, rfl⟩ |
      ⟨_, _, parent, relation, childTypes, inner, _, _, _, prunedInner, appended⟩
  · exact ⟨_, .leaf rfl (checkLeaf_eq_ok.1 isLeaf).2, rfl⟩
  · exact ⟨_, .leaf rfl (checkLeaf_eq_ok.1 isLeaf).2, rfl⟩
  · rw [SelectionPlan.appendRelation, bind_eq_ok] at appended
    obtain ⟨relations, _, same⟩ := appended
    rw [pure_eq_ok] at same
    subst same
    refine ⟨_, .relation ?_, rfl⟩
    exact ⟨_, _, _, _, _, inner, prunedInner, (output_withIdentity inner _).symm⟩

theorem entries_of_pruneFields
    {shape : Option Shape}
    {path : String}
    {plan extended : SelectionPlan}
    (pruned : interface.pruneFields types shape path plan selection = .ok extended) :
    ∃ entries, List.Forall₂ interface.EntryFor selection entries ∧
      extended.output.entries = plan.output.entries ++ entries := by
  induction selection generalizing plan with
  | nil =>
      rw [pruneFields] at pruned
      cases pruned
      exact ⟨[], .nil, (List.append_nil _).symm⟩
  | cons field selection inductionHypothesis =>
      rw [pruneFields] at pruned
      obtain ⟨next, prunedFirst, prunedRest⟩ := bind_eq_ok.1 pruned
      obtain ⟨entry, first, appended⟩ := entry_of_pruneField prunedFirst
      obtain ⟨entries, others, appendedOthers⟩ := inductionHypothesis prunedRest
      refine ⟨entry :: entries, .cons first others, ?_⟩
      rw [appendedOthers, appended, List.append_assoc, List.singleton_append]

/-- A layout has one entry for every field, in the order of the fields. -/
theorem LaysOut.entries
    {object : ObjectOutput}
    (laidOut : interface.LaysOut selection object) :
    List.Forall₂ interface.EntryFor selection object.entries := by
  obtain ⟨_, _, _, _, _, plan, pruned, rfl⟩ := laidOut
  obtain ⟨entries, laid, same⟩ := entries_of_pruneFields pruned
  rw [same]
  exact laid

theorem laysOut_of_prune
    {shape : Shape}
    {path : String}
    {plan : SelectionPlan}
    (pruned : interface.prune shape path selection = .ok plan) :
    interface.LaysOut selection plan.output := by
  simp only [prune, bind_eq_ok, pure_eq_ok] at pruned
  obtain ⟨_, _, inner, prunedFields, rfl⟩ := pruned
  exact ⟨_, _, _, _, _, inner, prunedFields, (output_withIdentity inner _).symm⟩

/-- What an object layout is filled to, for one row, for several, or for none. -/
inductive Filled (interface : Interface) (object : ObjectOutput) : Json -> Prop
  | absent : Filled interface object .null
  | single
      {row : Row}
      {answer : Json}
      (fills : fillObject interface object row = .ok answer) :
      Filled interface object answer
  | several
      {rows : List Row}
      {items : List Json}
      (fills : rows.mapM (fillObject interface object) = .ok items) :
      Filled interface object (.array items)

theorem exists_entries_of_fillObject
    {object : ObjectOutput}
    {row : Row}
    {answer : Json}
    (fills : fillObject interface object row = .ok answer) :
    ∃ entries, answer = .object entries ∧
      fillEntries interface object.typeName (object.table.getD "") object.entries row []
        = .ok entries := by
  obtain ⟨typeName, table, layout⟩ := object
  rw [fillObject, bind_eq_ok] at fills
  obtain ⟨entries, filled, same⟩ := fills
  rw [pure_eq_ok] at same
  exact ⟨entries, same.symm, filled⟩

/-- What is found in a filled layout is found in what it is filled to for one row. -/
theorem Filled.exists_row
    {object : ObjectOutput}
    {answer document : Json}
    {path : List String}
    (filled : interface.Filled object answer)
    (found : document ∈ answer.objectsAt path) :
    ∃ row item, fillObject interface object row = .ok item ∧ document ∈ item.objectsAt path := by
  cases filled with
  | absent =>
      rw [Json.objectsAt_null] at found
      exact absurd found List.not_mem_nil
  | single fills => exact ⟨_, _, fills, found⟩
  | several fills =>
      have pairs := mapM_eq_ok.1 fills
      have areObjects : ∀ item ∈ _, ∃ entries, item = Json.object entries := fun item member =>
        have ⟨_, _, fillsItem⟩ := exists_item pairs item member
        have ⟨entries, isObject, _⟩ := exists_entries_of_fillObject fillsItem
        ⟨entries, isObject⟩
      obtain ⟨item, member, inItem⟩ := Json.exists_item_of_mem_objectsAt areObjects found
      obtain ⟨row, _, fillsItem⟩ := exists_item pairs item member
      exact ⟨row, item, fillsItem, inItem⟩

/-- A relation entry is filled for the rows of its relation. -/
theorem filled_of_fillEntry
    {typeName table key name : String}
    {cardinality : Cardinality}
    {object : ObjectOutput}
    {row : Row}
    {value : Json}
    (fills : fillEntry interface typeName table (.relation key name cardinality object) row
      = .ok value) :
    interface.Filled object value := by
  cases cardinality with
  | one =>
      rw [fillEntry] at fills
      split at fills
      · exact .single fills
      · cases fills
        exact .absent
  | many =>
      rw [fillEntry, bind_eq_ok] at fills
      obtain ⟨items, filled, same⟩ := fills
      rw [pure_eq_ok] at same
      subst same
      exact .several filled

section Entries

variable {typeName table : String} {row : Row} {entries : List (OutputEntry ObjectOutput)}
variable {filled result : JsonEntries}

/-- Filling keeps the keys of all entries, each at its first place. -/
theorem keys_fillEntries
    {seen : List String}
    (keys : filled.keys = seen.eraseDups)
    (fills : fillEntries interface typeName table entries row filled = .ok result) :
    result.keys = (seen ++ entries.map (·.key)).eraseDups := by
  induction entries generalizing filled seen with
  | nil =>
      rw [fillEntries] at fills
      cases fills
      rw [List.map_nil, List.append_nil, keys]
  | cons entry entries inductionHypothesis =>
      rw [fillEntries, bind_eq_ok] at fills
      obtain ⟨value, _, rest⟩ := fills
      have keysNext := JsonEntries.keys_set_eraseDups keys entry.key value
      rw [inductionHypothesis keysNext rest, List.map_cons, List.append_assoc,
        List.singleton_append]

/-- Filling gives a key the value of its last entry. -/
theorem lookup_fillEntries
    {key : String}
    {value : Json}
    (fills : fillEntries interface typeName table entries row filled = .ok result)
    (found : result.lookup key = some value) :
    (lastOutput? key entries = none ∧ filled.lookup key = some value) ∨
      ∃ entry, lastOutput? key entries = some entry ∧
        fillEntry interface typeName table entry row = .ok value := by
  induction entries generalizing filled with
  | nil =>
      rw [fillEntries] at fills
      cases fills
      exact .inl ⟨rfl, found⟩
  | cons entry entries inductionHypothesis =>
      rw [fillEntries, bind_eq_ok] at fills
      obtain ⟨shown, fillsFirst, rest⟩ := fills
      rw [lastOutput?_cons]
      rcases inductionHypothesis rest with ⟨noLater, foundBefore⟩ | ⟨last, isLast, fillsLast⟩
      · rw [JsonEntries.lookup_set] at foundBefore
        rw [noLater, Option.none_or]
        by_cases isKey : key = entry.key
        · rw [if_pos isKey, Option.some.injEq] at foundBefore
          subst foundBefore
          exact .inr ⟨entry, if_pos isKey.symm, fillsFirst⟩
        · rw [if_neg isKey] at foundBefore
          exact .inl ⟨if_neg (Ne.symm isKey), foundBefore⟩
      · rw [isLast]
        exact .inr ⟨last, rfl, fillsLast⟩

/-- Filling an object gives a key the value of the entry for its last field. -/
theorem exists_lastField_of_fillEntries
    {related : SelectedField -> OutputEntry ObjectOutput -> Prop}
    {key : String}
    {value : Json}
    (keyed : ∀ field entry, related field entry -> entry.key = field.key)
    (laid : List.Forall₂ related selection entries)
    (fills : fillEntries interface typeName table entries row [] = .ok result)
    (found : result.lookup key = some value) :
    ∃ field entry, lastField? key selection = some field ∧ related field entry ∧
      fillEntry interface typeName table entry row = .ok value := by
  have lasts : Option.Rel related (lastField? key selection) (lastOutput? key entries) := by
    refine rel_find? (fun field entry isRelated => ?_) (List.forall₂_reverse_iff.2 laid)
    rw [keyed field entry isRelated]
  rcases lookup_fillEntries fills found with ⟨_, impossible⟩ | ⟨entry, isLast, fillsEntry⟩
  · cases impossible
  · rw [isLast] at lasts
    cases isField : lastField? key selection with
    | none => simp [isField] at lasts
    | some field =>
        rw [isField, Option.rel_some_some] at lasts
        exact ⟨field, entry, rfl, lasts, fillsEntry⟩

end Entries

/-- The objects at a path have exactly the keys that are selected there under the last field of each
key on the path. -/
theorem keys_objectsAt
    {path : List String}
    {object : ObjectOutput}
    {answer document : Json}
    (laidOut : interface.LaysOut selection object)
    (filled : interface.Filled object answer)
    (selects : lastAt path selection ≠ [])
    (found : document ∈ answer.objectsAt path) :
    ∃ entries, document = .object entries ∧
      JsonEntries.keys entries = responseKeys (lastAt path selection) := by
  induction path generalizing selection object answer with
  | nil =>
      obtain ⟨row, item, fills, inItem⟩ := filled.exists_row found
      obtain ⟨entries, rfl, fillsEntries⟩ := exists_entries_of_fillObject fills
      refine ⟨entries, List.mem_singleton.1 inItem, ?_⟩
      have keys := @keys_fillEntries _ _ _ _ _ [] _ [] rfl fillsEntries
      rw [keys, List.nil_append, map_key_entries laidOut.entries]
      rfl
  | cons key path inductionHypothesis =>
      obtain ⟨row, item, fills, inItem⟩ := filled.exists_row found
      obtain ⟨entries, rfl, fillsEntries⟩ := exists_entries_of_fillObject fills
      obtain ⟨value, isValue, inValue⟩ := Json.mem_objectsAt_object.1 inItem
      obtain ⟨field, entry, isLast, laid, fillsEntry⟩ := exists_lastField_of_fillEntries
        (fun _ _ => EntryFor.key_eq) laidOut.entries fillsEntries isValue
      -- Only the entry of the last field is still there, and it leads on where that field does.
      rw [lastAt, isLast, Option.map_some, Option.getD_some] at selects ⊢
      cases laid with
      | leaf _ noFields =>
          rw [noFields, lastAt_nil] at selects
          exact absurd rfl selects
      | relation laidOutInner =>
          exact inductionHypothesis laidOutInner (filled_of_fillEntry fillsEntry) selects inValue

end Interface
end RelationalApi
