import RelationalApi.Proofs.Answer.Levels
import RelationalApi.Proofs.Interface.Paths

/-!
# Forms of answers

The layout decides the form of an answer, whatever rows an executor returns.  An object has the keys
of its layout and nothing else, a relation to many rows is a list, and a relation to one row is an
object or null, even if the rows were returned in another form, several times or not at all.  So all
objects of a list have the same keys in the same order.
-/

namespace RelationalApi

open Outcome

/-- The rows that were returned for a relation, in whichever form.  They are those of the first
result for it. -/
def Row.returned (row : Row) (relation : String) : List Row :=
  match row.relation? relation with
  | none => []
  | some (.single none) => []
  | some (.single (some inner)) => [inner]
  | some (.list rows) => rows

/-- The keys of an answered object, each at its first place. -/
def ObjectOutput.keys (layout : ObjectOutput) : List String :=
  (layout.entries.map (·.key)).eraseDups

/-- The layout of the objects at a path of keys, each of which is answered with a relation. -/
def ObjectOutput.at? (layout : ObjectOutput) : List String -> Option ObjectOutput
  | [] => some layout
  | key :: path =>
      match lastOutput? key layout.entries with
      | some (.relation _ _ _ inner) => inner.at? path
      | _ => none

mutual

/-- An answer for a row has the form of a layout. -/
inductive ObjectOutput.Forms : ObjectOutput -> Row -> Json -> Prop
  | object
      {layout : ObjectOutput}
      {row : Row}
      {entries : JsonEntries}
      (keys : entries.keys = layout.keys)
      (values : ∀ key entry value, lastOutput? key layout.entries = some entry ->
        entries.lookup key = some value -> OutputEntry.Forms entry row value) :
      ObjectOutput.Forms layout row (.object entries)

/-- The value of an entry for a row has the form of the entry.  Columns are shown by their codecs
and may have any form. -/
inductive OutputEntry.Forms : OutputEntry ObjectOutput -> Row -> Json -> Prop
  | typename
      {key name : String}
      {row : Row} :
      OutputEntry.Forms (.typename key) row (.string name)
  | column
      {key name : String}
      {row : Row}
      {value : Json} :
      OutputEntry.Forms (.column key name) row value
  /-- Nothing was returned for a relation to one row. -/
  | absent
      {key name : String}
      {layout : ObjectOutput}
      {row : Row}
      (nothing : row.returned name = []) :
      OutputEntry.Forms (.relation key name .one layout) row .null
  /-- The first returned row counts for a relation to one row. -/
  | first
      {key name : String}
      {layout : ObjectOutput}
      {row inner : Row}
      {others : List Row}
      {value : Json}
      (returned : row.returned name = inner :: others)
      (forms : ObjectOutput.Forms layout inner value) :
      OutputEntry.Forms (.relation key name .one layout) row value
  /-- A relation to many rows has an item for each of them, in their order. -/
  | several
      {key name : String}
      {layout : ObjectOutput}
      {row : Row}
      {items : List Json}
      (sameLength : (row.returned name).length = items.length)
      (forms : ∀ inner item, (inner, item) ∈ (row.returned name).zip items ->
        ObjectOutput.Forms layout inner item) :
      OutputEntry.Forms (.relation key name .many layout) row (.array items)

end

/-- All of the documents are objects with the same keys in the same order. -/
def Json.ShareKeys (keys : List String) (documents : List Json) : Prop :=
  ∀ document ∈ documents, ∃ entries, document = .object entries ∧ JsonEntries.keys entries = keys

namespace ObjectOutput

variable {layout inner : ObjectOutput} {row : Row} {answer : Json} {path : List String}

theorem Forms.exists_entries (forms : layout.Forms row answer) :
    ∃ entries, answer = .object entries ∧ JsonEntries.keys entries = layout.keys := by
  cases forms with
  | object keys _ => exact ⟨_, rfl, keys⟩

/-- The objects that are found in a list are found in the objects for its rows. -/
theorem exists_row_of_mem_objectsAt
    {rows : List Row}
    {items : List Json}
    {document : Json}
    (forms : List.Forall₂ layout.Forms rows items)
    (found : document ∈ (Json.array items).objectsAt path) :
    ∃ row item, layout.Forms row item ∧ document ∈ item.objectsAt path := by
  have areObjects : ∀ item ∈ items, ∃ entries, item = .object entries := by
    intro item member
    obtain ⟨_, _, formed⟩ := exists_item forms item member
    obtain ⟨entries, isObject, _⟩ := formed.exists_entries
    exact ⟨entries, isObject⟩
  obtain ⟨item, member, inItem⟩ := Json.exists_item_of_mem_objectsAt areObjects found
  obtain ⟨row, _, formed⟩ := exists_item forms item member
  exact ⟨row, item, formed, inItem⟩

/-- The objects at a path share the keys of their layout, over all lists on the way. -/
theorem Forms.shareKeys
    (forms : layout.Forms row answer)
    (isLayout : layout.at? path = some inner) :
    Json.ShareKeys inner.keys (answer.objectsAt path) := by
  induction path generalizing layout row answer with
  | nil =>
      rw [at?, Option.some.injEq] at isLayout
      subst isLayout
      obtain ⟨entries, rfl, keys⟩ := forms.exists_entries
      exact List.forall_mem_singleton.2 ⟨entries, rfl, keys⟩
  | cons key path inductionHypothesis =>
      intro document found
      obtain ⟨_, values⟩ := forms
      obtain ⟨value, isValue, inValue⟩ := Json.mem_objectsAt_object.1 found
      rw [at?] at isLayout
      split at isLayout
      · rename_i isLast
        cases values key _ value isLast isValue with
        | absent nothing =>
            rw [Json.objectsAt_null] at inValue
            cases inValue
        | first returned formed => exact inductionHypothesis formed isLayout document inValue
        | several sameLength formed =>
            have pairs := List.forall₂_iff_zip.2 ⟨sameLength, fun member => formed _ _ member⟩
            obtain ⟨_, _, formedItem, inItem⟩ := exists_row_of_mem_objectsAt pairs inValue
            exact inductionHypothesis formedItem isLayout document inItem
      · cases isLayout

end ObjectOutput

namespace Row

variable {row : Row} {name : String}

theorem toList_relation? :
    ((row.relation? name).map Nested.toList).getD [] = row.returned name := by
  rw [returned]
  cases row.relation? name with
  | none => rfl
  | some nested =>
      cases nested with
      | single inner => cases inner <;> rfl
      | list rows => rfl

theorem first?_relation? :
    (row.relation? name).bind Nested.first? = (row.returned name).head? := by
  rw [returned]
  cases row.relation? name with
  | none => rfl
  | some nested =>
      cases nested with
      | single inner => cases inner <;> rfl
      | list rows => rfl

end Row

namespace Interface

variable (interface : Interface)

-- The recursion follows the layout, as filling does.
mutual

/-- What a layout is filled to has its form. -/
theorem forms_of_fillObject :
    (layout : ObjectOutput) -> ∀ {row answer},
      fillObject interface layout row = .ok answer -> layout.Forms row answer
  | ⟨typeName, table, entries⟩, row, answer, fills => by
      rw [fillObject, bind_eq_ok] at fills
      obtain ⟨filled, fillsEntries, same⟩ := fills
      rw [pure_eq_ok] at same
      subst same
      have keys := @keys_fillEntries _ _ _ _ _ [] _ [] rfl fillsEntries
      have forms := forms_of_fillEntries entries
      refine .object keys fun key entry value isLast found => ?_
      rcases lookup_fillEntries fillsEntries found with
        ⟨_, impossible⟩ | ⟨last, isLastAgain, fillsEntry⟩
      · cases impossible
      · rw [isLast, Option.some.injEq] at isLastAgain
        subst isLastAgain
        exact forms entry (List.mem_reverse.1 (List.mem_of_find?_eq_some isLast)) fillsEntry

theorem forms_of_fillEntries :
    (entries : List (OutputEntry ObjectOutput)) -> ∀ entry ∈ entries, ∀ {typeName table row value},
      fillEntry interface typeName table entry row = .ok value -> entry.Forms row value
  | [] => fun _ impossible => absurd impossible List.not_mem_nil
  | first :: entries => by
      have formsFirst := @forms_of_fillEntry first
      have formsLater := forms_of_fillEntries entries
      exact List.forall_mem_cons.2 ⟨formsFirst, formsLater⟩

theorem forms_of_fillEntry :
    (entry : OutputEntry ObjectOutput) -> ∀ {typeName table row value},
      fillEntry interface typeName table entry row = .ok value -> entry.Forms row value
  | .typename key, _, _, _, _, fills => by
      rw [fillEntry] at fills
      cases fills
      exact .typename
  | .column key name, _, _, _, _, fills => .column
  | .relation key name cardinality layout, _, _, row, value, fills => by
      have forms := @forms_of_fillObject layout
      cases cardinality with
      | one =>
          rw [fillEntry, Row.first?_relation?] at fills
          cases returned : row.returned name with
          | nil =>
              rw [returned] at fills
              cases fills
              exact .absent returned
          | cons inner others =>
              rw [returned] at fills
              exact .first returned (forms fills)
      | many =>
          rw [fillEntry, Row.toList_relation?, bind_eq_ok] at fills
          obtain ⟨items, fillsItems, same⟩ := fills
          rw [pure_eq_ok] at same
          subst same
          have pairs := (mapM_eq_ok.1 fillsItems).imp fun _ _ fillsItem => forms fillsItem
          rw [List.forall₂_iff_zip] at pairs
          exact .several pairs.1 fun _ _ member => pairs.2 member

end

/-- Whatever rows are returned, an object that is answered has the form of its layout, and so do the
objects of a list, one for each row.  At every path of keys the objects have the same keys. -/
theorem answers_keep_form (layout : ObjectOutput) :
    (∀ row answer, fillObject interface layout row = .ok answer -> layout.Forms row answer) ∧
      ∀ rows answer, fillRows interface layout rows = .ok answer ->
        ∃ items, answer = .array items ∧ List.Forall₂ layout.Forms rows items ∧
          ∀ path inner, layout.at? path = some inner ->
            Json.ShareKeys inner.keys (answer.objectsAt path) := by
  refine ⟨fun row answer fills => forms_of_fillObject interface layout fills, ?_⟩
  intro rows answer fills
  rw [fillRows, bind_eq_ok] at fills
  obtain ⟨items, fillsItems, same⟩ := fills
  rw [pure_eq_ok] at same
  subst same
  have forms := (mapM_eq_ok.1 fillsItems).imp fun _ _ fillsItem =>
    forms_of_fillObject interface layout fillsItem
  refine ⟨items, rfl, forms, fun path inner isLayout document found => ?_⟩
  obtain ⟨_, _, formed, inItem⟩ := ObjectOutput.exists_row_of_mem_objectsAt forms found
  exact formed.shareKeys isLayout document inItem

/-- A key for posts twice.  The later field decides what the posts show. -/
def postsAgain : Selection :=
  [⟨"posts", none, [], [⟨"id", none, [], []⟩]⟩, ⟨"name", none, [], []⟩,
    ⟨"posts", none, [],
      [⟨"author", none, [], [⟨"name", none, [], []⟩]⟩, ⟨"id", none, [], []⟩]⟩]

/-- A user whose only post is not in a list and is followed by a list without posts.  The post has
two authors. -/
def oddUser : Row :=
  ⟨[⟨"name", .string "Ada"⟩],
    [("posts", .single (some
      ⟨[⟨"id", .int 7⟩],
        [("author", .list [⟨[⟨"name", .string "Ada"⟩], []⟩, ⟨[⟨"name", .string "Eve"⟩], []⟩])]⟩)),
      ("posts", .list [])]⟩

/-- A user for whom no posts were returned. -/
def bareUser : Row :=
  ⟨[⟨"name", .string "Eve"⟩], []⟩

theorem answers_keep_form_blog :
    ∃ interface plan answer, generate blog {} = .ok interface ∧
      interface.prune (interface.topShape "users") "users" postsAgain = .ok plan ∧
      fillRows interface plan.output [oddUser, bareUser] = .ok answer ∧
      answer.objectsAt ["posts"] ≠ [] ∧
      Json.ShareKeys ["posts", "name"] (answer.objectsAt []) ∧
      Json.ShareKeys ["author", "id"] (answer.objectsAt ["posts"]) := by
  have fills : ((generate blog {}).toOption.map fun interface =>
      (interface.prune (interface.topShape "users") "users" postsAgain).toOption.map fun plan =>
        (plan.output.keys, (plan.output.at? ["posts"]).map ObjectOutput.keys,
          (fillRows interface plan.output [oddUser, bareUser]).toOption.map fun answer =>
            (answer.objectsAt ["posts"]).isEmpty)) =
      some (some (["posts", "name"], some ["author", "id"], some false)) := by
    decide +kernel
  simp only [Option.map_eq_some_iff, toOption_eq_some, Prod.mk.injEq] at fills
  obtain ⟨interface, generated, plan, pruned, keys, ⟨posts, isLayout, postKeys⟩, answer, fills,
    nonempty⟩ := fills
  obtain ⟨items, isArray, _, shareKeys⟩ :=
    (answers_keep_form interface plan.output).2 _ answer fills
  have users := shareKeys [] plan.output rfl
  have postsShare := shareKeys ["posts"] posts isLayout
  rw [keys] at users
  rw [postKeys] at postsShare
  exact ⟨interface, plan, answer, generated, pruned, fills, List.isEmpty_eq_false_iff.1 nonempty,
    users, postsShare⟩

end Interface
end RelationalApi
