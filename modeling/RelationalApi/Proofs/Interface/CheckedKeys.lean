import RelationalApi.Proofs.Interface.InputKeys
import RelationalApi.Proofs.Outcome

/-!
# Checked keys

A computation checks the keys of some input if it succeeds only where all of them are declared, and
reports an unknown field only where one of them is not.  Such checks can be taken together: steps
one after another check the keys of all steps, and a list is checked by checking its items.
-/

namespace RelationalApi

open Outcome

section Checking

variable {α β : Type} {keys others : InputKey -> Prop} {outcome : Except ArgumentError α}

/-- The key that a computation reports as an unknown field. -/
def ReportedBy (outcome : Except ArgumentError α) (key : InputKey) : Prop :=
  ∃ path name, outcome = .error (.unknownField path name) ∧ key = ⟨path, name, []⟩

/-- A computation reports no unknown field. -/
def KnowsFields (outcome : Except ArgumentError α) : Prop :=
  ∀ path name, outcome ≠ .error (.unknownField path name)

/-- A computation checks keys: it succeeds only if all of them are declared, and reports an unknown
field only for one that is not. -/
structure ChecksKeys (keys : InputKey -> Prop) (outcome : Except ArgumentError α) : Prop where
  declared : ∀ result, outcome = .ok result -> ∀ key, keys key -> key.IsDeclared
  undeclared : ∀ path name, outcome = .error (.unknownField path name) ->
    ∃ key, keys key ∧ key.path = path ∧ key.name = name ∧ ¬key.IsDeclared

theorem KnowsFields.ok (result : α) : KnowsFields (.ok result) := by
  simp [KnowsFields]

theorem KnowsFields.refused
    {fault : ArgumentError}
    (otherFault : ∀ path name, fault ≠ .unknownField path name) :
    KnowsFields (.error fault : Except ArgumentError α) :=
  fun path name reported => otherFault path name (Except.error.inj reported)

theorem KnowsFields.bind
    {next : α -> Except ArgumentError β}
    (knows : KnowsFields outcome)
    (knowsNext : ∀ result, KnowsFields (next result)) :
    KnowsFields (outcome >>= next) := by
  intro path name reported
  rcases bind_eq_error.1 reported with first | ⟨result, _, later⟩
  · exact knows path name first
  · exact knowsNext result path name later

namespace ChecksKeys

/-- Where there are no keys, no unknown field may be reported. -/
theorem of_none
    (noKeys : ∀ key, ¬keys key)
    (knows : KnowsFields outcome) :
    ChecksKeys keys outcome :=
  ⟨fun _ _ key isKey => absurd isKey (noKeys key),
    fun path name reported => absurd reported (knows path name)⟩

/-- Keys that are all declared are checked where no unknown field is reported. -/
theorem of_declared
    (declared : ∀ key, keys key -> key.IsDeclared)
    (knows : KnowsFields outcome) :
    ChecksKeys keys outcome :=
  ⟨fun _ _ => declared, fun path name reported => absurd reported (knows path name)⟩

/-- A computation that is refused for another reason checks any keys. -/
theorem of_refused
    {fault : ArgumentError}
    (otherFault : ∀ path name, fault ≠ .unknownField path name) :
    ChecksKeys keys (.error fault : Except ArgumentError α) :=
  ⟨by simp,
    fun path name reported => absurd (Except.error.inj reported) (otherFault path name)⟩

/-- An undeclared key is checked by a report of it. -/
theorem of_reported
    {key : InputKey}
    (isKey : keys key)
    (undeclared : ¬key.IsDeclared) :
    ChecksKeys keys (.error (.unknownField key.path key.name) : Except ArgumentError α) := by
  refine ⟨by simp, fun path name reported => ?_⟩
  cases reported
  exact ⟨key, isKey, rfl, rfl, undeclared⟩

/-- A computation checks what it reports. -/
theorem reported (outcome : Except ArgumentError α) : ChecksKeys (ReportedBy outcome) outcome := by
  refine ⟨fun result succeeds key isReported => ?_, fun path name reported => ?_⟩
  · obtain ⟨_, _, failed, _⟩ := isReported
    rw [succeeds] at failed
    cases failed
  · exact ⟨_, ⟨path, name, reported, rfl⟩, rfl, rfl, List.not_mem_nil⟩

theorem congr
    (checks : ChecksKeys keys outcome)
    (same : ∀ key, others key ↔ keys key) :
    ChecksKeys others outcome := by
  refine ⟨fun result succeeds key isKey => ?_, fun path name reported => ?_⟩
  · exact checks.declared result succeeds key ((same key).1 isKey)
  · obtain ⟨key, isKey, named⟩ := checks.undeclared path name reported
    exact ⟨key, (same key).2 isKey, named⟩

/-- Two steps check the keys of both. -/
theorem bind
    {first second : InputKey -> Prop}
    {next : α -> Except ArgumentError β}
    (checks : ChecksKeys first outcome)
    (checksNext : ∀ result, outcome = .ok result -> ChecksKeys second (next result))
    (either : ∀ key, keys key ↔ first key ∨ second key) :
    ChecksKeys keys (outcome >>= next) := by
  refine ⟨fun result succeeds key isKey => ?_, fun path name reported => ?_⟩
  · obtain ⟨value, succeedsFirst, succeedsNext⟩ := bind_eq_ok.1 succeeds
    rcases (either key).1 isKey with isFirst | isSecond
    · exact checks.declared value succeedsFirst key isFirst
    · exact (checksNext value succeedsFirst).declared result succeedsNext key isSecond
  · rcases bind_eq_error.1 reported with reportedFirst | ⟨value, succeedsFirst, reportedNext⟩
    · obtain ⟨key, isKey, named⟩ := checks.undeclared path name reportedFirst
      exact ⟨key, (either key).2 (.inl isKey), named⟩
    · obtain ⟨key, isKey, named⟩ :=
        (checksNext value succeedsFirst).undeclared path name reportedNext
      exact ⟨key, (either key).2 (.inr isKey), named⟩

/-- What is done with a result that is reached cannot report an unknown field any more. -/
theorem andThen
    {next : α -> Except ArgumentError β}
    (checks : ChecksKeys keys outcome)
    (knows : ∀ result, KnowsFields (next result)) :
    ChecksKeys keys (outcome >>= next) := by
  refine checks.bind (fun result _ => of_none (fun _ impossible => impossible) (knows result)) ?_
  exact fun key => (or_false _).symm.to_iff

/-- A step before that reports no unknown field does not change which keys are checked. -/
theorem after
    {next : α -> Except ArgumentError β}
    (knows : KnowsFields outcome)
    (checksNext : ∀ result, outcome = .ok result -> ChecksKeys keys (next result)) :
    ChecksKeys keys (outcome >>= next) :=
  (of_none (fun _ impossible => impossible) knows).bind checksNext
    fun _ => (false_or _).symm.to_iff

end ChecksKeys

end Checking

section Documents

variable {registry : TypeRegistry} {type element : TypeRef} {path place : String}
variable {fields : List InputField} {document : Json} {name : String}

open TypeRegistry

/-- An entry whose value has no keys has its own name only. -/
theorem entryKey_leaf
    {entry : String × Json}
    {key : InputKey}
    (leaf : ∀ field ∈ fields, field.name = entry.1 ->
      registry.namesOf? field.type.baseName = none) :
    registry.EntryKey fields place path entry key ↔
      key = ⟨place, entry.1, fields.map (·.name)⟩ := by
  refine or_iff_left ?_
  rintro ⟨field, isField, isNamed, within⟩
  exact not_keyWithin (leaf field isField isNamed) within

/-- An object of values without keys has its own names only. -/
theorem keyWithin_leaves
    {entries : JsonEntries}
    {key : InputKey}
    (isInput : registry.namesOf? type.baseName = some fields)
    (leaves : ∀ field ∈ fields, registry.namesOf? field.type.baseName = none) :
    registry.KeyWithin type path (.object entries) key ↔
      ∃ entry ∈ entries, key = ⟨path, entry.1, fields.map (·.name)⟩ := by
  rw [keyWithin_object, isInput]
  simp only [Option.some.injEq, exists_eq_left']
  refine exists_congr fun entry => and_congr_right fun _ => ?_
  exact entryKey_leaf fun field isField _ => leaves field isField

/-- An entry whose value has no keys is checked by checking its name. -/
theorem checksKeys_name
    {α : Type}
    {outcome : Except ArgumentError α}
    (leaf : ∀ field ∈ fields, field.name = name -> registry.namesOf? field.type.baseName = none)
    (known : name ∈ fields.map (·.name) -> KnowsFields outcome)
    (unknown : name ∉ fields.map (·.name) -> outcome = .error (.unknownField place name)) :
    ChecksKeys (registry.EntryKey fields place path (name, document)) outcome := by
  refine ChecksKeys.congr ?_ fun _ => entryKey_leaf leaf
  by_cases isDeclared : name ∈ fields.map (·.name)
  · exact .of_declared (by rintro _ rfl; exact isDeclared) (known isDeclared)
  · rw [unknown isDeclared]
    exact @ChecksKeys.of_reported _ (· = ⟨place, name, fields.map (·.name)⟩) _ rfl isDeclared

/-- Names are checked by looking for one that is not known. -/
theorem checksKeys_names
    {α : Type}
    {outcome : Except ArgumentError α}
    {names : List String}
    {entries : JsonEntries}
    (known : String -> Bool)
    (isKnown : ∀ name, known name = true ↔ name ∈ names)
    (reported : ∀ entry, (entries.find? fun entry => !known entry.1) = some entry ->
      outcome = .error (.unknownField place entry.1))
    (passed : (entries.find? fun entry => !known entry.1) = none -> KnowsFields outcome) :
    ChecksKeys (fun key => ∃ entry ∈ entries, key = ⟨place, entry.1, names⟩) outcome := by
  cases found : entries.find? fun entry => !known entry.1 with
  | none =>
      refine .of_declared ?_ (passed found)
      rintro _ ⟨entry, member, rfl⟩
      have isDeclared := List.find?_eq_none.1 found entry member
      rw [Bool.not_eq_true, Bool.not_eq_false', isKnown] at isDeclared
      exact isDeclared
  | some entry =>
      have notKnown := List.find?_some found
      rw [Bool.not_eq_true', Bool.eq_false_iff, ne_eq, isKnown] at notKnown
      rw [reported entry found]
      exact @ChecksKeys.of_reported _ (fun key => ∃ entry ∈ entries, key = ⟨place, entry.1, names⟩)
        _ ⟨entry, List.mem_of_find?_eq_some found, rfl⟩ notKnown

/-- An entry that is declared with a type is checked as a document of the type, where no other type
that its name is declared with gives the document a key. -/
theorem checksKeys_entry
    {α : Type}
    {outcome : Except ArgumentError α}
    (isDeclared : ∃ field ∈ fields, field.name = name ∧ field.type = type)
    (others : ∀ field ∈ fields, field.name = name ->
      field.type = type ∨ ∀ key, ¬registry.KeyWithin field.type path document key)
    (checks : ChecksKeys (registry.KeyWithin type path document) outcome) :
    ChecksKeys (registry.EntryKey fields place path (name, document)) outcome := by
  obtain ⟨field, isField, isNamed, hasType⟩ := isDeclared
  refine ⟨fun result succeeds key isKey => ?_, fun path name reported => ?_⟩
  · rcases isKey with rfl | ⟨other, isOther, otherName, within⟩
    · exact List.mem_map.2 ⟨field, isField, isNamed⟩
    · rcases others other isOther otherName with sameType | noKeys
      · exact checks.declared result succeeds key (sameType ▸ within)
      · exact absurd within (noKeys key)
  · obtain ⟨key, within, named⟩ := checks.undeclared path name reported
    exact ⟨key, .inr ⟨field, isField, isNamed, hasType ▸ within⟩, named⟩

/-- The keys of the items of a list from a position on. -/
def ItemKey (registry : TypeRegistry) (type : TypeRef) (path : String) (index : Nat)
    (items : List Json) (key : InputKey) : Prop :=
  ∃ position item, items[position]? = some item ∧
    registry.KeyWithin type (itemPath path (index + position)) item key

theorem itemKey_cons {item : Json} {items : List Json} {index : Nat} {key : InputKey} :
    ItemKey registry type path index (item :: items) key ↔
      registry.KeyWithin type (itemPath path index) item key ∨
        ItemKey registry type path (index + 1) items key := by
  constructor
  · rintro ⟨position, other, found, within⟩
    cases position with
    | zero =>
        cases found
        exact .inl within
    | succ position =>
        rw [List.getElem?_cons_succ] at found
        refine .inr ⟨position, other, found, ?_⟩
        rw [Nat.add_right_comm, Nat.add_assoc]
        exact within
  · rintro (within | ⟨position, other, found, within⟩)
    · exact ⟨0, item, rfl, within⟩
    · refine ⟨position + 1, other, found, ?_⟩
      rw [Nat.add_right_comm, Nat.add_assoc] at within
      exact within

/-- A list is checked item by item. -/
theorem ChecksKeys.array
    {α : Type}
    {outcome : Except ArgumentError α}
    {items : List Json}
    (isList : type.element? = some element)
    (checks : ChecksKeys (ItemKey registry element path 0 items) outcome) :
    ChecksKeys (registry.KeyWithin type path (.array items)) outcome := by
  refine ⟨fun result succeeds key within => ?_, fun place name reported => ?_⟩
  · cases within with
    | item isListAgain found within =>
        rw [isList] at isListAgain
        cases isListAgain
        refine checks.declared result succeeds key ⟨_, _, found, ?_⟩
        rw [Nat.zero_add]
        exact within
    | single isListAgain within =>
        rw [isList] at isListAgain
        cases isListAgain
        obtain ⟨moved, within, sameName, sameDeclared⟩ := within.at_path (itemPath path 0)
        have isDeclared := checks.declared result succeeds moved ⟨0, _, rfl, within⟩
        rw [InputKey.IsDeclared, sameName, sameDeclared] at isDeclared
        exact isDeclared
  · obtain ⟨key, ⟨position, item, found, within⟩, named⟩ := checks.undeclared place name reported
    rw [Nat.zero_add] at within
    exact ⟨key, .item isList found within, named⟩

/-- A list with one item is checked as the item. -/
theorem ChecksKeys.single
    {α : Type}
    {outcome : Except ArgumentError α}
    {item : Json}
    (isList : type.element? = some element)
    (checks : ChecksKeys (registry.KeyWithin element path item) outcome) :
    ChecksKeys (registry.KeyWithin type path (.array [item])) outcome := by
  refine ⟨fun result succeeds key within => ?_, fun place name reported => ?_⟩
  · cases within with
    | @item _ _ _ _ index document _ isListAgain found within =>
        rw [isList] at isListAgain
        cases isListAgain
        have isItem := List.mem_singleton.1 (List.mem_of_getElem? found)
        subst isItem
        obtain ⟨moved, within, sameName, sameDeclared⟩ := within.at_path path
        have isDeclared := checks.declared result succeeds moved within
        rw [InputKey.IsDeclared, sameName, sameDeclared] at isDeclared
        exact isDeclared
    | single isListAgain within =>
        rw [isList] at isListAgain
        cases isListAgain
        exact checks.declared result succeeds key within
  · obtain ⟨key, within, named⟩ := checks.undeclared place name reported
    exact ⟨key, .single isList within, named⟩

/-- A document that is neither a list nor an object has no keys, and neither has a list that is
read as anything but a list. -/
theorem not_keyWithin_of_kind
    (notObject : ∀ entries, document ≠ .object entries)
    (notArray : ∀ items, document = .array items -> type.element? = none)
    (key : InputKey) :
    ¬registry.KeyWithin type path document key := by
  intro within
  cases within with
  | name | value => exact notObject _ rfl
  | item isList | single isList =>
      rw [notArray _ rfl] at isList
      cases isList

end Documents

end RelationalApi
