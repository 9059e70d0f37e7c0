import Mathlib.Data.List.Perm.Subperm
import RelationalApi.Storage.Comparison

/-!
# Well-formed documents and their equality

A well-formed document is one that a reader can produce: no object has a key twice, whole numbers
have at most 64 bits, and doubles are finite.  Equality looks up the partner of every entry of the
left object in the right one, so it is symmetric only where keys are distinct; on well-formed
documents it is.

The comparison of doubles is that of their unpacked forms, which swaps its answer when its
arguments are swapped.  So `==` is symmetric, although it is neither reflexive nor a congruence.
-/

namespace RelationalApi

/-! ## Comparison of doubles -/

namespace Double

open Float.Model

theorem compare_signs_swap (left right : UnpackedFloat.Sign) :
    compare right left = (compare left right).swap := by
  cases left <;> cases right <;> rfl

/-- Unpacked doubles compare the other way round when they are swapped. -/
theorem compare_unpacked_swap (left right : UnpackedFloat) :
    right.compare left = (left.compare right).map Ordering.swap := by
  cases left with
  | notANumber => cases right <;> rfl
  | infinity leftSign =>
      cases right with
      | infinity rightSign =>
          exact congrArg some (compare_signs_swap leftSign rightSign)
      | notANumber => rfl
      | zero sign => cases leftSign <;> rfl
      | finite sign mantissa exponent positive => cases leftSign <;> rfl
  | zero leftSign =>
      cases right with
      | infinity rightSign => cases rightSign <;> rfl
      | notANumber => rfl
      | zero sign => rfl
      | finite sign mantissa exponent positive => cases sign <;> rfl
  | finite leftSign leftMantissa leftExponent leftPositive =>
      cases right with
      | infinity rightSign => cases rightSign <;> rfl
      | notANumber => rfl
      | zero sign => cases leftSign <;> rfl
      | finite rightSign rightMantissa rightExponent rightPositive =>
          have exponents : compare rightExponent leftExponent =
              (compare leftExponent rightExponent).swap := Std.OrientedOrd.eq_swap
          have mantissas : compare rightMantissa leftMantissa =
              (compare leftMantissa rightMantissa).swap := Std.OrientedOrd.eq_swap
          have pairs : (compare rightExponent leftExponent).then
                (compare rightMantissa leftMantissa) =
              ((compare leftExponent rightExponent).then
                (compare leftMantissa rightMantissa)).swap := by
            rw [exponents, mantissas, Ordering.swap_then]
          cases leftSign with
          | positive =>
              cases rightSign with
              | positive => exact congrArg some pairs
              | negative => rfl
          | negative =>
              cases rightSign with
              | positive => rfl
              | negative => exact congrArg (fun order => some order.swap) pairs

theorem beq_eq_compare (left right : Float) :
    (left == right) = (left.toModel.unpack.compare right.toModel.unpack == some .eq) := rfl

theorem lt_iff_compare (left right : Float) :
    left < right ↔ left.toModel.unpack.compare right.toModel.unpack = some .lt := by
  change decide (left.toModel.lt right.toModel = true) = true ↔ _
  rw [decide_eq_true_iff]
  exact beq_iff_eq

/-- Comparing doubles by `<`, `==` and `>` gives the comparison of their unpacked forms. -/
theorem compareFloats_eq (left right : Float) :
    compareFloats left right = left.toModel.unpack.compare right.toModel.unpack := by
  have swapped := compare_unpacked_swap left.toModel.unpack right.toModel.unpack
  simp only [compareFloats, gt_iff_lt, lt_iff_compare, beq_eq_compare, swapped]
  cases left.toModel.unpack.compare right.toModel.unpack with
  | none => rfl
  | some order => cases order <;> rfl

theorem compareFloats_swap (left right : Float) :
    compareFloats right left = (compareFloats left right).map Ordering.swap := by
  rw [compareFloats_eq, compareFloats_eq, compare_unpacked_swap]

theorem beq_comm (left right : Float) : (left == right) = (right == left) := by
  rw [beq_eq_compare, beq_eq_compare, compare_unpacked_swap left.toModel.unpack]
  cases left.toModel.unpack.compare right.toModel.unpack with
  | none => rfl
  | some order => cases order <;> rfl

end Double

/-! ## Well-formed documents -/

/-- A number that a reader can produce. -/
def JsonNumber.isWellFormed : JsonNumber → Bool
  | .int value => decide (-Int.pow 2 63 ≤ value) && decide (value < Int.pow 2 64)
  | .float value => value.isFinite

namespace Json

mutual

/-- Whether a document is one that a reader can produce. -/
def isWellFormed : Json → Bool
  | .null => true
  | .bool _ => true
  | .number value => value.isWellFormed
  | .string _ => true
  | .array items => itemsWellFormed items
  | .object entries => decide (JsonEntries.keys entries).Nodup && entriesWellFormed entries

/-- Whether all items of a list are well-formed. -/
def itemsWellFormed : List Json → Bool
  | [] => true
  | item :: items => isWellFormed item && itemsWellFormed items

/-- Whether the values of all entries are well-formed. -/
def entriesWellFormed : JsonEntries → Bool
  | [] => true
  | (_, value) :: entries => isWellFormed value && entriesWellFormed entries

end

@[simp] theorem isWellFormed_array (items : List Json) :
    isWellFormed (.array items) = itemsWellFormed items := by
  rw [isWellFormed]

@[simp] theorem isWellFormed_object (entries : JsonEntries) :
    isWellFormed (.object entries) =
      (decide (JsonEntries.keys entries).Nodup && entriesWellFormed entries) := by
  rw [isWellFormed]

theorem itemsWellFormed_iff (items : List Json) :
    itemsWellFormed items = true ↔ ∀ item ∈ items, isWellFormed item = true := by
  induction items with
  | nil => simp [itemsWellFormed]
  | cons item items inductionHypothesis =>
      simp [itemsWellFormed, inductionHypothesis]

theorem entriesWellFormed_iff (entries : JsonEntries) :
    entriesWellFormed entries = true ↔
      ∀ entry ∈ entries, isWellFormed entry.2 = true := by
  induction entries with
  | nil => simp [entriesWellFormed]
  | cons entry entries inductionHypothesis =>
      simp [entriesWellFormed, inductionHypothesis]

end Json

namespace JsonEntries

/-- A look-up finds an entry of the list. -/
theorem mem_of_lookup
    {entries : JsonEntries}
    {key : String}
    {value : Json}
    (found : entries.lookup key = some value) :
    (key, value) ∈ entries := by
  obtain ⟨front, back, rfl, _⟩ := List.lookup_eq_some_iff.1 found
  simp

/-- Where keys are distinct, a look-up finds every entry. -/
theorem lookup_of_mem
    {entries : JsonEntries}
    {key : String}
    {value : Json}
    (distinct : entries.keys.Nodup)
    (member : (key, value) ∈ entries) :
    entries.lookup key = some value := by
  induction entries with
  | nil => simp at member
  | cons entry entries inductionHypothesis =>
      obtain ⟨firstKey, firstValue⟩ := entry
      simp only [keys, List.map_cons, List.nodup_cons] at distinct
      rcases List.mem_cons.1 member with same | later
      · cases same
        simp
      · have different : key ≠ firstKey := by
          rintro rfl
          exact distinct.1 (List.mem_map_of_mem later)
        rw [List.lookup_cons, beq_eq_false_iff_ne.2 different]
        exact inductionHypothesis distinct.2 later

end JsonEntries

namespace Json

/-- Entries have equal partners when a look-up finds an equal value for each of them. -/
theorem equalEntries_iff (entries others : JsonEntries) :
    equalEntries entries others = true ↔
      ∀ entry ∈ entries, ∃ other,
        others.lookup entry.1 = some other ∧ equal entry.2 other = true := by
  induction entries with
  | nil => simp [equalEntries]
  | cons entry entries inductionHypothesis =>
      obtain ⟨key, value⟩ := entry
      rw [equalEntries, Bool.and_eq_true, inductionHypothesis, List.forall_mem_cons]
      refine and_congr_left fun _ => ?_
      cases found : others.lookup key <;> simp

/-- Equal objects of distinct keys have partners in the other direction too.  Having as many keys,
all of which occur on the right, the left one has every key of the right one. -/
theorem exists_partner
    {lefts rights : JsonEntries}
    (leftDistinct : lefts.keys.Nodup)
    (rightDistinct : rights.keys.Nodup)
    (sameLength : lefts.length = rights.length)
    (partners : equalEntries lefts rights = true)
    {key : String}
    {value : Json}
    (member : (key, value) ∈ rights) :
    ∃ other, (key, other) ∈ lefts ∧ equal other value = true := by
  rw [equalEntries_iff] at partners
  have included : lefts.keys ⊆ rights.keys := by
    intro name present
    obtain ⟨entry, entryMember, rfl⟩ := List.mem_map.1 present
    obtain ⟨other, found, _⟩ := partners entry entryMember
    exact List.mem_map.2 ⟨_, JsonEntries.mem_of_lookup found, rfl⟩
  have rearranged : lefts.keys.Perm rights.keys :=
    (List.subperm_of_subset leftDistinct included).perm_of_length_le
      (by simp [JsonEntries.keys, sameLength])
  have present : key ∈ lefts.keys :=
    rearranged.mem_iff.2 (List.mem_map.2 ⟨_, member, rfl⟩)
  obtain ⟨⟨name, other⟩, entryMember, rfl⟩ := List.mem_map.1 present
  obtain ⟨partner, found, equalPartner⟩ := partners _ entryMember
  have samePartner : partner = value := by
    rw [JsonEntries.lookup_of_mem rightDistinct member] at found
    exact (Option.some.inj found).symm
  exact ⟨other, entryMember, samePartner ▸ equalPartner⟩

theorem equalNumbers_comm (left right : JsonNumber) : (left == right) = (right == left) := by
  cases left with
  | int left =>
      cases right with
      | int right =>
          change (left == right) = (right == left)
          exact Bool.beq_comm
      | float right => rfl
  | float left =>
      cases right with
      | int right => rfl
      | float right => exact Double.beq_comm left right

mutual

/-- Equality of well-formed documents is symmetric. -/
theorem equal_symm :
    (left right : Json) -> isWellFormed left = true -> isWellFormed right = true ->
      equal left right = true -> equal right left = true
  | .null, right, _, _, same => by
      cases right <;> simp_all [equal]
  | .bool left, right, _, _, same => by
      cases right <;> simp_all [equal]
  | .number left, right, _, _, same => by
      cases right with
      | number right =>
          rw [equal] at same ⊢
          rw [equalNumbers_comm, same]
      | _ => simp [equal] at same
  | .string left, right, _, _, same => by
      cases right <;> simp_all [equal]
  | .array lefts, right, leftWellFormed, rightWellFormed, same => by
      cases right with
      | array rights =>
          rw [equal] at same ⊢
          rw [isWellFormed_array] at leftWellFormed rightWellFormed
          exact equalItems_symm lefts rights leftWellFormed rightWellFormed same
      | _ => simp [equal] at same
  | .object lefts, right, leftWellFormed, rightWellFormed, same => by
      cases right with
      | object rights =>
          rw [equal, Bool.and_eq_true, beq_iff_eq] at same ⊢
          rw [isWellFormed_object, Bool.and_eq_true, decide_eq_true_iff] at leftWellFormed
          rw [isWellFormed_object, Bool.and_eq_true, decide_eq_true_iff] at rightWellFormed
          refine ⟨same.1.symm, (equalEntries_iff rights lefts).2 ?_⟩
          rintro ⟨key, value⟩ member
          obtain ⟨other, otherMember, otherEqual⟩ :=
            exists_partner leftWellFormed.1 rightWellFormed.1 same.1 same.2 member
          refine ⟨other, JsonEntries.lookup_of_mem leftWellFormed.1 otherMember, ?_⟩
          exact entry_symm lefts leftWellFormed.2 (key, other) otherMember value
            ((entriesWellFormed_iff rights).1 rightWellFormed.2 _ member) otherEqual
      | _ => simp [equal] at same

theorem equalItems_symm :
    (lefts rights : List Json) -> itemsWellFormed lefts = true ->
      itemsWellFormed rights = true -> equalItems lefts rights = true ->
        equalItems rights lefts = true
  | [], rights, _, _, same => by
      cases rights <;> simp_all [equalItems]
  | left :: lefts, rights, leftWellFormed, rightWellFormed, same => by
      cases rights with
      | nil => simp [equalItems] at same
      | cons right rights =>
          rw [itemsWellFormed, Bool.and_eq_true] at leftWellFormed rightWellFormed
          rw [equalItems, Bool.and_eq_true] at same ⊢
          exact ⟨equal_symm left right leftWellFormed.1 rightWellFormed.1 same.1,
            equalItems_symm lefts rights leftWellFormed.2 rightWellFormed.2 same.2⟩

theorem entry_symm :
    (entries : JsonEntries) -> entriesWellFormed entries = true ->
      ∀ entry ∈ entries, ∀ other, isWellFormed other = true ->
        equal entry.2 other = true -> equal other entry.2 = true
  | [], _, _, member => nomatch member
  | (_, value) :: entries, wellFormed, entry, member => by
      rw [entriesWellFormed, Bool.and_eq_true] at wellFormed
      intro other otherWellFormed same
      rcases List.mem_cons.1 member with rfl | later
      · exact equal_symm value other wellFormed.1 otherWellFormed same
      · exact entry_symm entries wellFormed.2 entry later other otherWellFormed same

end

theorem equal_comm
    {left right : Json}
    (leftWellFormed : left.isWellFormed = true)
    (rightWellFormed : right.isWellFormed = true) :
    (left == right) = (right == left) :=
  Bool.eq_iff_iff.2
    ⟨equal_symm left right leftWellFormed rightWellFormed,
      equal_symm right left rightWellFormed leftWellFormed⟩

end Json
end RelationalApi
