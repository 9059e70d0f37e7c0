import RelationalApi.Proofs.Double.Finite
import RelationalApi.Proofs.Json.Rearrangement
import RelationalApi.Proofs.Storage.Equality

/-!
# Values that equal themselves

Finite doubles, well-formed documents and everything else but null equal themselves.  Texts, dates,
times and timestamps equal nothing but themselves.
-/

namespace RelationalApi

namespace Double

open Float.Model

/-- Every unpacked double that is a number compares as equal to itself. -/
theorem compare_unpacked_self
    {value : UnpackedFloat}
    (isNumber : value ≠ .notANumber) :
    value.compare value = some .eq := by
  cases value with
  | notANumber => exact absurd rfl isNumber
  | infinity sign => cases sign <;> rfl
  | zero sign => rfl
  | finite sign mantissa exponent positive =>
      cases sign <;>
        simp [UnpackedFloat.compare, Std.ReflCmp.compare_self]

theorem compareFloats_self {value : Float} (finite : value.isFinite = true) :
    compareFloats value value = some .eq := by
  rw [compareFloats_eq]
  refine compare_unpacked_self ?_
  intro notNumber
  change value.toModel.unpack.isFinite = true at finite
  rw [notNumber] at finite
  cases finite

theorem beq_self {value : Float} (finite : value.isFinite = true) : (value == value) = true := by
  rw [beq_eq_compare, ← compareFloats_eq, compareFloats_self finite]
  rfl

end Double

/-- A well-formed document equals itself. -/
theorem Json.equal_self (document : Json) (wellFormed : document.isWellFormed = true) :
    document.equal document = true := by
  induction document using inside_induction with
  | step document items entries =>
      cases document with
      | null => rfl
      | bool value => exact beq_self_eq_true value
      | string text => exact beq_self_eq_true text
      | number number =>
          cases number with
          | int value => exact beq_self_eq_true value
          | float value => exact Double.beq_self wellFormed
      | array documents =>
          rw [isWellFormed_array, itemsWellFormed_iff] at wellFormed
          have equalSelf : ∀ item ∈ documents, item.equal item = true :=
            fun item member => items documents rfl item member (wellFormed item member)
          rw [Json.equal]
          clear items entries wellFormed
          induction documents with
          | nil => rfl
          | cons first others inductionHypothesis =>
              rw [List.forall_mem_cons] at equalSelf
              rw [equalItems, equalSelf.1, inductionHypothesis equalSelf.2]
              rfl
      | object pairs =>
          rw [isWellFormed_object, Bool.and_eq_true, decide_eq_true_iff, entriesWellFormed_iff]
            at wellFormed
          rw [Json.equal, beq_self_eq_true, Bool.true_and, equalEntries_iff]
          intro entry member
          exact ⟨entry.2, JsonEntries.lookup_of_mem wellFormed.1 member,
            entries pairs rfl entry member (wellFormed.2 entry member)⟩

instance : Std.LawfulEqOrd Date where
  eq_of_compare {left right} same := by
    obtain ⟨year, month, day⟩ := left
    obtain ⟨otherYear, otherMonth, otherDay⟩ := right
    change (compare year otherYear).then
      ((compare month otherMonth).then ((compare day otherDay).then .eq)) = .eq at same
    simp only [Ordering.then_eq_eq, Std.LawfulEqOrd.compare_eq_iff_eq, and_true] at same
    obtain ⟨rfl, rfl, rfl⟩ := same
    rfl

instance : Std.LawfulEqOrd Time where
  eq_of_compare {left right} same := by
    obtain ⟨second, nanosecond⟩ := left
    obtain ⟨otherSecond, otherNanosecond⟩ := right
    change (compare second otherSecond).then
      ((compare nanosecond otherNanosecond).then .eq) = .eq at same
    simp only [Ordering.then_eq_eq, Std.LawfulEqOrd.compare_eq_iff_eq, and_true] at same
    obtain ⟨rfl, rfl⟩ := same
    rfl

instance : Std.LawfulEqOrd Timestamp where
  eq_of_compare {left right} same := by
    obtain ⟨date, time⟩ := left
    obtain ⟨otherDate, otherTime⟩ := right
    change (compare date otherDate).then ((compare time otherTime).then .eq) = .eq at same
    simp only [Ordering.then_eq_eq, Std.LawfulEqOrd.compare_eq_iff_eq, and_true] at same
    obtain ⟨rfl, rfl⟩ := same
    rfl

theorem compareBytes_self (content : List UInt8) : compareBytes content content = .eq := by
  induction content with
  | nil => rfl
  | cons byte content inductionHypothesis =>
      rw [compareBytes, Std.ReflOrd.compare_self, inductionHypothesis]
      rfl

namespace Value

@[simp] theorem equal_bool_self (value : Bool) : (bool value).equal (bool value) = true := by
  cases value <;> rfl

@[simp] theorem equal_int_self (value : Int64) : (int value).equal (int value) = true := by
  rw [equal_eq_order (by simp) (by simp), order?, Std.ReflOrd.compare_self]
  rfl

@[simp] theorem equal_uint_self (value : UInt64) : (uint value).equal (uint value) = true := by
  rw [equal_eq_order (by simp) (by simp), order?, Std.ReflOrd.compare_self]
  rfl

@[simp] theorem equal_bytes_self (content : List UInt8) :
    (bytes content).equal (bytes content) = true := by
  rw [equal_eq_order (by simp) (by simp), order?, compareBytes_self]
  rfl

theorem equal_float_self {value : Float} (finite : value.isFinite = true) :
    (float value).equal (float value) = true := by
  rw [equal_eq_order (by simp) (by simp), order?, Double.compareFloats_self finite]
  rfl

theorem equal_json_self {document : Json} (wellFormed : document.isWellFormed = true) :
    (json document).equal (json document) = true := by
  rw [equal]
  exact document.equal_self wellFormed

/-- Arrays of values that equal themselves do so, too. -/
theorem equal_array_self
    {items : List Value}
    (equalSelf : ∀ item ∈ items, item.equal item = true) :
    (array items).equal (array items) = true := by
  rw [equal]
  induction items with
  | nil => rfl
  | cons first others inductionHypothesis =>
      rw [List.forall_mem_cons] at equalSelf
      rw [equalItems, equalSelf.1, inductionHypothesis equalSelf.2]
      rfl

@[simp] theorem equal_string_iff (text other : String) :
    (string text).equal (string other) = true ↔ text = other := by
  rw [equal_eq_order (by simp) (by simp), order?, beq_iff_eq, Option.some.injEq,
    Std.LawfulEqOrd.compare_eq_iff_eq]

@[simp] theorem equal_date_iff (value other : Date) :
    (date value).equal (date other) = true ↔ value = other := by
  rw [equal_eq_order (by simp) (by simp), order?, beq_iff_eq, Option.some.injEq,
    Std.LawfulEqOrd.compare_eq_iff_eq]

@[simp] theorem equal_time_iff (value other : Time) :
    (time value).equal (time other) = true ↔ value = other := by
  rw [equal_eq_order (by simp) (by simp), order?, beq_iff_eq, Option.some.injEq,
    Std.LawfulEqOrd.compare_eq_iff_eq]

@[simp] theorem equal_timestamp_iff (value other : Timestamp) :
    (timestamp value).equal (timestamp other) = true ↔ value = other := by
  rw [equal_eq_order (by simp) (by simp), order?, beq_iff_eq, Option.some.injEq,
    Std.LawfulEqOrd.compare_eq_iff_eq]

end Value
end RelationalApi
