import Mathlib.Tactic.IntervalCases
import RelationalApi.Calendar.Date
import RelationalApi.Proofs.Calendar.Fields

/-!
# Dates that exist, and their texts

A date that is read has a day that its month has.  So has every date that lies a number of days
after another: an era of 400 years is four centuries of 25 leap cycles each, and only the last
century has a leap day in its last year.  A date that exists is read from its text.
-/

namespace RelationalApi
namespace Date

variable {date : Date} {input rest : List Char}

/-- The date is a day of the calendar. -/
structure Exists (date : Date) : Prop where
  least : leastYear ≤ date.year
  greatest : date.year ≤ greatestYear
  positive : 1 ≤ date.day
  inMonth : date.day ≤ daysInMonth date.year date.month

theorem ofParts?_eq_some {year : Int} {month day : Nat} :
    ofParts? year month day = some date ↔ date = ⟨year, month, day⟩ ∧ date.Exists := by
  rw [ofParts?]
  constructor
  · intro made
    split at made
    · rename_i inRange
      simp only [Bool.and_eq_true, decide_eq_true_eq] at inRange
      cases made
      exact ⟨rfl, inRange.1.1.1, inRange.1.1.2, inRange.1.2, inRange.2⟩
    · cases made
  · rintro ⟨rfl, exist⟩
    rw [if_pos]
    simp only [Bool.and_eq_true, decide_eq_true_eq]
    exact ⟨⟨⟨exist.least, exist.greatest⟩, exist.positive⟩, exist.inMonth⟩

theorem Exists.ofParts? (exist : date.Exists) :
    Date.ofParts? date.year date.month date.day = some date :=
  ofParts?_eq_some.2 ⟨rfl, exist⟩

theorem daysInMonth_le (year : Int) (month : Nat) : daysInMonth year month ≤ 31 := by
  unfold daysInMonth
  split
  · split <;> decide
  · split
    · decide
    · split <;> decide

theorem Exists.day_le (exist : date.Exists) : date.day ≤ 31 :=
  Nat.le_trans exist.inMonth (daysInMonth_le _ _)

/-- Only the months from January to December have days. -/
theorem Exists.month_le (exist : date.Exists) : date.month ≤ 12 := by
  have days := Nat.le_trans exist.positive exist.inMonth
  unfold daysInMonth at days
  split at days
  · omega
  · split at days
    · rename_i isShort
      simp only [Bool.or_eq_true, decide_eq_true_eq] at isShort
      omega
    · split at days
      · rename_i isMonth
        simp only [Bool.and_eq_true, decide_eq_true_eq] at isMonth
        exact isMonth.2
      · cases days

/-! ## Days after another -/

/-- The day of an era as a century, a leap cycle, a year and a day.  The last day of a leap year is
behind the third year of a cycle, and behind the last cycle only of the last century. -/
structure EraDay where
  century : Int
  cycle : Int
  year : Int
  day : Int
  centuryBound : 0 ≤ century ∧ century ≤ 3
  cycleBound : 0 ≤ cycle ∧ cycle ≤ 24
  yearBound : 0 ≤ year ∧ year ≤ 3
  dayBound : 0 ≤ day ∧ day ≤ 365
  leapDay : day = 365 -> year = 3 ∧ (cycle ≠ 24 ∨ century = 3)

namespace EraDay

/-- The number of the day in its era. -/
def number (place : EraDay) : Int :=
  36524 * place.century + 1461 * place.cycle + 365 * place.year + place.day

/-- The year in its era. -/
def yearOfEra (place : EraDay) : Int :=
  100 * place.century + 4 * place.cycle + place.year

theorem exists_number_eq
    {number : Int}
    (inEra : 0 ≤ number ∧ number ≤ 146096) :
    ∃ place : EraDay, place.number = number := by
  let century := min (number / 36524) 3
  let inCentury := number - 36524 * century
  let inCycle := inCentury % 1461
  let year := min (inCycle / 365) 3
  exact ⟨⟨century, inCentury / 1461, year, inCycle - 365 * year, by omega, by omega, by omega,
    by omega, by omega⟩, by simp only [EraDay.number]; omega⟩

/-- The year of a day is its number without the leap days before it, in years of 365 days. -/
theorem yearOfEra_eq (place : EraDay) :
    (place.number - place.number / 1460 + place.number / 36524 - place.number / 146096) / 365 =
      place.yearOfEra := by
  obtain ⟨century, cycle, year, day, inEra, inCentury, inCycle, inYear, leapDay⟩ := place
  simp only [number, yearOfEra]
  generalize isNumber : 36524 * century + 1461 * cycle + 365 * year + day = number
  have centuries : number / 36524 - number / 146096 = century := by
    by_cases last : number = 146096
    · omega
    · have : number / 146096 = 0 := by omega
      omega
  have cycles : number / 1460 =
      25 * century + cycle + (24 * century + cycle + 365 * year + day) / 1460 := by
    omega
  have leapDays : (24 * century + cycle + 365 * year + day) / 1460 ≤ 1 := by omega
  have withoutLeapDays : number - number / 1460 + number / 36524 - number / 146096 =
      365 * (100 * century + 4 * cycle + year) +
        (day - (24 * century + cycle + 365 * year + day) / 1460) := by
    omega
  rw [withoutLeapDays]
  omega

/-- The day of the year is what the years before leave. -/
theorem dayOfYear_eq (place : EraDay) :
    place.number - (365 * place.yearOfEra + place.yearOfEra / 4 - place.yearOfEra / 100) =
      place.day := by
  obtain ⟨century, cycle, year, day, inEra, inCentury, inCycle, inYear, leapDay⟩ := place
  simp only [number, yearOfEra]
  omega

/-- The year that starts behind a leap day is a leap year. -/
theorem isLeapYear_of_leapDay
    (place : EraDay)
    (isLeapDay : place.day = 365)
    (era : Int) :
    isLeapYear (place.yearOfEra + era * 400 + 1) = true := by
  obtain ⟨isLast, notSkipped⟩ := place.leapDay isLeapDay
  have := place.centuryBound
  have := place.cycleBound
  simp only [isLeapYear, yearOfEra, Bool.and_eq_true, Bool.or_eq_true, beq_iff_eq, bne_iff_ne]
  omega

end EraDay

/-- Every day of a year that starts in March is a day of its month, a leap day of a leap year. -/
theorem day_le_daysInMonth
    {dayOfYear month year : Int}
    (inYear : 0 ≤ dayOfYear ∧ dayOfYear ≤ 365)
    (isMonth : month = (5 * dayOfYear + 2) / 153)
    (isLeap : dayOfYear = 365 -> isLeapYear (year + 1) = true) :
    1 ≤ dayOfYear - (153 * month + 2) / 5 + 1 ∧
      (dayOfYear - (153 * month + 2) / 5 + 1).toNat ≤
        daysInMonth (if (if month < 10 then month + 3 else month - 9) ≤ 2 then year + 1 else year)
          (if month < 10 then month + 3 else month - 9).toNat := by
  have least : 0 ≤ month := by omega
  have most : month ≤ 11 := by omega
  by_cases isFebruary : month = 11
  · subst isFebruary
    refine ⟨by omega, ?_⟩
    change _ ≤ if isLeapYear (year + 1) then 29 else 28
    split
    · omega
    · rename_i notLeap
      have notLeapDay : dayOfYear ≠ 365 := fun isLeapDay => notLeap (isLeap isLeapDay)
      omega
  · have beforeFebruary : month ≤ 10 := by omega
    interval_cases month
    all_goals
      refine ⟨by omega, ?_⟩
      simp [daysInMonth]
      omega

/-- A number of days leads to a date that exists, if its year is in range. -/
theorem exists_ofDayNumber
    {number : Int}
    (least : leastYear ≤ (ofDayNumber number).year)
    (greatest : (ofDayNumber number).year ≤ greatestYear) :
    (ofDayNumber number).Exists := by
  have inEra : 0 ≤ (number + 719468) % 146097 ∧ (number + 719468) % 146097 ≤ 146096 := by omega
  obtain ⟨place, isPlace⟩ := EraDay.exists_number_eq inEra
  have year := place.yearOfEra_eq
  have day := place.dayOfYear_eq
  rw [isPlace] at year day
  have isLeap : place.day = 365 ->
      isLeapYear (place.yearOfEra + (number + 719468) / 146097 * 400 + 1) = true :=
    fun isLeapDay => place.isLeapYear_of_leapDay isLeapDay _
  have inMonth := day_le_daysInMonth place.dayBound rfl isLeap
  refine ⟨least, greatest, ?_, ?_⟩
  · simp only [ofDayNumber, year, day]
    omega
  · simp only [ofDayNumber, year, day]
    exact inMonth.2

/-! ## Texts -/

theorem readYear_yearText (year : Int) (rest : List Char) :
    Calendar.readYear (yearText year ++ '-' :: rest) = some (year, '-' :: rest) := by
  have ends : Calendar.EndsField ('-' :: rest) := Calendar.endsField_cons rfl
  rw [yearText]
  split
  · rw [List.cons_append, Calendar.readYear_minus, Calendar.readDigits_padded _ _ ends,
      Option.map_some, Option.some.injEq, Prod.mk.injEq]
    exact ⟨by omega, rfl⟩
  · split
    · rw [List.cons_append, Calendar.readYear_plus, Calendar.readDigits_padded _ _ ends,
        Option.map_some, Option.some.injEq, Prod.mk.injEq]
      exact ⟨by omega, rfl⟩
    · have length : (Calendar.padded 4 year.natAbs).length = 4 :=
        Calendar.length_padded (by decide) (by omega)
      rw [Calendar.readYear_padded, Calendar.readDigits_append
        (Calendar.all_isDigit_padded 4 year.natAbs) (by omega) (by omega) (.inl length),
        Calendar.digitsValue_padded, Option.map_some, Option.some.injEq, Prod.mk.injEq]
      exact ⟨by omega, rfl⟩

/-- A date that exists is read from its characters, whatever follows them. -/
theorem read_textChars (exist : date.Exists) (rest : List Char) :
    read (date.textChars ++ rest) = some (date, rest) := by
  have month := exist.month_le
  have day := exist.day_le
  rw [read, textChars, List.append_assoc, List.append_assoc, List.cons_append, List.cons_append]
  simp only [Option.bind_eq_bind, readYear_yearText, Option.bind_some, Calendar.readMark_cons,
    Calendar.readPadded_padded (show date.month < 100 by omega),
    Calendar.readPadded_padded (show date.day < 100 by omega), exist.ofParts?]

theorem ofText?_toText (exist : date.Exists) : ofText? date.toText = some date := by
  have read := read_textChars exist []
  rw [List.append_nil] at read
  rw [ofText?, toText, String.toList_ofList, read]

/-- A date that is read exists. -/
theorem exists_of_read (found : read input = some (date, rest)) : date.Exists := by
  simp only [read, Option.bind_eq_bind, Option.bind_eq_some_iff, Prod.exists, Option.some.injEq,
    Prod.mk.injEq] at found
  obtain ⟨_, _, _, _, _, _, _, _, _, _, _, _, _, _, made, rfl, _⟩ := found
  exact (ofParts?_eq_some.1 made).2

theorem exists_of_ofText? {text : String} (found : ofText? text = some date) : date.Exists := by
  rw [ofText?] at found
  split at found
  · rename_i isRead
    cases found
    exact exists_of_read isRead
  · cases found

end Date
end RelationalApi
