import RelationalApi.Calendar.Time
import RelationalApi.Calendar.Timestamp
import RelationalApi.Proofs.Calendar.Dates
import RelationalApi.Proofs.Calendar.Fields

/-!
# Times and timestamps that exist, and their texts

A time that is read is in its day, and in a leap second only behind the last second of a minute.
Such a time is read from its text: the clock shows the leap second as second sixty, and the fraction
loses nothing.

A timestamp that is read has a date and a time that exist, also where an offset or a number of
milliseconds leads to another day.  Its text in answers is read as the timestamp without what is
below a millisecond, provided that its year has four digits.  With a sign in front of the year the
text is read as no timestamp at all: the internet form has no signed years, and the shorter forms
have no `Z`.
-/

namespace RelationalApi

/-! ## Times of day -/

namespace Time

variable {time : Time} {nanosecond : Nat} {input rest : List Char}

/-- The time is one of a day. -/
structure Exists (time : Time) : Prop where
  inDay : time.second < 86400
  inSecond : time.nanosecond < 2000000000
  inLeapSecond : 1000000000 ≤ time.nanosecond -> time.second % 60 = 59

theorem exists_midnight : midnight.Exists :=
  ⟨by decide, by decide, by decide⟩

/-- The time with another fraction of its second, or of its leap second. -/
def withFraction (time : Time) (nanosecond : Nat) : Time :=
  ⟨time.second, time.nanosecond / 1000000000 * 1000000000 + nanosecond⟩

theorem exists_withFraction (exist : time.Exists) (fraction : nanosecond < 1000000000) :
    (time.withFraction nanosecond).Exists := by
  have inSecond := exist.inSecond
  have inLeapSecond := exist.inLeapSecond
  obtain ⟨second, stored⟩ := time
  dsimp only at inSecond inLeapSecond
  constructor
  · exact exist.inDay
  · change stored / 1000000000 * 1000000000 + nanosecond < 2000000000
    omega
  · change 1000000000 ≤ stored / 1000000000 * 1000000000 + nanosecond -> second % 60 = 59
    intro isLeap
    exact inLeapSecond (by omega)

theorem withFraction_self (time : Time) :
    time.withFraction (time.nanosecond % 1000000000) = time := by
  have parts : time.nanosecond / 1000000000 * 1000000000 + time.nanosecond % 1000000000 =
      time.nanosecond := by
    omega
  rw [withFraction, parts]

theorem exists_of_ofParts?
    {hour minute second : Nat}
    (fraction : nanosecond < 1000000000)
    (made : ofParts? hour minute second nanosecond = some time) :
    time.Exists := by
  simp only [ofParts?, Bool.and_eq_true, decide_eq_true_eq] at made
  split at made
  · split at made
    · cases made
      exact ⟨by dsimp only; omega, by dsimp only; omega, by dsimp only; omega⟩
    · split at made
      · cases made
        exact ⟨by dsimp only; omega, by dsimp only; omega, by dsimp only; omega⟩
      · cases made
  · cases made

/-- The numbers that a clock shows make up the time again. -/
theorem Exists.ofParts? (exist : time.Exists) (nanosecond : Nat) :
    Time.ofParts? (time.second / 3600) (time.second / 60 % 60) time.shownSecond nanosecond =
      some (time.withFraction nanosecond) := by
  have inDay := exist.inDay
  have inSecond := exist.inSecond
  have clock :
      (decide (time.second / 3600 < 24) && decide (time.second / 60 % 60 < 60)) = true := by
    simp only [Bool.and_eq_true, decide_eq_true_eq]
    omega
  rw [Time.ofParts?, if_pos clock, withFraction, shownSecond]
  by_cases isLeap : 1000000000 ≤ time.nanosecond
  · have last := exist.inLeapSecond isLeap
    have one : time.nanosecond / 1000000000 = 1 := by omega
    rw [if_neg (by omega), if_pos (by omega), one, Option.some.injEq, Time.mk.injEq]
    omega
  · have zero : time.nanosecond / 1000000000 = 0 := by omega
    rw [if_pos (by omega), zero, Option.some.injEq, Time.mk.injEq]
    omega

theorem Exists.shownSecond_le (exist : time.Exists) : time.shownSecond ≤ 60 := by
  have inSecond := exist.inSecond
  have inLeapSecond := exist.inLeapSecond
  rw [shownSecond]
  omega

/-! ## Texts -/

/-- Hour and minute are read from a clock, whatever follows them. -/
theorem readMinutes_clock (exist : time.Exists) (rest : List Char) :
    readMinutes (Calendar.padded 2 (time.second / 3600) ++
        ':' :: (Calendar.padded 2 (time.second / 60 % 60) ++ rest)) =
      some (time.second / 3600, time.second / 60 % 60, rest) := by
  have inDay := exist.inDay
  simp only [readMinutes, Option.bind_eq_bind, Option.bind_some, Calendar.readMark_cons,
    Calendar.readPadded_padded (show time.second / 3600 < 100 by omega),
    Calendar.readPadded_padded (show time.second / 60 % 60 < 100 by omega)]

/-- A clock and a fraction are read as the time of both. -/
theorem readSeconds_clockChars
    (exist : time.Exists)
    {behind : List Char}
    (fraction : Calendar.readFraction rest = some (nanosecond, behind)) :
    readSeconds (time.clockChars ++ rest) = some (time.withFraction nanosecond, behind) := by
  have shown := exist.shownSecond_le
  rw [clockChars, List.append_assoc, List.append_assoc, List.cons_append, List.cons_append,
    readSeconds, readMinutes_clock exist]
  simp only [Option.bind_eq_bind, Option.bind_some, Calendar.readMark_cons,
    Calendar.readPadded_padded (show time.shownSecond < 100 by omega), fraction, exist.ofParts?]

theorem readFraction_fractionChars (time : Time) :
    Calendar.readFraction time.fractionChars = some (time.nanosecond % 1000000000, []) := by
  have padded : ∀ {width value fraction : Nat}, 0 < width -> width ≤ 9 -> value < 10 ^ width ->
      value * 10 ^ (9 - width) = fraction ->
        Calendar.readFraction ('.' :: Calendar.padded width value) = some (fraction, []) := by
    intro width value fraction positive short fits same
    have read := Calendar.readFraction_padded positive short fits Calendar.endsField_nil
    rw [List.append_nil, Nat.pow_eq, same] at read
    exact read
  rw [fractionChars]
  split
  · rename_i isZero
    rw [isZero]
    rfl
  · split
    · exact padded (by decide) (by decide) (by omega) (by omega)
    · split
      · exact padded (by decide) (by decide) (by omega) (by omega)
      · exact padded (by decide) (by decide) (by omega) (by omega)

/-- A time that exists is read from its text. -/
theorem ofText?_toText (exist : time.Exists) : ofText? time.toText = some time := by
  have read := readSeconds_clockChars exist (readFraction_fractionChars time)
  rw [withFraction_self] at read
  rw [ofText?, toText, String.toList_ofList, ofSecondsChars?, read]
  rfl

theorem exists_of_ofSecondsChars? (found : ofSecondsChars? input = some time) : time.Exists := by
  rw [ofSecondsChars?] at found
  split at found
  · rename_i read
    cases found
    simp only [readSeconds, Option.bind_eq_bind, Option.bind_eq_some_iff, Prod.exists,
      Option.some.injEq, Prod.mk.injEq] at read
    obtain ⟨_, _, _, _, _, _, _, _, _, _, _, fraction, _, made, rfl, _⟩ := read
    exact exists_of_ofParts? (Calendar.readFraction_lt fraction) made
  · cases found

theorem exists_of_ofMinutesChars? (found : ofMinutesChars? input = some time) : time.Exists := by
  rw [ofMinutesChars?] at found
  split at found
  · exact exists_of_ofParts? (by decide) found
  · cases found

/-- A time that is read exists. -/
theorem exists_of_ofText? {text : String} (found : ofText? text = some time) : time.Exists := by
  rw [ofText?, Option.or_eq_some_iff] at found
  rcases found with found | ⟨_, found⟩
  · exact exists_of_ofSecondsChars? found
  · exact exists_of_ofMinutesChars? found

end Time

/-! ## Timestamps -/

namespace Timestamp

variable {timestamp : Timestamp} {date : Date} {time : Time} {input rest : List Char}

/-- Date and time exist. -/
structure Exists (timestamp : Timestamp) : Prop where
  date : timestamp.date.Exists
  time : timestamp.time.Exists

/-! ## What is read exists -/

/-- Taking off an offset of whole minutes leads to a timestamp that exists. -/
theorem exists_of_ofOffset?
    {offset : Int}
    (dateExists : date.Exists)
    (timeExists : time.Exists)
    (wholeMinutes : offset % 60 = 0)
    (made : ofOffset? date time offset = some timestamp) :
    timestamp.Exists := by
  have inSecond := timeExists.inSecond
  have inLeapSecond := timeExists.inLeapSecond
  simp only [ofOffset?, Option.ite_none_right_eq_some, Bool.and_eq_true, decide_eq_true_eq,
    Option.some.injEq] at made
  obtain ⟨⟨least, greatest⟩, rfl⟩ := made
  refine ⟨?_, by dsimp only; omega, inSecond, by dsimp only; omega⟩
  dsimp only at least greatest ⊢
  split at least
  · rename_i sameDay
    rw [if_pos sameDay]
    exact dateExists
  · rename_i otherDay
    rw [if_neg otherDay] at greatest ⊢
    exact Date.exists_ofDayNumber least greatest

theorem exists_of_ofMilliseconds?
    {milliseconds : Int}
    (made : ofMilliseconds? milliseconds = some timestamp) :
    timestamp.Exists := by
  simp only [ofMilliseconds?, Option.ite_none_right_eq_some, Bool.and_eq_true, decide_eq_true_eq,
    Option.some.injEq] at made
  obtain ⟨⟨least, greatest⟩, rfl⟩ := made
  exact ⟨Date.exists_ofDayNumber least greatest, by dsimp only; omega, by dsimp only; omega,
    by dsimp only; omega⟩

/-- Offsets are whole minutes. -/
theorem readOffset_wholeMinutes
    {separator : List Char -> Option (List Char)}
    {offset : Int}
    (read : readOffset separator input = some (offset, rest)) :
    offset % 60 = 0 := by
  rw [readOffset.eq_def] at read
  split at read
  · cases read
    rfl
  · cases read
    rfl
  · simp only [Option.bind_eq_bind] at read
    split at read
    · simp only [Option.bind_some, Option.bind_eq_some_iff, Prod.exists,
        Option.ite_none_right_eq_some, Option.some.injEq, Prod.mk.injEq] at read
      obtain ⟨_, _, _, _, _, _, _, _, _, rfl, _⟩ := read
      split <;> omega
    · split at read
      · simp only [Option.bind_some, Option.bind_eq_some_iff, Prod.exists,
          Option.ite_none_right_eq_some, Option.some.injEq, Prod.mk.injEq] at read
        obtain ⟨_, _, _, _, _, _, _, _, _, rfl, _⟩ := read
        split <;> omega
      · cases read
  · cases read

theorem exists_of_ofInternetChars? (found : ofInternetChars? input = some timestamp) :
    timestamp.Exists := by
  -- The fields before the fraction are read one after another.
  rw [ofInternetChars?] at found
  iterate 11 obtain ⟨_, _, found⟩ := Option.bind_eq_some_iff.1 found
  obtain ⟨_, fraction, found⟩ := Option.bind_eq_some_iff.1 found
  obtain ⟨_, offset, found⟩ := Option.bind_eq_some_iff.1 found
  obtain ⟨date, isDate, found⟩ := Option.bind_eq_some_iff.1 found
  obtain ⟨time, isTime, found⟩ := Option.bind_eq_some_iff.1 found
  obtain ⟨_, made⟩ := Option.ite_none_right_eq_some.1 found
  exact exists_of_ofOffset? (Date.ofParts?_eq_some.1 isDate).2
    (Time.exists_of_ofParts? (Calendar.readFraction_lt fraction) isTime)
    (readOffset_wholeMinutes offset) made

theorem exists_of_ofDateThen?
    {divider : List Char -> Option (List Char)}
    {time? : List Char -> Option Time}
    (timeExists : ∀ {input time}, time? input = some time -> time.Exists)
    (found : ofDateThen? divider time? input = some timestamp) :
    timestamp.Exists := by
  simp only [ofDateThen?, Option.bind_eq_bind, Option.bind_eq_some_iff, Prod.exists,
    Option.some.injEq] at found
  obtain ⟨date, _, isDate, _, _, time, isTime, rfl⟩ := found
  exact ⟨Date.exists_of_read isDate, timeExists isTime⟩

/-- A timestamp that is read exists. -/
theorem exists_of_ofText? {text : String} (found : ofText? text = some timestamp) :
    timestamp.Exists := by
  simp only [ofText?, Option.or_eq_some_iff] at found
  rcases found with found | ⟨_, found | ⟨_, found | ⟨_, found | ⟨_, found | ⟨_, found⟩⟩⟩⟩⟩
  · exact exists_of_ofInternetChars? found
  · exact exists_of_ofDateThen? Time.exists_of_ofSecondsChars? found
  · exact exists_of_ofDateThen? Time.exists_of_ofSecondsChars? found
  · exact exists_of_ofDateThen? Time.exists_of_ofMinutesChars? found
  · exact exists_of_ofDateThen? Time.exists_of_ofMinutesChars? found
  · split at found
    · rename_i date isDate
      cases found
      exact ⟨Date.exists_of_read isDate, Time.exists_midnight⟩
    · cases found

/-! ## Texts -/

/-- The timestamp without what is below a millisecond. -/
def cut (timestamp : Timestamp) : Timestamp :=
  ⟨timestamp.date,
    timestamp.time.withFraction (timestamp.time.nanosecond % 1000000000 / 1000000 * 1000000)⟩

theorem cut_eq_self_iff (timestamp : Timestamp) :
    timestamp.cut = timestamp ↔ timestamp.time.nanosecond % 1000000 = 0 := by
  obtain ⟨date, second, nanosecond⟩ := timestamp
  simp only [cut, Time.withFraction, Timestamp.mk.injEq, Time.mk.injEq, true_and]
  omega

/-- The characters behind the date in answers. -/
def clockText (timestamp : Timestamp) : List Char :=
  timestamp.time.clockChars ++
    '.' :: (Calendar.padded 3 (timestamp.time.nanosecond % 1000000000 / 1000000) ++ ['Z'])

theorem toList_toMillisecondText (timestamp : Timestamp) :
    timestamp.toMillisecondText.toList =
      timestamp.date.textChars ++ 'T' :: timestamp.clockText := by
  rw [toMillisecondText, String.toList_ofList, clockText]
  simp only [List.append_assoc, List.cons_append]

theorem trimBlanks_toMillisecondText (timestamp : Timestamp) :
    Text.trimBlanks timestamp.toMillisecondText.toList =
      timestamp.date.textChars ++ 'T' :: timestamp.clockText := by
  have padded : ∀ width value, ∀ character ∈ Calendar.padded width value,
      Text.isBlank character = false := fun width value character member =>
    Text.isBlank_of_isDigit (List.all_eq_true.1 (Calendar.all_isDigit_padded width value) _ member)
  have year : ∀ character ∈ Date.yearText timestamp.date.year, Text.isBlank character = false := by
    rw [Date.yearText]
    split
    · exact List.forall_mem_cons.2 ⟨by decide, padded _ _⟩
    · split
      · exact List.forall_mem_cons.2 ⟨by decide, padded _ _⟩
      · exact padded _ _
  rw [toList_toMillisecondText]
  refine Text.trimBlanks_of_forall ?_
  simp only [Date.textChars, clockText, Time.clockChars, List.forall_mem_append,
    List.forall_mem_cons]
  exact ⟨⟨⟨year, by decide, padded _ _⟩, by decide, padded _ _⟩, by decide,
    ⟨⟨padded _ _, by decide, padded _ _⟩, by decide, padded _ _⟩, by decide, padded _ _, by decide,
    by simp⟩

theorem readFraction_millisecond (timestamp : Timestamp) :
    Calendar.readFraction ('.' ::
        (Calendar.padded 3 (timestamp.time.nanosecond % 1000000000 / 1000000) ++ ['Z'])) =
      some (timestamp.time.nanosecond % 1000000000 / 1000000 * 1000000, ['Z']) := by
  have ends : Calendar.EndsField ['Z'] := Calendar.endsField_cons rfl
  exact Calendar.readFraction_padded (by decide) (by decide) (by omega) ends

theorem readDivider_cons (rest : List Char) : readDivider ('T' :: rest) = some rest := rfl

theorem readOffset_zulu (separator : List Char -> Option (List Char)) :
    readOffset separator ['Z'] = some (0, []) := rfl

theorem ofOffset?_zero (dateExists : date.Exists) (timeExists : time.Exists) :
    ofOffset? date time 0 = some ⟨date, time⟩ := by
  have inDay := timeExists.inDay
  have sameDay : ((time.second : Int) - 0) / 86400 = 0 := by omega
  have sameSecond : (((time.second : Int) - 0) % 86400).toNat = time.second := by omega
  simp only [ofOffset?, sameDay, if_true, sameSecond, dateExists.least, dateExists.greatest,
    decide_true, Bool.and_self]

/-- With a year of four digits the text in answers is read as the timestamp, cut to
milliseconds. -/
theorem ofText?_toMillisecondText
    (exist : timestamp.Exists)
    (fourDigits : 0 ≤ timestamp.date.year ∧ timestamp.date.year ≤ 9999) :
    ofText? timestamp.toMillisecondText = some timestamp.cut := by
  have year : Date.yearText timestamp.date.year =
      Calendar.padded 4 timestamp.date.year.natAbs := by
    rw [Date.yearText, if_neg (by omega), if_neg (by omega)]
  have sameYear : (timestamp.date.year.natAbs : Int) = timestamp.date.year := by omega
  have month := exist.date.month_le
  have day := exist.date.day_le
  have inDay := exist.time.inDay
  have second := exist.time.shownSecond_le
  have internet : ofInternetChars? (timestamp.date.textChars ++ 'T' :: timestamp.clockText) =
      some timestamp.cut := by
    rw [Date.textChars, year, clockText, Time.clockChars]
    simp only [List.append_assoc, List.cons_append]
    have twoDigits : ∀ {value : Nat} (rest : List Char), value < 100 ->
        Calendar.readExact 2 (Calendar.padded 2 value ++ rest) = some (value, rest) :=
      fun rest fits => Calendar.readExact_padded (by decide) fits rest
    refine Option.bind_eq_some_iff.2 ⟨_, Calendar.readExact_padded (by decide) (by omega) _, ?_⟩
    refine Option.bind_eq_some_iff.2 ⟨_, Calendar.readMark_cons _ _, ?_⟩
    refine Option.bind_eq_some_iff.2 ⟨_, twoDigits _ (by omega), ?_⟩
    refine Option.bind_eq_some_iff.2 ⟨_, Calendar.readMark_cons _ _, ?_⟩
    refine Option.bind_eq_some_iff.2 ⟨_, twoDigits _ (by omega), ?_⟩
    refine Option.bind_eq_some_iff.2 ⟨_, readDivider_cons _, ?_⟩
    refine Option.bind_eq_some_iff.2 ⟨_, twoDigits _ (by omega), ?_⟩
    refine Option.bind_eq_some_iff.2 ⟨_, Calendar.readMark_cons _ _, ?_⟩
    refine Option.bind_eq_some_iff.2 ⟨_, twoDigits _ (by omega), ?_⟩
    refine Option.bind_eq_some_iff.2 ⟨_, Calendar.readMark_cons _ _, ?_⟩
    refine Option.bind_eq_some_iff.2 ⟨_, twoDigits _ (by omega), ?_⟩
    refine Option.bind_eq_some_iff.2 ⟨_, readFraction_millisecond timestamp, ?_⟩
    refine Option.bind_eq_some_iff.2 ⟨_, readOffset_zulu _, ?_⟩
    refine Option.bind_eq_some_iff.2 ⟨_, sameYear.symm ▸ exist.date.ofParts?, ?_⟩
    refine Option.bind_eq_some_iff.2 ⟨_, exist.time.ofParts? _, ?_⟩
    rw [List.isEmpty_nil, if_pos rfl]
    exact ofOffset?_zero exist.date (Time.exists_withFraction exist.time (by omega))
  simp only [ofText?, trimBlanks_toMillisecondText, internet, Option.some_or]

/-- No time starts with the mark between date and time. -/
theorem readMinutes_divider (rest : List Char) : Time.readMinutes ('T' :: rest) = none := by
  have ends : Calendar.EndsField ('T' :: rest) := Calendar.endsField_cons rfl
  rw [Time.readMinutes, Calendar.readPadded, Text.trimFront_cons (by decide),
    Calendar.readDigits_eq_none (by decide) ends]
  rfl

/-- With a sign in front of the year the text in answers is no timestamp. -/
theorem ofText?_toMillisecondText_eq_none
    (exist : timestamp.Exists)
    (signed : timestamp.date.year < 0 ∨ 9999 < timestamp.date.year) :
    ofText? timestamp.toMillisecondText = none := by
  have ends : ∀ rest, Calendar.EndsField (Date.yearText timestamp.date.year ++ rest) := by
    intro rest
    rw [Date.yearText]
    split
    · exact Calendar.endsField_cons rfl
    · rw [if_pos (by omega)]
      exact Calendar.endsField_cons rfl
  have noInternet :
      ofInternetChars? (timestamp.date.textChars ++ 'T' :: timestamp.clockText) = none := by
    rw [ofInternetChars?, Date.textChars, List.append_assoc, List.append_assoc, Calendar.readExact,
      Calendar.readDigits_eq_none (by decide) (ends _)]
    rfl
  have isDate := Date.read_textChars exist.date ('T' :: timestamp.clockText)
  have noSeconds : Time.ofSecondsChars? timestamp.clockText = none := by
    rw [Time.ofSecondsChars?, clockText,
      Time.readSeconds_clockChars exist.time (readFraction_millisecond timestamp)]
  have noMinutes : Time.ofMinutesChars? timestamp.clockText = none := by
    rw [Time.ofMinutesChars?, clockText, Time.clockChars, List.append_assoc, List.append_assoc,
      List.cons_append, Time.readMinutes_clock exist.time, List.cons_append]
  have skipped : skipBlanks ('T' :: timestamp.clockText) = some ('T' :: timestamp.clockText) := by
    rw [skipBlanks, Text.trimFront_cons (by decide)]
  have noSecondsThere : Time.ofSecondsChars? ('T' :: timestamp.clockText) = none := by
    rw [Time.ofSecondsChars?, Time.readSeconds, readMinutes_divider]
    rfl
  have noMinutesThere : Time.ofMinutesChars? ('T' :: timestamp.clockText) = none := by
    rw [Time.ofMinutesChars?, readMinutes_divider]
  simp only [ofText?, trimBlanks_toMillisecondText, noInternet, ofDateThen?, isDate,
    Option.bind_eq_bind, Option.bind_some, Calendar.readMark_cons, noSeconds, noMinutes, skipped,
    noSecondsThere, noMinutesThere, Option.bind_none, Option.none_or]

end Timestamp

end RelationalApi
