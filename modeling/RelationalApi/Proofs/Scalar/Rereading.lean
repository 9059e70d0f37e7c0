import RelationalApi.Proofs.Calendar.Timestamps
import RelationalApi.Proofs.Encoding.Texts
import RelationalApi.Proofs.Scalar.EnumMembers
import RelationalApi.Proofs.Scalar.Integers
import RelationalApi.Proofs.Scalar.Shown
import RelationalApi.Proofs.Storage.SelfEquality

/-!
# Reading what is shown

What a codec shows of a value that it read is, for nearly all values, read as an equal value.  There
are three exceptions.  A decimal that was given as a number may be shown with an exponent, which no
decimal has when it is read from a text.  A timestamp is shown without what is below a millisecond.
And a timestamp whose year needs a sign is shown in a form that is not read at all.  A list is read
again as an equal list if all its items are.
-/

namespace RelationalApi

open Outcome

/-! ## What reads what is shown -/

/-- The value that is read from a document, and the value that is expected there, are equal. -/
def Codec.Rereads (codec : Codec) (path : String) (value : Value) (shown : Json) : Prop :=
  ∃ again, codec.read shown path = .ok again ∧ value.equal again = true

/-- Whether a timestamp is shown in full: its year has four digits, and nothing of it is below a
millisecond. -/
def Timestamp.isShownInFull (timestamp : Timestamp) : Bool :=
  0 ≤ timestamp.date.year && timestamp.date.year ≤ 9999 &&
    timestamp.time.nanosecond % 1000000 == 0

/-- Whether a codec shows a value that it read in a form which it reads as an equal value. -/
def Codec.showsInFull : Codec -> Value -> Bool
  | decimal, .string written => isDecimal written.toList
  | timestamp, .timestamp moment => moment.isShownInFull
  | list element, .array items => items.all element.showsInFull
  | _, _ => true

/-- The shown members of all enums are found by their names. -/
def Codec.FindsMembers : Codec -> Prop
  | enumeration _ members => ∀ member ∈ members, ∀ found,
      members.find? (fun other => other.name == member.name || other.value == member.name)
        = some found -> found.value = member.value
  | list element => element.FindsMembers
  | _ => True

theorem Codec.findsMembers_of_ofKind
    {table column : String}
    {kind : ColumnKind}
    {codec : Codec}
    (mapped : ofKind table column kind = .ok codec) :
    codec.FindsMembers := by
  induction kind generalizing codec with
  | enumeration name values =>
      rw [ofKind] at mapped
      split at mapped
      · cases mapped
      · obtain ⟨members, made, same⟩ := bind_eq_ok.1 mapped
        rw [pure_eq_ok] at same
        subst same
        intro member isMember found isFound
        exact value_of_find?_name made isMember isFound
  | array element inductionHypothesis =>
      rw [ofKind] at mapped
      obtain ⟨inner, mappedInner, same⟩ := bind_eq_ok.1 mapped
      rw [pure_eq_ok] at same
      subst same
      change inner.FindsMembers
      exact inductionHypothesis mappedInner
  | custom name => cases mapped
  | _ =>
      cases mapped
      exact trivial

/-! ## Decimals -/

/-- Digits, signs and points are not blank. -/
theorem isBlank_of_isDecimal
    {characters : List Char}
    (decimal : isDecimal characters = true) :
    ∀ character ∈ characters, Text.isBlank character = false := by
  have unsigned : ∀ rest : List Char, ((rest.takeWhile (· != '.')).all Char.isDigit &&
      ((rest.dropWhile (· != '.')).drop 1).all Char.isDigit) = true ->
        ∀ character ∈ rest, Text.isBlank character = false := by
    intro rest areDigits
    rw [Bool.and_eq_true, List.all_eq_true, List.all_eq_true] at areDigits
    rw [← List.takeWhile_append_dropWhile (p := (· != '.')) (l := rest)]
    refine List.forall_mem_append.2
      ⟨fun character member => Text.isBlank_of_isDigit (areDigits.1 character member), ?_⟩
    have point := List.head?_dropWhile_not (· != '.') rest
    cases isRest : rest.dropWhile (· != '.') with
    | nil => simp
    | cons first others =>
        rw [isRest] at areDigits point
        have isPoint : first = '.' := by simpa using point
        subst isPoint
        exact List.forall_mem_cons.2 ⟨by decide,
          fun character member => Text.isBlank_of_isDigit (areDigits.2 character member)⟩
  unfold isDecimal at decimal
  dsimp only at decimal
  rw [Bool.and_assoc, Bool.and_eq_true] at decimal
  have areDigits := decimal.2
  split at areDigits
  · exact List.forall_mem_cons.2 ⟨by decide, unsigned _ areDigits⟩
  · exact List.forall_mem_cons.2 ⟨by decide, unsigned _ areDigits⟩
  · exact unsigned _ areDigits

/-- A text that a decimal column shows is read again where it is the text of a decimal. -/
theorem rereads_decimal_iff (text : String) :
    (∃ again, plainValue? .decimal (.string text) = some again ∧
        (Value.string text).equal again = true) ↔
      isDecimal text.toList = true := by
  rw [plainValue?]
  constructor
  · rintro ⟨again, read, same⟩
    obtain ⟨decimal, read⟩ := Option.ite_none_right_eq_some.1 read
    cases read
    rw [Value.equal_string_iff] at same
    rw [same, String.toList_ofList]
    exact decimal
  · intro decimal
    have kept := Text.trimBlanks_of_forall (isBlank_of_isDecimal decimal)
    refine ⟨.string text, ?_, by rw [Value.equal_string_iff]⟩
    simp only [kept, decimal, if_true, String.ofList_toList]

/-! ## Timestamps -/

theorem Timestamp.isShownInFull_iff (timestamp : Timestamp) :
    timestamp.isShownInFull = true ↔
      (0 ≤ timestamp.date.year ∧ timestamp.date.year ≤ 9999) ∧ timestamp.cut = timestamp := by
  rw [isShownInFull, Bool.and_eq_true, Bool.and_eq_true, decide_eq_true_iff, decide_eq_true_iff,
    beq_iff_eq, cut_eq_self_iff]

/-- The text of a timestamp in answers is read as the timestamp where it shows it in full. -/
theorem rereads_timestamp_iff
    {timestamp : Timestamp}
    (exist : timestamp.Exists) :
    (∃ again, plainValue? .timestamp (.string timestamp.toMillisecondText) = some again ∧
        (Value.timestamp timestamp).equal again = true) ↔
      timestamp.isShownInFull = true := by
  rw [plainValue?, Timestamp.isShownInFull_iff]
  by_cases fourDigits : 0 ≤ timestamp.date.year ∧ timestamp.date.year ≤ 9999
  · rw [Timestamp.ofText?_toMillisecondText exist fourDigits]
    simp only [Option.map_some, Option.some.injEq, exists_eq_left', Value.equal_timestamp_iff,
      fourDigits, and_self, true_and]
    exact eq_comm
  · rw [Timestamp.ofText?_toMillisecondText_eq_none exist (by omega)]
    simp [fourDigits]

/-! ## Codecs -/

/-- A value is read again if it is shown in a form which is read as the value itself. -/
theorem rereads_of_same
    {codec : Codec}
    {value : Value}
    {shown : Json}
    (isShown : showItem? codec value = some shown)
    (isRead : plainValue? codec shown = some value)
    (equalSelf : value.equal value = true)
    (inFull : codec.showsInFull value = true) :
    ∃ shown, showItem? codec value = some shown ∧
      ((∃ again, plainValue? codec shown = some again ∧ value.equal again = true) ↔
        codec.showsInFull value = true) :=
  ⟨shown, isShown, iff_of_true ⟨value, isRead, equalSelf⟩ inFull⟩

/-- Finite doubles are shown as they are. -/
theorem showItem?_float {number : Float} (finite : number.isFinite = true) :
    showItem? .float (.float number) = some (.number (.float number)) := by
  have notSpecial := Double.not_isNaN_isInf_of_isFinite finite
  rw [showItem?, finiteNumber?, notSpecial.1, notSpecial.2]
  rfl

/-- The text of a member is shown as the name of a member, which finds this text again. -/
theorem exists_shown_member
    {typeName : String}
    {members : List EnumMember}
    (findsMembers : (Codec.enumeration typeName members).FindsMembers)
    {member : EnumMember}
    (isMember : member ∈ members) :
    ∃ shown, showItem? (.enumeration typeName members) (.string member.value) = some shown ∧
      plainValue? (.enumeration typeName members) shown = some (.string member.value) := by
  have isShown : (showItem? (.enumeration typeName members) (.string member.value)).isSome = true :=
    Codec.isSome_showItem?_member isMember
  rw [showItem?, Option.isSome_map] at isShown
  obtain ⟨first, isFirst⟩ := Option.isSome_iff_exists.1 isShown
  have firstMember := List.mem_of_find?_eq_some isFirst
  have sameValue : first.value = member.value := by
    have matched := List.find?_some isFirst
    exact beq_iff_eq.1 matched
  have isNamed : (members.find? fun other =>
      other.name == first.name || other.value == first.name).isSome = true := by
    rw [List.find?_isSome]
    exact ⟨first, firstMember, by rw [beq_self_eq_true, Bool.true_or]⟩
  obtain ⟨again, isAgain⟩ := Option.isSome_iff_exists.1 isNamed
  refine ⟨.string first.name, by rw [showItem?, isFirst, Option.map_some], ?_⟩
  rw [plainValue?, isAgain, Option.map_some, findsMembers first firstMember again isAgain,
    sameValue]

/-- What a codec shows of a value that it read in one step is read as an equal value where the codec
shows the value in full. -/
theorem rereads_plainValue_iff
    {codec : Codec}
    {document : Json}
    {value : Value}
    (findsMembers : codec.FindsMembers)
    (wellFormed : document.isWellFormed = true)
    (read : plainValue? codec document = some value) :
    ∃ shown, showItem? codec value = some shown ∧
      ((∃ again, plainValue? codec shown = some again ∧ value.equal again = true) ↔
        codec.showsInFull value = true) := by
  unfold plainValue? at read
  split at read
  case h_1 number =>
    cases read
    exact rereads_of_same (showItem?_float wellFormed) rfl (Value.equal_float_self wellFormed) rfl
  case h_2 number =>
    cases read
    rw [Json.isWellFormed, JsonNumber.isWellFormed, Bool.and_eq_true, decide_eq_true_iff,
      decide_eq_true_iff] at wellFormed
    have isFinite := Double.isFinite_ofInt wellFormed.1 wellFormed.2
    exact rereads_of_same (showItem?_float isFinite) rfl (Value.equal_float_self isFinite) rfl
  case h_3 text =>
    obtain ⟨_, read⟩ := Option.ite_none_right_eq_some.1 read
    cases read
    exact ⟨_, rfl, rereads_decimal_iff _⟩
  case h_4 number =>
    cases read
    exact ⟨_, rfl, rereads_decimal_iff _⟩
  case h_5 flag =>
    cases read
    exact rereads_of_same rfl rfl (Value.equal_bool_self flag) rfl
  case h_6 text =>
    obtain ⟨canonical, isCanonical, rfl⟩ := Option.map_eq_some_iff.1 read
    refine rereads_of_same rfl ?_ ((Value.equal_string_iff _ _).2 rfl) rfl
    rw [plainValue?, Uuid.canonical?_canonical isCanonical, Option.map_some]
  case h_7 text =>
    obtain ⟨date, isDate, rfl⟩ := Option.map_eq_some_iff.1 read
    refine rereads_of_same rfl ?_ ((Value.equal_date_iff _ _).2 rfl) rfl
    rw [plainValue?, Date.ofText?_toText (Date.exists_of_ofText? isDate), Option.map_some]
  case h_8 text =>
    obtain ⟨time, isTime, rfl⟩ := Option.map_eq_some_iff.1 read
    refine rereads_of_same rfl ?_ ((Value.equal_time_iff _ _).2 rfl) rfl
    rw [plainValue?, Time.ofText?_toText (Time.exists_of_ofText? isTime), Option.map_some]
  case h_9 text =>
    obtain ⟨timestamp, isTimestamp, rfl⟩ := Option.map_eq_some_iff.1 read
    exact ⟨_, rfl, rereads_timestamp_iff (Timestamp.exists_of_ofText? isTimestamp)⟩
  case h_10 number =>
    obtain ⟨_, read⟩ := Option.ite_none_right_eq_some.1 read
    obtain ⟨timestamp, isTimestamp, rfl⟩ := Option.map_eq_some_iff.1 read
    exact ⟨_, rfl, rereads_timestamp_iff (Timestamp.exists_of_ofMilliseconds? isTimestamp)⟩
  case h_11 text =>
    obtain ⟨content, isContent, rfl⟩ := Option.map_eq_some_iff.1 read
    refine rereads_of_same rfl ?_ (Value.equal_bytes_self content) rfl
    rw [plainValue?, Base64.decode?_encode, Option.map_some]
  case h_12 =>
    cases read
    exact rereads_of_same rfl rfl (Value.equal_json_self wellFormed) rfl
  case h_13 typeName members text =>
    obtain ⟨member, isFound, rfl⟩ := Option.map_eq_some_iff.1 read
    obtain ⟨shown, isShown, isRead⟩ :=
      exists_shown_member findsMembers (List.mem_of_find?_eq_some isFound)
    exact rereads_of_same isShown isRead ((Value.equal_string_iff _ _).2 rfl) rfl
  case h_14 => cases read

/-! ## Lists -/

/-- A list is read again as an equal list where its items are read again as equal items. -/
theorem rereads_items_iff
    {element : Codec}
    {values : List Value}
    (items : ∀ value ∈ values, ∃ shown, element.show? value = some shown ∧
      ∀ path, element.Rereads path value shown ↔ element.showsInFull value = true) :
    ∃ shown, element.showItems? values = some shown ∧ ∀ path index,
      (∃ again, readItems element.read path index shown = .ok again ∧
          Value.equalItems values again = true) ↔
        values.all element.showsInFull = true := by
  induction values with
  | nil => exact ⟨[], rfl, fun path index => iff_of_true ⟨[], rfl, rfl⟩ rfl⟩
  | cons value values inductionHypothesis =>
      rw [List.forall_mem_cons] at items
      obtain ⟨⟨shown, isShown, first⟩, others⟩ := items
      obtain ⟨shownOthers, areShown, rest⟩ := inductionHypothesis others
      refine ⟨shown :: shownOthers, ?_, fun path index => ?_⟩
      · rw [Codec.showItems?, isShown, areShown]
        rfl
      · rw [List.all_cons, Bool.and_eq_true, ← first (itemPath path index),
          ← rest path (index + 1)]
        simp only [readItems, bind_eq_ok, pure_eq_ok, Codec.Rereads]
        constructor
        · rintro ⟨_, ⟨again, read, againOthers, readOthers, rfl⟩, same⟩
          rw [Value.equalItems, Bool.and_eq_true] at same
          exact ⟨⟨again, read, same.1⟩, againOthers, readOthers, same.2⟩
        · rintro ⟨⟨again, read, same⟩, againOthers, readOthers, sameOthers⟩
          refine ⟨again :: againOthers, ⟨again, read, againOthers, readOthers, rfl⟩, ?_⟩
          rw [Value.equalItems, same, sameOthers]
          rfl

/-- All codecs but those for integers, texts and lists read in one step. -/
theorem Codec.rereads_iff_of_oneStep
    {codec : Codec}
    (notInteger : ∀ bits unsigned, codec ≠ .integer bits unsigned)
    (notText : ∀ length, codec ≠ .text length)
    (notList : ∀ element, codec ≠ .list element)
    (findsMembers : codec.FindsMembers)
    {document : Json}
    (wellFormed : document.isWellFormed = true)
    {path : String}
    {value : Value}
    (read : codec.read document path = .ok value) :
    ∃ shown, codec.show? value = some shown ∧
      ∀ path, codec.Rereads path value shown ↔ codec.showsInFull value = true := by
  have oneStep : ∀ {document path value},
      codec.read document path = .ok value ↔ plainValue? codec document = some value := by
    intro document path value
    rw [Codec.read]
    · cases plainValue? codec document <;> simp
    · exact notInteger
    · exact notText
    · exact notList
  have plain := oneStep.1 read
  obtain ⟨notNull, notArray⟩ := plainValue?_kind plain
  obtain ⟨shown, isShown, again⟩ := rereads_plainValue_iff findsMembers wellFormed plain
  refine ⟨shown, by rw [show?_eq_showItem? notNull notArray, isShown], fun path => ?_⟩
  rw [← again, Codec.Rereads]
  exact exists_congr fun again => and_congr_left fun _ => oneStep

/-- A codec for lists reads what it shows where the codec for the items does. -/
theorem Codec.rereads_list_iff
    {element : Codec}
    (each : ∀ {document path value}, document.isWellFormed = true ->
      element.read document path = .ok value ->
        ∃ shown, element.show? value = some shown ∧
          ∀ path, element.Rereads path value shown ↔ element.showsInFull value = true)
    {document : Json}
    (wellFormed : document.isWellFormed = true)
    {path : String}
    {value : Value}
    (read : (Codec.list element).read document path = .ok value) :
    ∃ shown, (Codec.list element).show? value = some shown ∧
      ∀ path, (Codec.list element).Rereads path value shown ↔
        (Codec.list element).showsInFull value = true := by
  rcases Codec.read_eq_ok read with
    ⟨_, _, impossible, _⟩ | ⟨_, impossible, _⟩ | ⟨_, items, values, same, rfl, readAll, rfl⟩ | plain
  · cases impossible
  · cases impossible
  · cases same
    rw [Json.isWellFormed_array, Json.itemsWellFormed_iff] at wellFormed
    have rereads : ∀ value ∈ values, ∃ shown, element.show? value = some shown ∧
        ∀ path, element.Rereads path value shown ↔ element.showsInFull value = true := by
      intro value member
      obtain ⟨item, itemMember, _, readItem⟩ := exists_item (readItems_eq_ok readAll) value member
      exact each (wellFormed item itemMember) readItem
    obtain ⟨shown, areShown, again⟩ := rereads_items_iff rereads
    refine ⟨.array shown, by rw [Codec.show?, areShown, Option.map_some], fun path => ?_⟩
    rw [Codec.showsInFull, ← again path 0]
    simp only [Codec.Rereads, Codec.read, bind_eq_ok, pure_eq_ok]
    constructor
    · rintro ⟨_, ⟨others, readOthers, rfl⟩, same⟩
      rw [Value.equal] at same
      exact ⟨others, readOthers, same⟩
    · rintro ⟨others, readOthers, same⟩
      exact ⟨.array others, ⟨others, readOthers, rfl⟩, by rw [Value.equal, same]⟩
  · cases document <;> cases plain

/-- What a codec shows of a value that it read is read as an equal value exactly where the codec
shows the value in full. -/
theorem Codec.rereads_iff
    (codec : Codec)
    (findsMembers : codec.FindsMembers)
    {document : Json}
    (wellFormed : document.isWellFormed = true)
    {path : String}
    {value : Value}
    (read : codec.read document path = .ok value) :
    ∃ shown, codec.show? value = some shown ∧
      ∀ path, codec.Rereads path value shown ↔ codec.showsInFull value = true := by
  induction codec generalizing document path value with
  | integer bits unsigned =>
      have kind := readInteger_kind read
      obtain ⟨shown, isShown, again⟩ := readInteger_again wellFormed read
      refine ⟨shown, ?_, fun path => ?_⟩
      · rcases kind with ⟨_, rfl⟩ | ⟨_, rfl⟩ <;> exact isShown
      · refine iff_of_true ⟨value, again path, ?_⟩ ?_
        · rcases kind with ⟨_, rfl⟩ | ⟨_, rfl⟩ <;> simp
        · rcases kind with ⟨_, rfl⟩ | ⟨_, rfl⟩ <;> rfl
  | text length =>
      have same := readText_eq_ok read
      obtain ⟨text, rfl, rfl⟩ := same
      refine ⟨.string text, rfl, fun path => ?_⟩
      refine iff_of_true ⟨.string text, ?_, (Value.equal_string_iff _ _).2 rfl⟩ rfl
      rw [← toOption_eq_some] at read ⊢
      rw [← read]
      exact readText_toOption length (.string text) path _
  | list element inductionHypothesis =>
      refine rereads_list_iff ?_ wellFormed read
      intro document path value wellFormed read
      exact inductionHypothesis findsMembers wellFormed read
  | _ =>
      exact rereads_iff_of_oneStep (by simp) (by simp) (by simp) findsMembers wellFormed read

end RelationalApi
