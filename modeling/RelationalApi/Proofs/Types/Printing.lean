import RelationalApi.Proofs.Types.Registry
import RelationalApi.Types.Printer

/-!
# What the text of a registry tells

The text of registered types can be read in one way only, because each part of it ends where what
follows cannot continue it: a name or a type in front of a character that it cannot have, a
description at the first quotation mark that is not escaped, and a list where the next item would
have to start.  Registries with the same text therefore hold the same definitions.
-/

namespace RelationalApi

/-! ## Texts that are read in one way -/

section ReadsOneWay

variable {α : Type} {valid : α -> Prop} {isPart starts : Char -> Bool} {text : α -> List Char}
variable {rest others : List Char} {value other : α} {mark : Char}

/-- What follows does not start with a character of the class. -/
def NotContinued (isPart : Char -> Bool) (rest : List Char) : Prop :=
  ∀ character ∈ rest.head?, isPart character = false

@[simp] theorem notContinued_nil : NotContinued isPart [] := by
  simp [NotContinued]

@[simp] theorem notContinued_cons :
    NotContinued isPart (mark :: rest) ↔ isPart mark = false := by
  simp [NotContinued]

theorem notContinued_or :
    NotContinued (fun character => isPart character || starts character) rest ↔
      NotContinued isPart rest ∧ NotContinued starts rest := by
  cases rest <;> simp

/-- Texts of valid values tell the value and where they end, unless what follows starts with a
character that could continue them. -/
def ReadsOneWay (valid : α -> Prop) (isPart : Char -> Bool) (text : α -> List Char) : Prop :=
  ∀ ⦃value other : α⦄ ⦃rest others : List Char⦄, valid value -> valid other ->
    NotContinued isPart rest -> NotContinued isPart others ->
      text value ++ rest = text other ++ others -> value = other ∧ rest = others

/-- Texts that nothing could continue are read in front of everything. -/
theorem ReadsOneWay.whole
    (reads : ReadsOneWay valid (fun _ => false) text)
    (isValid : valid value)
    (otherIsValid : valid other)
    (same : text value ++ rest = text other ++ others) :
    value = other ∧ rest = others :=
  reads isValid otherIsValid (fun _ _ => rfl) (fun _ _ => rfl) same

theorem ReadsOneWay.upTo
    (reads : ReadsOneWay valid isPart text)
    (ends : isPart mark = false)
    (isValid : valid value)
    (otherIsValid : valid other)
    (same : text value ++ mark :: rest = text other ++ mark :: others) :
    value = other ∧ rest = others := by
  obtain ⟨sameValue, sameRest⟩ := reads isValid otherIsValid (notContinued_cons.2 ends)
    (notContinued_cons.2 ends) same
  exact ⟨sameValue, List.tail_eq_of_cons_eq sameRest⟩

/-- Characters of a class are read up to the first one that is not in it. -/
theorem readsOneWay_class (isPart : Char -> Bool) :
    ReadsOneWay (fun characters => ∀ character ∈ characters, isPart character = true) isPart
      id := by
  have takes : ∀ {front rest : List Char}, (∀ character ∈ front, isPart character = true) ->
      NotContinued isPart rest -> (front ++ rest).takeWhile isPart = front := by
    intro front rest areParts ends
    rw [List.takeWhile_append_of_pos areParts]
    cases rest with
    | nil => exact List.append_nil front
    | cons character rest => simp [notContinued_cons.1 ends]
  intro front other rest others areParts otherParts ends otherEnds same
  have sameFront : front = other := by
    rw [← takes areParts ends, ← takes otherParts otherEnds]
    exact congrArg _ same
  exact ⟨sameFront, List.append_cancel_left (sameFront ▸ same)⟩

section Lists

variable {values : List α}
variable (isStarted : ∀ value, valid value -> ∃ first others, text value = first :: others ∧
  starts first = true)
include isStarted

theorem ne_flatMap_of_notContinued
    (isValid : valid value)
    (ends : NotContinued starts rest) :
    rest ≠ (value :: values).flatMap text ++ others := by
  obtain ⟨first, inner, isText, isStart⟩ := isStarted value isValid
  rintro rfl
  rw [List.flatMap_cons, isText, List.cons_append, List.cons_append, notContinued_cons,
    isStart] at ends
  cases ends

theorem notContinued_flatMap
    (isOther : ∀ character, starts character = true -> isPart character = false)
    (areValid : ∀ value ∈ values, valid value)
    (ends : NotContinued isPart rest) :
    NotContinued isPart (values.flatMap text ++ rest) := by
  cases values with
  | nil => exact ends
  | cons value values =>
      obtain ⟨first, inner, isText, isStart⟩ := isStarted value (areValid _ List.mem_cons_self)
      rw [List.flatMap_cons, isText, List.cons_append, List.cons_append, notContinued_cons]
      exact isOther first isStart

/-- Items that start with a character which does not continue them are read one after another, up
to where no item starts. -/
theorem ReadsOneWay.list
    (reads : ReadsOneWay valid isPart text)
    (isOther : ∀ character, starts character = true -> isPart character = false) :
    ReadsOneWay (fun values => ∀ value ∈ values, valid value)
      (fun character => isPart character || starts character) (List.flatMap text) := by
  intro values other rest others areValid otherValid ends otherEnds same
  rw [notContinued_or] at ends otherEnds
  induction values generalizing other with
  | nil =>
      cases other with
      | nil => exact ⟨rfl, same⟩
      | cons otherValue other =>
          rw [List.forall_mem_cons] at otherValid
          exact absurd same (ne_flatMap_of_notContinued isStarted otherValid.1 ends.2)
  | cons value values inductionHypothesis =>
      rw [List.forall_mem_cons] at areValid
      cases other with
      | nil =>
          exact absurd same.symm (ne_flatMap_of_notContinued isStarted areValid.1 otherEnds.2)
      | cons otherValue other =>
          rw [List.forall_mem_cons] at otherValid
          rw [List.flatMap_cons, List.flatMap_cons, List.append_assoc, List.append_assoc] at same
          obtain ⟨rfl, sameRest⟩ := reads areValid.1 otherValid.1
            (notContinued_flatMap isStarted isOther areValid.2 ends.1)
            (notContinued_flatMap isStarted isOther otherValid.2 otherEnds.1) same
          obtain ⟨rfl, rfl⟩ := inductionHypothesis areValid.2 otherValid.2 sameRest
          exact ⟨rfl, rfl⟩

end Lists

/-- Items are read one after another if a mark that does not continue them stands between them. -/
theorem ReadsOneWay.joined
    {first otherFirst : α}
    {values otherValues : List α}
    {space : List Char}
    (reads : ReadsOneWay valid isPart text)
    (ends : isPart mark = false)
    (areValid : ∀ value ∈ first :: values, valid value)
    (otherAreValid : ∀ value ∈ otherFirst :: otherValues, valid value)
    (follows : NotContinued (fun character => isPart character || character == mark) rest)
    (otherFollows : NotContinued (fun character => isPart character || character == mark) others)
    (same : text first ++ ((values.flatMap fun value => mark :: (space ++ text value)) ++ rest) =
      text otherFirst ++
        ((otherValues.flatMap fun value => mark :: (space ++ text value)) ++ others)) :
    first :: values = otherFirst :: otherValues ∧ rest = others := by
  have isStarted : ∀ value, valid value -> ∃ first others,
      mark :: (space ++ text value) = first :: others ∧ (first == mark) = true :=
    fun _ _ => ⟨_, _, rfl, beq_self_eq_true mark⟩
  have isOther : ∀ character, (character == mark) = true -> isPart character = false :=
    fun character isMark => beq_iff_eq.1 isMark ▸ ends
  have furtherReads : ReadsOneWay valid isPart fun value => mark :: (space ++ text value) := by
    intro value other rest others isValid otherIsValid ends otherEnds same
    rw [List.cons_append, List.cons_append, List.append_assoc, List.append_assoc] at same
    exact reads isValid otherIsValid ends otherEnds
      (List.append_cancel_left (List.tail_eq_of_cons_eq same))
  rw [List.forall_mem_cons] at areValid otherAreValid
  obtain ⟨rfl, fromSecond⟩ := reads areValid.1 otherAreValid.1
    (notContinued_flatMap isStarted isOther areValid.2 (notContinued_or.1 follows).1)
    (notContinued_flatMap isStarted isOther otherAreValid.2 (notContinued_or.1 otherFollows).1) same
  obtain ⟨rfl, sameRest⟩ := ReadsOneWay.list isStarted furtherReads isOther areValid.2
    otherAreValid.2 follows otherFollows fromSecond
  exact ⟨rfl, sameRest⟩

end ReadsOneWay

/-! ## Names and types -/

/-- A name of the language, `[_A-Za-z][_0-9A-Za-z]*`. -/
def IsName (name : String) : Prop :=
  (name.toList.head?.any fun first => first.isAlpha || first == '_') = true ∧
    name.toList.all isNameChar = true

instance : DecidablePred IsName := fun _ => inferInstanceAs (Decidable (_ ∧ _))

theorem IsName.isNameChar {name : String} (isName : IsName name) :
    ∀ character ∈ name.toList, isNameChar character = true :=
  List.all_eq_true.1 isName.2

theorem IsName.notQuoted {name : String} {rest : List Char} (isName : IsName name) :
    NotContinued (· == '"') (name.toList ++ rest) := by
  obtain ⟨first, isFirst, _⟩ := (Option.any_eq_true _ _).1 isName.1
  obtain ⟨others, isText⟩ := List.head?_eq_some_iff.1 isFirst
  have isNameChar := isName.isNameChar first (isText ▸ List.mem_cons_self)
  rw [isText, List.cons_append, notContinued_cons, beq_eq_false_iff_ne]
  rintro rfl
  exact absurd isNameChar (by decide)

theorem readsOneWay_name : ReadsOneWay IsName isNameChar String.toList := by
  intro name other rest others isName otherName ends otherEnds same
  obtain ⟨sameChars, sameRest⟩ :=
    readsOneWay_class isNameChar isName.isNameChar otherName.isNameChar ends otherEnds same
  exact ⟨String.toList_inj.1 sameChars, sameRest⟩

/-- The characters of references to types. -/
def isTypeChar (character : Char) : Bool :=
  isNameChar character || character == '[' || character == ']' || character == '!'

theorem isTypeChar_of_mem_mark
    {character : Char}
    (isMark : character ∈ "[".toList ∨ character ∈ "]".toList ∨ character ∈ "!".toList) :
    isTypeChar character = true := by
  have isOneOf : character = '[' ∨ character = ']' ∨ character = '!' := by simpa using isMark
  rcases isOneOf with rfl | rfl | rfl <;> rfl

namespace TypeRef

variable {type other : TypeRef}

theorem isTypeChar_of_mem_toText (isName : IsName type.baseName) :
    ∀ character ∈ type.toText.toList, isTypeChar character = true := by
  induction type with
  | named name =>
      intro character member
      simp [isTypeChar, isName.isNameChar character member]
  | list element inductionHypothesis =>
      intro character member
      simp only [toText, String.toList_append, List.mem_append] at member
      rcases member with (opening | inside) | closing
      · exact isTypeChar_of_mem_mark (.inl opening)
      · exact inductionHypothesis isName character inside
      · exact isTypeChar_of_mem_mark (.inr (.inl closing))
  | nonNull inner inductionHypothesis =>
      intro character member
      simp only [toText, String.toList_append, List.mem_append] at member
      rcases member with inside | closing
      · exact inductionHypothesis isName character inside
      · exact isTypeChar_of_mem_mark (.inr (.inr closing))

/-- The character that closes a type which is no name. -/
def closing? : TypeRef -> Option Char
  | named _ => none
  | list _ => some ']'
  | nonNull _ => some '!'

theorem closing?_eq (isName : IsName type.baseName) :
    type.closing? = type.toText.toList.getLast?.filter fun character => !isNameChar character := by
  cases type with
  | named name =>
      have isLast : ∀ character ∈ name.toList.getLast?, isNameChar character = true :=
        fun character last => isName.isNameChar character (List.mem_of_getLast? last)
      rw [closing?, eq_comm, Option.filter_eq_none_iff]
      intro character last
      rw [isLast character last]
      decide
  | list element =>
      rw [toText, String.toList_append, List.getLast?_append]
      rfl
  | nonNull inner =>
      rw [toText, String.toList_append, List.getLast?_append]
      rfl

theorem closing?_eq_of_toText_eq
    (isName : IsName type.baseName)
    (otherName : IsName other.baseName)
    (same : type.toText = other.toText) :
    type.closing? = other.closing? := by
  rw [closing?_eq isName, same, ← closing?_eq otherName]

/-- The brackets and marks around a name can be told from its text. -/
theorem toText_inj
    (isName : IsName type.baseName)
    (otherName : IsName other.baseName)
    (same : type.toText = other.toText) :
    type = other := by
  induction type generalizing other with
  | named name =>
      have sameClosing := closing?_eq_of_toText_eq isName otherName same
      cases other with
      | named other => exact congrArg named same
      | list | nonNull => cases sameClosing
  | list element inductionHypothesis =>
      have sameClosing := closing?_eq_of_toText_eq isName otherName same
      cases other with
      | list other =>
          simp only [toText, String.append_left_inj, String.append_right_inj] at same
          exact congrArg list (inductionHypothesis isName otherName same)
      | named | nonNull => simp [closing?] at sameClosing
  | nonNull inner inductionHypothesis =>
      have sameClosing := closing?_eq_of_toText_eq isName otherName same
      cases other with
      | nonNull other =>
          simp only [toText, String.append_left_inj] at same
          exact congrArg nonNull (inductionHypothesis isName otherName same)
      | named | list => simp [closing?] at sameClosing

end TypeRef

theorem readsOneWay_type :
    ReadsOneWay (fun type : TypeRef => IsName type.baseName) isTypeChar
      fun type => type.toText.toList := by
  intro type other rest others isName otherName ends otherEnds same
  obtain ⟨sameChars, sameRest⟩ := readsOneWay_class isTypeChar
    (TypeRef.isTypeChar_of_mem_toText isName) (TypeRef.isTypeChar_of_mem_toText otherName)
    ends otherEnds same
  exact ⟨TypeRef.toText_inj isName otherName (String.toList_inj.1 sameChars), sameRest⟩

/-! ## Descriptions -/

theorem readsOneWay_escapedChar :
    ReadsOneWay (fun _ => True) (fun _ => false) escapeDescriptionChar := by
  intro character other rest others _ _ _ _ same
  unfold escapeDescriptionChar at same
  grind

/-- An escaped text has no quotation mark where an escaped character starts. -/
theorem readsOneWay_escaped :
    ReadsOneWay (fun _ => True) (· != '"') (List.flatMap escapeDescriptionChar) := by
  have isStarted : ∀ character, True -> ∃ first others,
      escapeDescriptionChar character = first :: others ∧ (first != '"') = true := by
    intro character _
    unfold escapeDescriptionChar
    split
    · exact ⟨_, _, rfl, by decide⟩
    · split
      · exact ⟨_, _, rfl, by decide⟩
      · rename_i isPlain
        exact ⟨_, _, rfl, bne_iff_ne.2 isPlain⟩
  have reads := ReadsOneWay.list isStarted readsOneWay_escapedChar fun _ _ => rfl
  exact fun _ _ _ _ _ _ => reads (fun _ _ => trivial) (fun _ _ => trivial)

theorem toList_descriptionText_some (indentation text : String) :
    (descriptionText indentation (some text)).toList =
      indentation.toList ++
        '"' :: (text.toList.flatMap escapeDescriptionChar ++ ['"', '\n']) := by
  simp [descriptionText]

/-- A description, or that there is none, is read up to the indentation of what it describes. -/
theorem readsOneWay_description (indentation : String) :
    ReadsOneWay (fun _ => True) (· == '"') fun description =>
      (descriptionText indentation description).toList ++ indentation.toList := by
  have noneAlone : ∀ (text : String) (rest others : List Char), NotContinued (· == '"') rest ->
      indentation.toList ++ rest ≠ (descriptionText indentation (some text)).toList ++ others := by
    intro text rest others ends same
    rw [toList_descriptionText_some, List.append_assoc] at same
    rw [List.append_cancel_left same, List.cons_append, notContinued_cons] at ends
    cases ends
  intro description other rest others _ _ ends otherEnds same
  dsimp only at same
  rw [List.append_assoc, List.append_assoc] at same
  cases description with
  | none =>
      cases other with
      | none => exact ⟨rfl, List.append_cancel_left same⟩
      | some text => exact absurd same (noneAlone _ _ _ ends)
  | some text =>
      cases other with
      | none => exact absurd same.symm (noneAlone _ _ _ otherEnds)
      | some other =>
          simp only [toList_descriptionText_some, List.append_assoc, List.append_cancel_left_eq,
            List.cons_append, List.cons.injEq, true_and, List.nil_append] at same
          obtain ⟨sameText, fromLine⟩ := readsOneWay_escaped.upTo (by decide) trivial trivial same
          exact ⟨congrArg some (String.toList_inj.1 sameText),
            List.append_cancel_left (List.tail_eq_of_cons_eq fromLine)⟩

/-! ## Fields -/

namespace InputField

/-- An argument or a field of an input object that has a name and a type of the language. -/
structure HasNames (field : InputField) : Prop where
  name : IsName field.name
  type : IsName field.type.baseName

instance : DecidablePred HasNames := fun field =>
  decidable_of_iff (IsName field.name ∧ IsName field.type.baseName)
    ⟨fun ⟨name, type⟩ => ⟨name, type⟩, fun ⟨name, type⟩ => ⟨name, type⟩⟩

variable {field : InputField} {rest : List Char}

theorem toList_toText_append :
    field.toText.toList ++ rest =
      (descriptionText "  " field.description).toList ++ "  ".toList ++
        (field.name.toList ++ ':' :: ' ' :: (field.type.toText.toList ++ '\n' :: rest)) := by
  simp [toText]

theorem readsOneWay_toText :
    ReadsOneWay HasNames (fun _ => false) fun field => field.toText.toList := by
  intro field other rest others hasNames otherNames _ _ same
  simp only [toList_toText_append] at same
  obtain ⟨sameDescription, fromName⟩ := readsOneWay_description "  " trivial trivial
    hasNames.name.notQuoted otherNames.name.notQuoted same
  obtain ⟨sameName, fromType⟩ := readsOneWay_name.upTo (by decide)
    hasNames.name otherNames.name fromName
  obtain ⟨sameType, sameRest⟩ := readsOneWay_type.upTo (by decide)
    hasNames.type otherNames.type (List.tail_eq_of_cons_eq fromType)
  cases field
  cases other
  cases sameDescription
  cases sameName
  cases sameType
  exact ⟨rfl, sameRest⟩

/-- Arguments are written without their descriptions. -/
def IsArgument (argument : InputField) : Prop :=
  argument.HasNames ∧ argument.description = none

instance : DecidablePred IsArgument := fun _ => inferInstanceAs (Decidable (_ ∧ _))

theorem toList_argumentText_append :
    field.argumentText.toList ++ rest =
      field.name.toList ++ ':' :: ' ' :: (field.type.toText.toList ++ rest) := by
  simp [argumentText]

theorem readsOneWay_argumentText :
    ReadsOneWay IsArgument isTypeChar fun argument =>
      argument.argumentText.toList := by
  intro argument other rest others isArgument otherIsArgument ends otherEnds same
  simp only [toList_argumentText_append] at same
  obtain ⟨⟨isName, isType⟩, noDescription⟩ := isArgument
  obtain ⟨⟨otherIsName, otherIsType⟩, otherNoDescription⟩ := otherIsArgument
  obtain ⟨sameName, fromType⟩ := readsOneWay_name.upTo (by decide)
    isName otherIsName same
  obtain ⟨sameType, sameRest⟩ := readsOneWay_type isType otherIsType ends otherEnds
    (List.tail_eq_of_cons_eq fromType)
  cases argument
  cases other
  cases sameName
  cases sameType
  cases noDescription
  cases otherNoDescription
  exact ⟨rfl, sameRest⟩

end InputField

/-- Texts with a separator between them. -/
theorem toList_intercalate_cons (separator first : String) (others : List String) :
    (separator.intercalate (first :: others)).toList =
      first.toList ++ others.flatMap fun text => separator.toList ++ text.toList := by
  induction others generalizing first with
  | nil => simp
  | cons second others inductionHypothesis =>
      rw [String.toList_intercalate, List.map_cons, List.map_cons, List.intercalate_cons_cons,
        ← List.map_cons, ← String.toList_intercalate, inductionHypothesis, List.flatMap_cons]
      simp

/-- The arguments behind the name of a field. -/
def argumentsText (arguments : List InputField) : String :=
  if arguments.isEmpty then ""
  else "(" ++ ", ".intercalate (arguments.map InputField.argumentText) ++ ")"

theorem toList_argumentsText_nil : (argumentsText []).toList = [] := by
  simp [argumentsText]

theorem toList_argumentsText_append
    (argument : InputField)
    (arguments : List InputField)
    (rest : List Char) :
    (argumentsText (argument :: arguments)).toList ++ rest =
      '(' :: (argument.argumentText.toList ++
        ((arguments.flatMap fun argument => ',' :: ([' '] ++ argument.argumentText.toList)) ++
          ')' :: rest)) := by
  have isText : argumentsText (argument :: arguments) =
      "(" ++ ", ".intercalate (argument.argumentText :: arguments.map InputField.argumentText) ++
        ")" := rfl
  rw [isText, String.toList_append, String.toList_append, toList_intercalate_cons]
  simp [List.flatMap_map]

/-- Arguments are read up to the mark in front of the type of their field. -/
theorem readsOneWay_argumentsText :
    ReadsOneWay (fun arguments => ∀ argument ∈ arguments, argument.IsArgument)
      (· == '(') fun arguments => (argumentsText arguments).toList := by
  intro arguments other rest others areArguments otherAreArguments ends otherEnds same
  dsimp only at same
  cases arguments with
  | nil =>
      cases other with
      | nil => exact ⟨rfl, List.append_cancel_left same⟩
      | cons otherArgument other =>
          rw [toList_argumentsText_append, toList_argumentsText_nil, List.nil_append] at same
          rw [same, notContinued_cons] at ends
          cases ends
  | cons argument arguments =>
      cases other with
      | nil =>
          rw [toList_argumentsText_append, toList_argumentsText_nil, List.nil_append] at same
          rw [← same, notContinued_cons] at otherEnds
          cases otherEnds
      | cons otherArgument other =>
          rw [toList_argumentsText_append, toList_argumentsText_append] at same
          have isComma : isTypeChar ',' = false := by decide
          have ends (rest : List Char) : NotContinued (fun character =>
              isTypeChar character || character == ',') (')' :: rest) :=
            notContinued_cons.2 (by decide)
          obtain ⟨sameArguments, fromEnd⟩ := InputField.readsOneWay_argumentText.joined isComma
            areArguments otherAreArguments (ends rest) (ends others) (List.tail_eq_of_cons_eq same)
          exact ⟨sameArguments, List.tail_eq_of_cons_eq fromEnd⟩

theorem notContinued_argumentsText (arguments : List InputField) (rest : List Char) :
    NotContinued isNameChar ((argumentsText arguments).toList ++ ':' :: rest) := by
  cases arguments with
  | nil =>
      rw [toList_argumentsText_nil]
      exact notContinued_cons.2 (by decide)
  | cons argument arguments =>
      rw [toList_argumentsText_append]
      exact notContinued_cons.2 (by decide)

namespace OutputField

/-- A field that has a name, arguments and a type of the language. -/
structure HasNames (field : OutputField) : Prop where
  name : IsName field.name
  arguments : ∀ argument ∈ field.arguments, argument.IsArgument
  type : IsName field.type.baseName

instance : DecidablePred HasNames := fun field =>
  decidable_of_iff (IsName field.name ∧ (∀ argument ∈ field.arguments, argument.IsArgument) ∧
      IsName field.type.baseName)
    ⟨fun ⟨name, arguments, type⟩ => ⟨name, arguments, type⟩,
      fun ⟨name, arguments, type⟩ => ⟨name, arguments, type⟩⟩

theorem toList_toText_append {field : OutputField} {rest : List Char} :
    field.toText.toList ++ rest =
      (descriptionText "  " field.description).toList ++ "  ".toList ++
        (field.name.toList ++ ((argumentsText field.arguments).toList ++
          ':' :: ' ' :: (field.type.toText.toList ++ '\n' :: rest))) := by
  have isText : field.toText = descriptionText "  " field.description ++ "  " ++ field.name ++
      argumentsText field.arguments ++ ": " ++ field.type.toText ++ "\n" := rfl
  simp [isText]

theorem readsOneWay_toText :
    ReadsOneWay HasNames (fun _ => false) fun field => field.toText.toList := by
  intro field other rest others hasNames otherNames _ _ same
  simp only [toList_toText_append] at same
  obtain ⟨sameDescription, fromName⟩ := readsOneWay_description "  " trivial trivial
    hasNames.name.notQuoted otherNames.name.notQuoted same
  obtain ⟨sameName, fromArguments⟩ := readsOneWay_name hasNames.name otherNames.name
    (notContinued_argumentsText _ _) (notContinued_argumentsText _ _) fromName
  obtain ⟨sameArguments, fromType⟩ := readsOneWay_argumentsText.upTo (by decide)
    hasNames.arguments otherNames.arguments fromArguments
  obtain ⟨sameType, sameRest⟩ := readsOneWay_type.upTo (by decide) hasNames.type otherNames.type
    (List.tail_eq_of_cons_eq fromType)
  cases field
  cases other
  cases sameDescription
  cases sameName
  cases sameArguments
  cases sameType
  exact ⟨rfl, sameRest⟩

end OutputField

/-! ## Definitions -/

theorem toList_bodyText_append (lines : List String) (rest : List Char) :
    (bodyText lines).toList ++ rest =
      ' ' :: '\x7b' :: '\n' :: (lines.flatMap String.toList ++ '\x7d' :: '\n' :: rest) := by
  simp [bodyText]

/-- Indented lines are read up to the closing brace. -/
theorem readsOneWay_bodyText
    {α : Type}
    {valid : α -> Prop}
    {line : α -> String}
    (reads : ReadsOneWay valid (fun _ => false) fun value => (line value).toList)
    (isIndented : ∀ value, (line value).toList.head? = some ' ') :
    ReadsOneWay (fun values => ∀ value ∈ values, valid value) (fun _ => false)
      fun values : List α => (bodyText (values.map line)).toList := by
  have isStarted : ∀ value, valid value -> ∃ first others,
      (line value).toList = first :: others ∧ (first == ' ') = true := by
    intro value _
    obtain ⟨others, isText⟩ := List.head?_eq_some_iff.1 (isIndented value)
    exact ⟨' ', others, isText, rfl⟩
  intro values other rest others areValid otherAreValid _ _ same
  simp only [toList_bodyText_append, List.flatMap_map, List.cons.injEq, true_and] at same
  obtain ⟨sameValues, sameRest⟩ := (ReadsOneWay.list isStarted reads fun _ _ => rfl).upTo
    (by decide) areValid otherAreValid same
  exact ⟨sameValues, List.tail_eq_of_cons_eq sameRest⟩

/-- All names in what is defined are names of the language. -/
def TypeContent.HasNames : TypeContent -> Prop
  | .scalar => True
  | .enumeration values => ∀ value ∈ values, IsName value
  | .object fields => ∀ field ∈ fields, field.HasNames
  | .input fields => ∀ field ∈ fields, field.HasNames

instance : DecidablePred TypeContent.HasNames
  | .scalar => inferInstanceAs (Decidable True)
  | .enumeration values => inferInstanceAs (Decidable (∀ value ∈ values, IsName value))
  | .object fields => inferInstanceAs (Decidable (∀ field ∈ fields, field.HasNames))
  | .input fields => inferInstanceAs (Decidable (∀ field ∈ fields, field.HasNames))

theorem readsOneWay_values :
    ReadsOneWay (fun values => ∀ value ∈ values, IsName value) (fun _ => false)
      fun values : List String =>
        (bodyText (values.map fun value => "  " ++ value ++ "\n")).toList := by
  refine readsOneWay_bodyText ?_ fun value => by simp
  intro value other rest others isName otherIsName _ _ same
  simp only [String.toList_append, List.append_assoc] at same
  exact readsOneWay_name.upTo (by decide) isName otherIsName (List.append_cancel_left same)

theorem readsOneWay_objectFields :
    ReadsOneWay (fun fields => ∀ field ∈ fields, field.HasNames) (fun _ => false)
      fun fields : List OutputField => (bodyText (fields.map OutputField.toText)).toList := by
  refine readsOneWay_bodyText OutputField.readsOneWay_toText fun field => ?_
  cases isDescription : field.description <;>
    simp [OutputField.toText, descriptionText, isDescription]

/-- An input object without fields has no body, and its text ends with the line. -/
theorem readsOneWay_inputFields :
    ReadsOneWay (fun fields => ∀ field ∈ fields, field.HasNames) (fun _ => false)
      fun fields : List InputField => (TypeContent.input fields).toText.toList := by
  have reads := readsOneWay_bodyText InputField.readsOneWay_toText fun field => by
    cases isDescription : field.description <;>
      simp [InputField.toText, descriptionText, isDescription]
  have isLine (rest : List Char) : (TypeContent.input []).toText.toList ++ rest = '\n' :: rest := by
    simp [TypeContent.toText]
  intro fields other rest others hasNames otherNames _ _ same
  dsimp only at same
  cases fields with
  | nil =>
      cases other with
      | nil => exact ⟨rfl, List.append_cancel_left same⟩
      | cons field other =>
          have isBody := toList_bodyText_append ((field :: other).map InputField.toText) others
          rw [isLine] at same
          exact absurd (List.head_eq_of_cons_eq (same.trans isBody)) (by decide)
  | cons field fields =>
      cases other with
      | nil =>
          have isBody := toList_bodyText_append ((field :: fields).map InputField.toText) rest
          rw [isLine] at same
          exact absurd (List.head_eq_of_cons_eq (same.symm.trans isBody)) (by decide)
      | cons otherField other => exact reads.whole hasNames otherNames same

namespace TypeDefinition

/-- A definition all of whose names are names of the language. -/
structure HasNames (definition : TypeDefinition) : Prop where
  name : IsName definition.name
  content : definition.content.HasNames

instance : DecidablePred HasNames := fun definition =>
  decidable_of_iff (IsName definition.name ∧ definition.content.HasNames)
    ⟨fun ⟨name, content⟩ => ⟨name, content⟩, fun ⟨name, content⟩ => ⟨name, content⟩⟩

variable {definition other : TypeDefinition} {rest others : List Char}

theorem isName_keyword (definition : TypeDefinition) : IsName definition.keyword := by
  have areNames : ∀ word ∈ ["scalar", "enum", "type", "input"], IsName word := by decide
  refine areNames _ ?_
  obtain ⟨name, content, description⟩ := definition
  cases content <;> simp [keyword]

theorem notContinued_content (content : TypeContent) (rest : List Char) :
    NotContinued isNameChar (content.toText.toList ++ rest) := by
  have body (lines : List String) : NotContinued isNameChar ((bodyText lines).toList ++ rest) := by
    rw [toList_bodyText_append]
    exact notContinued_cons.2 (by decide)
  have line : NotContinued isNameChar ("\n".toList ++ rest) := notContinued_cons.2 (by decide)
  cases content with
  | scalar => exact line
  | enumeration | object => exact body _
  | input fields =>
      rw [TypeContent.toText]
      split
      · exact line
      · exact body _

/-- Behind one keyword, what is defined is read to its end. -/
theorem content_eq_of_toText
    (sameKeyword : definition.keyword = other.keyword)
    (hasNames : definition.content.HasNames)
    (otherNames : other.content.HasNames)
    (same : definition.content.toText.toList ++ rest = other.content.toText.toList ++ others) :
    definition.content = other.content ∧ rest = others := by
  obtain ⟨name, content, description⟩ := definition
  obtain ⟨otherName, otherContent, otherDescription⟩ := other
  dsimp only at hasNames otherNames same ⊢
  cases content with
  | scalar =>
      cases otherContent with
      | scalar => exact ⟨rfl, List.append_cancel_left same⟩
      | enumeration | object | input => simp [keyword] at sameKeyword
  | enumeration values =>
      cases otherContent with
      | enumeration otherValues =>
          obtain ⟨rfl, sameRest⟩ := readsOneWay_values.whole hasNames otherNames same
          exact ⟨rfl, sameRest⟩
      | scalar | object | input => simp [keyword] at sameKeyword
  | object fields =>
      cases otherContent with
      | object otherFields =>
          obtain ⟨rfl, sameRest⟩ := readsOneWay_objectFields.whole hasNames otherNames same
          exact ⟨rfl, sameRest⟩
      | scalar | enumeration | input => simp [keyword] at sameKeyword
  | input fields =>
      cases otherContent with
      | input otherFields =>
          obtain ⟨rfl, sameRest⟩ := readsOneWay_inputFields.whole hasNames otherNames same
          exact ⟨rfl, sameRest⟩
      | scalar | enumeration | object => simp [keyword] at sameKeyword

theorem toList_toText_append :
    definition.toText.toList ++ rest =
      (descriptionText "" definition.description).toList ++ "".toList ++
        (definition.keyword.toList ++ ' ' :: (definition.name.toList ++
          (definition.content.toText.toList ++ rest))) := by
  simp [toText]

theorem readsOneWay_toText :
    ReadsOneWay HasNames (fun _ => false) fun definition => definition.toText.toList := by
  intro definition other rest others hasNames otherNames _ _ same
  simp only [toList_toText_append] at same
  obtain ⟨sameDescription, fromKeyword⟩ := readsOneWay_description "" trivial trivial
    (isName_keyword definition).notQuoted (isName_keyword other).notQuoted same
  obtain ⟨sameKeyword, fromName⟩ := readsOneWay_name.upTo (by decide)
    (isName_keyword definition) (isName_keyword other) fromKeyword
  obtain ⟨sameName, fromContent⟩ := readsOneWay_name hasNames.name otherNames.name
    (notContinued_content _ _) (notContinued_content _ _) fromName
  obtain ⟨sameContent, sameRest⟩ :=
    content_eq_of_toText sameKeyword hasNames.content otherNames.content fromContent
  cases definition
  cases other
  cases sameDescription
  cases sameName
  cases sameContent
  exact ⟨rfl, sameRest⟩

end TypeDefinition

/-! ## Registries -/

namespace TypeRegistry

theorem toList_toText_cons
    (definition : TypeDefinition)
    (definitions : List TypeDefinition)
    (positions : List (String × Nat)) :
    (⟨definition :: definitions, positions⟩ : TypeRegistry).toText.toList =
      definition.toText.toList ++
        ((definitions.flatMap fun definition => '\n' :: ([] ++ definition.toText.toList)) ++
          []) := by
  rw [toText, List.map_cons, toList_intercalate_cons, List.flatMap_map]
  simp

theorem toList_toText_ne_nil (definition : TypeDefinition) : definition.toText.toList ≠ [] := by
  simp [TypeDefinition.toText]

/-- The text of a registry tells its definitions and their order. -/
theorem definitions_eq_of_toText_eq
    {registry other : TypeRegistry}
    (hasNames : ∀ definition ∈ registry.definitions, definition.HasNames)
    (otherNames : ∀ definition ∈ other.definitions, definition.HasNames)
    (same : registry.toText = other.toText) :
    registry.definitions = other.definitions := by
  obtain ⟨definitions, positions⟩ := registry
  obtain ⟨otherDefinitions, otherPositions⟩ := other
  have sameChars := congrArg String.toList same
  dsimp only at hasNames otherNames ⊢
  cases definitions with
  | nil =>
      cases otherDefinitions with
      | nil => rfl
      | cons otherFirst otherDefinitions =>
          rw [toList_toText_cons] at sameChars
          exact absurd (List.append_eq_nil_iff.1 sameChars.symm).1 (toList_toText_ne_nil _)
  | cons first definitions =>
      cases otherDefinitions with
      | nil =>
          rw [toList_toText_cons] at sameChars
          exact absurd (List.append_eq_nil_iff.1 sameChars).1 (toList_toText_ne_nil _)
      | cons otherFirst otherDefinitions =>
          rw [toList_toText_cons, toList_toText_cons] at sameChars
          exact (TypeDefinition.readsOneWay_toText.joined rfl hasNames otherNames notContinued_nil
            notContinued_nil sameChars).1

/-- Registries with the same text hold the same definitions in the same order, whatever was offered
to them, as long as all names are names of the language. -/
theorem same_text_same_definitions
    (offered otherOffered : List TypeDefinition)
    (hasNames : ∀ definition ∈ offered, definition.HasNames)
    (otherNames : ∀ definition ∈ otherOffered, definition.HasNames)
    (same : (empty.afterOffers offered).toText = (empty.afterOffers otherOffered).toText) :
    (empty.afterOffers offered).definitions = (empty.afterOffers otherOffered).definitions := by
  have isOffered : ∀ {offered : List TypeDefinition} {definition : TypeDefinition},
      definition ∈ (empty.afterOffers offered).definitions -> definition ∈ offered :=
    fun member => (mem_of_afterOffers member).resolve_left List.not_mem_nil
  exact definitions_eq_of_toText_eq (fun _ member => hasNames _ (isOffered member))
    (fun _ member => otherNames _ (isOffered member)) same

/-- Types with a description that looks like a definition of its own. -/
def ratedTypes : List TypeDefinition :=
  [ { name := "Rank"
      content := .enumeration ["low", "high"]
      description := some "Of \"notes\"\\\n\nscalar Rank" },
    { name := "Draft", content := .input [] },
    { name := "Query"
      content := .object
        [ { name := "notes"
            type := .nonNull (.list (.named "Rank"))
            arguments := [ { name := "draft", type := .named "Draft" },
              { name := "limit", type := .named "Int" } ] } ] } ]

/-- The same types, with one that is refused and one that comes again. -/
def ratedOffers : List TypeDefinition :=
  ratedTypes.take 2 ++ [{ name := "Draft", content := .scalar }] ++ ratedTypes

theorem same_text_same_definitions_rated :
    (∀ definition ∈ ratedTypes, definition.HasNames) ∧
      (∀ definition ∈ ratedOffers, definition.HasNames) ∧
      (empty.afterOffers ratedTypes).toText = (empty.afterOffers ratedOffers).toText ∧
      (empty.afterOffers ratedTypes).definitions = (empty.afterOffers ratedOffers).definitions := by
  have hasNames : ∀ definition ∈ ratedTypes, definition.HasNames := by decide
  have otherNames : ∀ definition ∈ ratedOffers, definition.HasNames := by decide
  have same : (empty.afterOffers ratedTypes).toText = (empty.afterOffers ratedOffers).toText :=
    congrArg toText rfl
  exact ⟨hasNames, otherNames, same,
    same_text_same_definitions ratedTypes ratedOffers hasNames otherNames same⟩

end TypeRegistry
end RelationalApi
