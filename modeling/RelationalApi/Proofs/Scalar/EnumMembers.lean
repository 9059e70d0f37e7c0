import Mathlib.Data.List.Nodup
import RelationalApi.Proofs.Scalar.Decoding
import RelationalApi.Scalar.Encoding

/-!
# Members of enums

The members of an enum have distinct names, and the name of a member is also the name that a member
with this name as its stored text would have.  A text is therefore the name or the stored text of
one member at most, and it is the same member that either of them finds.
-/

namespace RelationalApi

open Outcome

section EnumMembers

variable {characters : List Char} {table column typeName : String} {seen values : List String}
variable {members : List EnumMember} {member : EnumMember}

/-- The characters with an underscore in the place of every one that names do not admit. -/
def withUnderscores (characters : List Char) : List Char :=
  characters.map fun character => if isNameChar character then character else '_'

/-- The characters are no name without an underscore in front. -/
def needsUnderscore (characters : List Char) : Bool :=
  (characters.head?.map Char.isDigit).getD true ||
    ["true".toList, "false".toList, "null".toList].contains characters

theorem enumMemberName_eq (value : String) :
    enumMemberName value =
      if needsUnderscore (withUnderscores value.toList) then
        String.ofList ('_' :: withUnderscores value.toList)
      else String.ofList (withUnderscores value.toList) := rfl

theorem isNameChar_of_mem_withUnderscores :
    ∀ character ∈ withUnderscores characters, isNameChar character = true := by
  intro character member
  obtain ⟨given, _, rfl⟩ := List.mem_map.1 member
  split
  · assumption
  · decide

/-- Characters that names admit are kept. -/
theorem withUnderscores_eq_self
    (areNameChars : ∀ character ∈ characters, isNameChar character = true) :
    withUnderscores characters = characters := by
  rw [withUnderscores, List.map_congr_left (g := id) fun character member => by
    rw [if_pos (areNameChars character member), id]]
  exact List.map_id characters

/-- A name that was made of a text is made of itself. -/
theorem enumMemberName_idempotent (value : String) :
    enumMemberName (enumMemberName value) = enumMemberName value := by
  have areNameChars := @isNameChar_of_mem_withUnderscores value.toList
  rw [enumMemberName_eq value]
  generalize withUnderscores value.toList = name at areNameChars
  split
  · -- An underscore in front is admitted, and neither a digit nor the start of a literal.
    have kept : withUnderscores ('_' :: name) = '_' :: name :=
      withUnderscores_eq_self (List.forall_mem_cons.2 ⟨by decide, areNameChars⟩)
    have isName : needsUnderscore ('_' :: name) = false := by
      simp [needsUnderscore]
    rw [enumMemberName_eq, String.toList_ofList, kept, isName, if_neg Bool.false_ne_true]
  · rename_i isName
    rw [enumMemberName_eq, String.toList_ofList, withUnderscores_eq_self areNameChars,
      if_neg isName]

/-- The members of an enum are named after their texts, with distinct names. -/
theorem enumMembers_eq_ok
    (made : enumMembers table column typeName seen values = .ok members) :
    (∀ member ∈ members, member.name = enumMemberName member.value) ∧
      (members.map (·.name)).Nodup ∧ ∀ member ∈ members, member.name ∉ seen := by
  induction values generalizing seen members with
  | nil =>
      cases made
      simp
  | cons value values inductionHypothesis =>
      rw [enumMembers] at made
      dsimp only at made
      split at made
      · cases made
      · rename_i notSeen
        obtain ⟨others, madeOthers, same⟩ := bind_eq_ok.1 made
        rw [pure_eq_ok] at same
        subst same
        obtain ⟨named, distinct, unseen⟩ := inductionHypothesis madeOthers
        rw [List.contains_iff_mem] at notSeen
        refine ⟨List.forall_mem_cons.2 ⟨rfl, named⟩, ?_, List.forall_mem_cons.2 ⟨notSeen, ?_⟩⟩
        · rw [List.map_cons, List.nodup_cons, List.mem_map]
          refine ⟨?_, distinct⟩
          rintro ⟨other, isOther, sameName⟩
          exact unseen other isOther (sameName ▸ List.mem_cons_self)
        · intro other isOther isSeen
          exact unseen other isOther (List.mem_cons_of_mem _ isSeen)

theorem enumMembers_values
    (made : enumMembers table column typeName seen values = .ok members) :
    members.map (·.value) = values := by
  induction values generalizing seen members with
  | nil =>
      cases made
      rfl
  | cons value values inductionHypothesis =>
      rw [enumMembers] at made
      dsimp only at made
      split at made
      · cases made
      · obtain ⟨others, madeOthers, same⟩ := bind_eq_ok.1 made
        rw [pure_eq_ok] at same
        subst same
        rw [List.map_cons, inductionHypothesis madeOthers]

/-! ## Names as documents write them -/

/-- A name that documents can give an enum value, `[_A-Za-z][_0-9A-Za-z]*` and no literal. -/
structure IsEnumName (name : String) : Prop where
  shape : ∃ first rest, name.toList = first :: rest ∧ (first.isAlpha ∨ first = '_') ∧
    ∀ character ∈ rest, character.isAlphanum ∨ character = '_'
  notLiteral : name ∉ ["true", "false", "null"]

theorem isNameChar_iff {character : Char} :
    isNameChar character = true ↔ character.isAlphanum ∨ character = '_' := by
  rw [isNameChar, Bool.or_eq_true, beq_iff_eq]

/-- Names are made of all texts, also of those that are empty, start with a digit or are
literals. -/
theorem isEnumName_enumMemberName (value : String) : IsEnumName (enumMemberName value) := by
  have areNameChars := @isNameChar_of_mem_withUnderscores value.toList
  rw [enumMemberName_eq value]
  generalize withUnderscores value.toList = name at areNameChars
  have literals (characters : List Char) :
      String.ofList characters ∈ ["true", "false", "null"] ↔
        characters ∈ ["true".toList, "false".toList, "null".toList] := by
    simp only [List.mem_cons, List.not_mem_nil, or_false, ← String.toList_inj,
      String.toList_ofList]
  split
  · refine ⟨⟨'_', name, String.toList_ofList, .inr rfl, ?_⟩, ?_⟩
    · exact fun character member => isNameChar_iff.1 (areNameChars character member)
    · rw [literals]
      simp
  · rename_i isName
    rw [needsUnderscore, Bool.not_eq_true, Bool.or_eq_false_iff] at isName
    obtain ⟨notDigit, notLiteral⟩ := isName
    refine ⟨?_, ?_⟩
    · cases name with
      | nil => cases notDigit
      | cons first rest =>
          have isNameChar := isNameChar_iff.1 (areNameChars first List.mem_cons_self)
          have notDigit : first.isDigit = false := notDigit
          rw [Char.isAlphanum, notDigit, Bool.or_false] at isNameChar
          exact ⟨first, rest, String.toList_ofList, isNameChar, fun character member =>
            isNameChar_iff.1 (areNameChars character (List.mem_cons_of_mem _ member))⟩
    · rw [literals, ← List.contains_iff_mem, notLiteral]
      exact Bool.false_ne_true

/-! ## Texts that find members -/

/-- A member goes by its name and by its stored text. -/
def EnumMember.goesBy (text : String) (member : EnumMember) : Bool :=
  member.name == text || member.value == text

theorem EnumMember.goesBy_iff {text : String} :
    member.goesBy text = true ↔ member.name = text ∨ member.value = text := by
  rw [goesBy, Bool.or_eq_true, beq_iff_eq, beq_iff_eq]

/-- A member that goes by a text has the name that is made of the text. -/
theorem name_eq_of_goesBy
    (made : enumMembers table column typeName seen values = .ok members)
    (isMember : member ∈ members)
    {text : String}
    (goesBy : member.goesBy text = true) :
    member.name = enumMemberName text := by
  have named := (enumMembers_eq_ok made).1 member isMember
  rcases EnumMember.goesBy_iff.1 goesBy with rfl | rfl
  · rw [named, enumMemberName_idempotent]
  · exact named

/-- No text is the name of one member and the stored text of another, or of two members. -/
theorem eq_of_goesBy
    (made : enumMembers table column typeName seen values = .ok members)
    {first second : EnumMember}
    (isFirst : first ∈ members)
    (isSecond : second ∈ members)
    {text : String}
    (firstGoes : first.goesBy text = true)
    (secondGoes : second.goesBy text = true) :
    first = second := by
  refine List.inj_on_of_nodup_map (enumMembers_eq_ok made).2.1 isFirst isSecond ?_
  rw [name_eq_of_goesBy made isFirst firstGoes, name_eq_of_goesBy made isSecond secondGoes]

/-- The first member that goes by a text is the only one. -/
theorem find?_goesBy_eq_some_iff
    (made : enumMembers table column typeName seen values = .ok members)
    {text : String} :
    members.find? (EnumMember.goesBy text) = some member ↔
      member ∈ members ∧ member.goesBy text = true := by
  constructor
  · intro found
    exact ⟨List.mem_of_find?_eq_some found, List.find?_some found⟩
  · rintro ⟨isMember, goesBy⟩
    have isFound : (members.find? (EnumMember.goesBy text)).isSome = true :=
      List.find?_isSome.2 ⟨member, isMember, goesBy⟩
    obtain ⟨first, found⟩ := Option.isSome_iff_exists.1 isFound
    rw [found, eq_of_goesBy made (List.mem_of_find?_eq_some found) isMember
      (List.find?_some found) goesBy]

/-- The name of a member finds a member with the same stored text. -/
theorem value_of_find?_name
    (made : enumMembers table column typeName seen values = .ok members)
    (isMember : member ∈ members)
    {found : EnumMember}
    (isFound : members.find? (fun other => other.name == member.name || other.value == member.name)
      = some found) :
    found.value = member.value := by
  have goesBy : found.goesBy member.name = true := List.find?_some isFound
  rw [eq_of_goesBy made (List.mem_of_find?_eq_some isFound) isMember goesBy
    (EnumMember.goesBy_iff.2 (.inl rfl))]

/-- A stored text finds its own member. -/
theorem find?_value_eq_some
    (made : enumMembers table column typeName seen values = .ok members)
    (isMember : member ∈ members) :
    members.find? (fun other => other.value == member.value) = some member := by
  have isFound : (members.find? fun other => other.value == member.value).isSome = true :=
    List.find?_isSome.2 ⟨member, isMember, beq_self_eq_true _⟩
  obtain ⟨first, found⟩ := Option.isSome_iff_exists.1 isFound
  have sameValue : first.value = member.value := by simpa using List.find?_some found
  rw [found, eq_of_goesBy made (List.mem_of_find?_eq_some found) isMember
    (EnumMember.goesBy_iff.2 (.inr sameValue)) (EnumMember.goesBy_iff.2 (.inr rfl))]

end EnumMembers

/-! ## Enum columns -/

/-- An enum column reads a text that finds a member as the stored text of the member. -/
theorem ColumnCodec.decode_enumeration_eq
    {codec : ColumnCodec}
    {typeName : String}
    {members : List EnumMember}
    (isEnum : codec.codec = .enumeration typeName members)
    (text path : String) :
    codec.decode (.string text) path =
      match members.find? (EnumMember.goesBy text) with
      | some member => .ok (.string member.value)
      | none => .error (.invalidValue path typeName (.string text)) := by
  have decodes : codec.decode (.string text) path = codec.codec.read (.string text) path := rfl
  have reads : plainValue? (.enumeration typeName members) (.string text) =
      (members.find? (EnumMember.goesBy text)).map fun member => .string member.value := rfl
  rw [decodes, isEnum, Codec.read, reads]
  · cases members.find? (EnumMember.goesBy text) <;> rfl
  all_goals simp

theorem ColumnCodec.members_of_ofColumn
    {table enumName : String}
    {column : Column}
    {values : List String}
    {codec : ColumnCodec}
    (isEnum : column.kind = .enumeration enumName values)
    (mapped : ofColumn table column = .ok codec) :
    ∃ members, enumMembers table column.name (enumTypeName enumName) [] values = .ok members ∧
      codec.codec = .enumeration (enumTypeName enumName) members := by
  rw [ofColumn, isEnum, Codec.ofKind] at mapped
  split at mapped
  · cases mapped
  · obtain ⟨mappedCodec, madeCodec, same⟩ := bind_eq_ok.1 mapped
    obtain ⟨members, made, sameCodec⟩ := bind_eq_ok.1 madeCodec
    cases same
    cases sameCodec
    exact ⟨members, made, rfl⟩

/-- The members of an enum column are found without ambiguity.  Their names are distinct, and names
as documents write them; no text is the name of one and the stored text of another.  A member is
read from its name and from its stored text, as the stored text, which is shown as the name; no
other text is read. -/
theorem ColumnCodec.enum_members_unambiguous
    {table enumName : String}
    {column : Column}
    {values : List String}
    {codec : ColumnCodec}
    (isEnum : column.kind = .enumeration enumName values)
    (mapped : ofColumn table column = .ok codec) :
    ∃ members, codec.codec = .enumeration (enumTypeName enumName) members ∧
      codec.enumDefinition? = some
        { name := enumTypeName enumName, content := .enumeration (members.map (·.name)) } ∧
      members.map (·.value) = values ∧
      (members.map (·.name)).Nodup ∧
      (∀ member ∈ members, IsEnumName member.name) ∧
      (∀ first ∈ members, ∀ second ∈ members, first.name = second.value -> first = second) ∧
      (∀ member ∈ members,
        (∀ path, codec.decode (.string member.name) path = .ok (.string member.value) ∧
          codec.decode (.string member.value) path = .ok (.string member.value)) ∧
        codec.encode (.string member.value) = .ok (.string member.name)) ∧
      ∀ text path, (∀ member ∈ members, text ≠ member.name ∧ text ≠ member.value) ->
        codec.decode (.string text) path
          = .error (.invalidValue path (enumTypeName enumName) (.string text)) := by
  obtain ⟨members, made, isCodec⟩ := members_of_ofColumn isEnum mapped
  obtain ⟨named, distinct, _⟩ := enumMembers_eq_ok made
  have reads (member : EnumMember) (isMember : member ∈ members) (text : String)
      (goesBy : member.name = text ∨ member.value = text) (path : String) :
      codec.decode (.string text) path = .ok (.string member.value) := by
    rw [decode_enumeration_eq isCodec,
      (find?_goesBy_eq_some_iff made).2 ⟨isMember, EnumMember.goesBy_iff.2 goesBy⟩]
  refine ⟨members, isCodec, ?_, enumMembers_values made, distinct, ?_, ?_, ?_, ?_⟩
  · rw [enumDefinition?, isCodec, Codec.innermost]
    simp
  · intro member isMember
    rw [named member isMember]
    exact isEnumName_enumMemberName member.value
  · intro first isFirst second isSecond sameText
    exact eq_of_goesBy made isFirst isSecond (EnumMember.goesBy_iff.2 (.inl rfl))
      (EnumMember.goesBy_iff.2 (.inr sameText.symm))
  · intro member isMember
    refine ⟨fun path => ⟨reads member isMember _ (.inl rfl) path,
      reads member isMember _ (.inr rfl) path⟩, ?_⟩
    rw [encode, isCodec, Codec.show?, showItem?, find?_value_eq_some made isMember]
    · rfl
    all_goals simp
  · intro text path unknown
    have noMember : members.find? (EnumMember.goesBy text) = none := by
      rw [List.find?_eq_none]
      intro member isMember goesBy
      obtain ⟨notName, notValue⟩ := unknown member isMember
      rcases EnumMember.goesBy_iff.1 goesBy with isName | isValue
      · exact notName isName.symm
      · exact notValue isValue.symm
    rw [decode_enumeration_eq isCodec, noMember]

/-- An enum column whose texts are made into names in all ways there are. -/
def gradeColumn : Column :=
  { name := "grade", kind := .enumeration "grade" ["", "1st", "true", "très bien", "A_1"] }

theorem ColumnCodec.enum_members_unambiguous_grade :
    ∃ codec members, ofColumn "exams" gradeColumn = .ok codec ∧
      codec.codec = .enumeration "GradeEnum" members ∧
      members.map (·.name) = ["_", "_1st", "_true", "tr_s_bien", "A_1"] ∧
      codec.decode (.string "tr_s_bien") "grade" = .ok (.string "très bien") ∧
      codec.decode (.string "très bien") "grade" = .ok (.string "très bien") ∧
      codec.encode (.string "très bien") = .ok (.string "tr_s_bien") ∧
      codec.decode (.string "false") "grade"
        = .error (.invalidValue "grade" "GradeEnum" (.string "false")) := by
  have named : enumTypeName "grade" = "GradeEnum" := by decide +kernel
  have mapped : ofColumn "exams" gradeColumn = .ok
      ⟨"grade", false, .enumeration "GradeEnum"
        [⟨"_", ""⟩, ⟨"_1st", "1st"⟩, ⟨"_true", "true"⟩, ⟨"tr_s_bien", "très bien"⟩,
          ⟨"A_1", "A_1"⟩]⟩ := by
    rw [← named]
    rfl
  obtain ⟨members, isCodec, _, _, _, _, _, reads, others⟩ :=
    enum_members_unambiguous (by rfl) mapped
  cases isCodec
  obtain ⟨readBoth, shown⟩ := reads ⟨"tr_s_bien", "très bien"⟩ (by simp)
  obtain ⟨readName, readValue⟩ := readBoth "grade"
  rw [named] at others
  exact ⟨_, _, mapped, rfl, rfl, readName, readValue, shown, others "false" "grade" (by simp)⟩

end RelationalApi
