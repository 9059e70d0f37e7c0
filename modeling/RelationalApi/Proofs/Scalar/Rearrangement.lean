import RelationalApi.Proofs.Json.Rearrangement
import RelationalApi.Scalar.Decoding
import RelationalApi.Interface.Inputs
import RelationalApi.Storage.Comparison

/-!
# Reading rearranged documents

A codec reads the same value from a document however its objects are arranged, unless it keeps
documents as they are.  The values that it reads then are alike for every comparison with a stored
value.
-/

namespace RelationalApi

open Outcome

/-- No comparison with a stored value tells two values apart. -/
def Value.Alike (value other : Value) : Prop :=
  ∀ stored : Value, stored.equal value = stored.equal other ∧
    stored.order? value = stored.order? other

theorem Value.Alike.refl (value : Value) : value.Alike value := fun _ => ⟨rfl, rfl⟩

theorem Value.alike_json {document other : Json} (rearranged : document.Rearranged other) :
    (Value.json document).Alike (.json other) := by
  intro stored
  cases stored with
  | json kept =>
      refine ⟨?_, rfl⟩
      rw [equal, equal]
      exact rearranged.equal_right kept
  | _ => exact ⟨rfl, rfl⟩

theorem Value.equalItems_alike
    {values others : List Value}
    (alike : List.Forall₂ Value.Alike values others)
    (stored : List Value) :
    equalItems stored values = equalItems stored others := by
  induction alike generalizing stored with
  | nil => rfl
  | cons first _ inductionHypothesis =>
      cases stored with
      | nil => rfl
      | cons kept stored => rw [equalItems, equalItems, (first kept).1, inductionHypothesis]

theorem Value.alike_array
    {values others : List Value}
    (alike : List.Forall₂ Value.Alike values others) :
    (Value.array values).Alike (.array others) := by
  intro stored
  cases stored with
  | array kept =>
      refine ⟨?_, rfl⟩
      rw [equal, equal, equalItems_alike alike]
  | _ => exact ⟨rfl, rfl⟩

/-- Lists are read to related values where their items are. -/
theorem readItems_agree
    {related : Value -> Value -> Prop}
    {read : Json -> String -> Except ArgumentError Value}
    {items others : List Json}
    (pairs : List.Forall₂ Json.Rearranged items others)
    (reads : ∀ item other, item.Rearranged other -> ∀ path,
      Agree related (read item path) (read other path))
    (path : String)
    (index : Nat) :
    Agree (List.Forall₂ related) (readItems read path index items)
      (readItems read path index others) := by
  induction pairs generalizing index with
  | nil => exact .ok .nil
  | cons first _ inductionHypothesis =>
      rw [readItems, readItems]
      refine (reads _ _ first _).bind fun _ _ value => ?_
      exact (inductionHypothesis (index + 1)).bind fun _ _ values => .ok (.cons value values)

/-- Whether documents may occur in what a codec reads. -/
def Codec.takesNested : Codec -> Bool
  | .list _ => true
  | .json => true
  | _ => false

/-- A codec of single values reads no lists and no objects. -/
theorem Codec.read_eq_error
    {codec : Codec}
    {document : Json}
    (single : codec.takesNested = false)
    (nested : (∃ items, document = .array items) ∨ ∃ entries, document = .object entries)
    (path : String) :
    ∃ fault, codec.read document path = .error fault := by
  rcases nested with ⟨items, rfl⟩ | ⟨entries, rfl⟩
  all_goals
    cases codec with
    | integer bits unsigned =>
        unfold Codec.read readInteger
        split <;> exact ⟨_, rfl⟩
    | list element => cases single
    | json => cases single
    | _ => exact ⟨_, rfl⟩

/-- A codec of single values reads the same from rearranged documents. -/
theorem Codec.read_agree_of_single
    {codec : Codec}
    {document other : Json}
    (single : codec.takesNested = false)
    (rearranged : document.Rearranged other)
    (path : String) :
    Agree Eq (codec.read document path) (codec.read other path) := by
  cases rearranged with
  | same => exact .refl (fun _ => rfl) _
  | array pairs =>
      obtain ⟨_, refused⟩ := read_eq_error single (.inl ⟨_, rfl⟩) path
      obtain ⟨_, refusedOther⟩ := read_eq_error single (.inl ⟨_, rfl⟩) path
      rw [refused, refusedOther]
      exact .error
  | object distinct reordered pairs =>
      obtain ⟨_, refused⟩ := read_eq_error single (.inr ⟨_, rfl⟩) path
      obtain ⟨_, refusedOther⟩ := read_eq_error single (.inr ⟨_, rfl⟩) path
      rw [refused, refusedOther]
      exact .error

/-- Rearranged documents are read to values that are alike, and to the same value by a codec that
keeps no documents. -/
theorem Codec.read_agree
    (codec : Codec)
    {document other : Json}
    (rearranged : document.Rearranged other)
    (path : String) :
    Agree (fun value result => value.Alike result ∧ (codec.kind.usesJson = false -> value = result))
      (codec.read document path) (codec.read other path) := by
  induction codec generalizing document other path with
  | list element inductionHypothesis =>
      cases rearranged with
      | same => exact .refl (fun value => ⟨.refl value, fun _ => rfl⟩) _
      | array pairs =>
          have reads := readItems_agree pairs
            (fun item other related path => inductionHypothesis related path) path 0
          refine reads.bind fun values results alike => .ok ⟨?_, fun noJson => ?_⟩
          · exact Value.alike_array (alike.imp fun _ _ pair => pair.1)
          · have noJson : element.kind.usesJson = false := noJson
            have same := alike.imp fun _ _ pair => pair.2 noJson
            rw [List.forall₂_eq_eq_eq] at same
            rw [same]
      | object => exact .error
  | json =>
      refine .ok ⟨Value.alike_json rearranged, fun noJson => ?_⟩
      cases noJson
  | _ =>
      refine (read_agree_of_single rfl rearranged path).mono fun value result same => ?_
      exact same ▸ ⟨.refl value, fun _ => rfl⟩

namespace ColumnCodec

theorem decodeNonNull_agree
    (column : ColumnCodec)
    {document other : Json}
    (rearranged : document.Rearranged other)
    (path : String) :
    Agree Value.Alike (column.decodeNonNull document path) (column.decodeNonNull other path) :=
  (column.codec.read_agree rearranged path).mono fun _ _ alike => alike.1

/-- A column without documents is given the same value by rearranged documents. -/
theorem decode_agree
    (column : ColumnCodec)
    (noJson : column.kind.usesJson = false)
    {document other : Json}
    (rearranged : document.Rearranged other)
    (path : String) :
    Agree Eq (column.decode document path) (column.decode other path) := by
  rw [decode, decode, rearranged.isNull_eq]
  split
  · split
    · exact .ok rfl
    · exact .error
  · exact (column.codec.read_agree rearranged path).mono fun _ _ alike => alike.2 noJson

end ColumnCodec
end RelationalApi
