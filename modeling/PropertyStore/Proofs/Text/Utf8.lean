import Mathlib.Data.List.Forall2
import PropertyStore.Text.Utf8

namespace PropertyStore.Text

namespace Utf8

private theorem encode_eq (text : String) :
    encode text = text.toList.flatMap String.utf8EncodeChar := by
  have bytes : text.toUTF8 = text.toList.utf8Encode := by
    rw [String.toUTF8_eq_toByteArray, ← String.toByteArray_ofList, String.ofList_toList]
  rw [encode, bytes]
  simp [List.utf8Encode]

private theorem encode_append (before after : String) :
    encode (before ++ after) = encode before ++ encode after := by
  simp [encode_eq]

theorem length_encode (text : String) : (encode text).length = text.utf8ByteSize := by
  simp [encode]

theorem slice?_append (before text after : String) :
    slice? (before ++ text ++ after) before.utf8ByteSize (before ++ text).utf8ByteSize =
      some text := by
  rw [slice?, encode_append, ← length_encode, ← length_encode, List.take_left, encode_append,
    List.drop_left, decode?_encode]

def Valid (bytes : Bytes) : Prop := ∃ text, bytes = encode text

/-- Bytes that begin no character. -/
def Stray (bytes : Bytes) : Prop := bytes ≠ [] ∧ ∀ c, ¬ String.utf8EncodeChar c <+: bytes

theorem decode?_eq_some_iff (bytes : Bytes) (text : String) :
    decode? bytes = some text ↔ bytes = encode text := by
  constructor
  · intro decoded
    unfold decode? String.fromUTF8? at decoded
    split at decoded
    · cases decoded
      rfl
    · cases decoded
  · rintro rfl
    exact decode?_encode text

theorem decode?_eq_none_iff (bytes : Bytes) : decode? bytes = none ↔ ¬ Valid bytes := by
  simp [Option.eq_none_iff_forall_ne_some, decode?_eq_some_iff, Valid]

private theorem encodeChar_append_inj {c d : Char} {rest other : Bytes}
    (same : String.utf8EncodeChar c ++ rest = String.utf8EncodeChar d ++ other) :
    c = d ∧ rest = other := by
  have first (c : Char) (rest : Bytes) :
      ((String.utf8EncodeChar c ++ rest).toByteArray).utf8DecodeChar? 0 = some c := by
    rw [List.toByteArray_append]
    exact ByteArray.utf8DecodeChar?_utf8EncodeChar_append
  have read := first c rest
  rw [same, first d other] at read
  cases read
  exact ⟨rfl, List.append_cancel_left same⟩

theorem stray_of_cut {part : Bytes} {c : Char} (some : part ≠ [])
    (begins : part <+: String.utf8EncodeChar c) (cut : part ≠ String.utf8EncodeChar c) :
    Stray part := by
  refine ⟨some, fun d whole => cut ?_⟩
  obtain ⟨missing, character⟩ := begins
  obtain ⟨extra, rfl⟩ := whole
  have same : String.utf8EncodeChar d ++ (extra ++ missing) = String.utf8EncodeChar c ++ [] := by
    rw [← List.append_assoc, character, List.append_nil]
  obtain ⟨rfl, nothing⟩ := encodeChar_append_inj same
  simp [(List.append_eq_nil_iff.mp nothing).1]

private theorem flatMap_append_ne {rest : Bytes} (stray : Stray rest) (before text : List Char) :
    before.flatMap String.utf8EncodeChar ++ rest ≠ text.flatMap String.utf8EncodeChar := by
  intro same
  induction before generalizing text with
  | nil =>
    cases text with
    | nil => exact stray.1 same
    | cons c text => exact stray.2 c ⟨_, same.symm⟩
  | cons c before ih =>
    rw [List.flatMap_cons, List.append_assoc] at same
    cases text with
    | nil => exact String.utf8EncodeChar_ne_nil (List.append_eq_nil_iff.mp same).1
    | cons d text => exact ih text (encodeChar_append_inj same).2

/-- Of any bytes, the characters in front can be read, up to the end or to stray bytes. -/
theorem exists_flatMap_append (bytes : Bytes) : ∃ (before : List Char) (rest : Bytes),
    bytes = before.flatMap String.utf8EncodeChar ++ rest ∧ (rest = [] ∨ Stray rest) := by
  induction length : bytes.length using Nat.strongRecOn generalizing bytes with
  | ind size ih =>
    by_cases begins : ∃ c, String.utf8EncodeChar c <+: bytes
    · obtain ⟨c, later, rfl⟩ := begins
      have shorter : later.length < size := by
        have some := List.length_pos_iff.mpr (String.utf8EncodeChar_ne_nil (c := c))
        rw [← length, List.length_append]
        omega
      obtain ⟨before, rest, rfl, ends⟩ := ih later.length shorter later rfl
      exact ⟨c :: before, rest, by simp, ends⟩
    · by_cases nothing : bytes = []
      · exact ⟨[], [], nothing, .inl rfl⟩
      · exact ⟨[], bytes, rfl, .inr ⟨nothing, by simpa using begins⟩⟩

/-- Bytes are invalid exactly if at some place behind whole characters they are stray. -/
theorem not_valid_iff (bytes : Bytes) :
    ¬ Valid bytes ↔ ∃ before rest, bytes = encode before ++ rest ∧ Stray rest := by
  constructor
  · intro invalid
    obtain ⟨before, rest, same, ends⟩ := exists_flatMap_append bytes
    have encoded := encode_eq (String.ofList before)
    rw [String.toList_ofList] at encoded
    rw [← encoded] at same
    rcases ends with rfl | stray
    · exact (invalid ⟨_, same.trans (List.append_nil _)⟩).elim
    · exact ⟨_, rest, same, stray⟩
  · rintro ⟨before, rest, rfl, stray⟩ ⟨text, same⟩
    rw [encode_eq, encode_eq] at same
    exact flatMap_append_ne stray _ _ same

end Utf8

/-- Bytes and the text in which each of them is the code point of one character. -/
def IsLatin1 (bytes : Bytes) (text : String) : Prop :=
  List.Forall₂ (fun byte c => c.toNat = byte.toNat) bytes text.toList

theorem isLatin1_latin1 (bytes : Bytes) : IsLatin1 bytes (latin1 bytes) := by
  have code : ∀ byte < 256, (Char.ofNat byte).toNat = byte := by decide +kernel
  rw [IsLatin1, latin1, String.toList_ofList, List.forall₂_map_right_iff]
  exact List.forall₂_same.mpr fun byte _ => code byte.toNat byte.toNat_lt

end PropertyStore.Text
