import PropertyStore.Proofs.Store.Loading
import PropertyStore.Proofs.Text.Utf8

/-! Reading a source to its end. What its bytes mean is settled by all of them together: how they
were cut into chunks makes no difference, and one fault anywhere makes all of them ISO-8859-1. -/

namespace PropertyStore

namespace ByteStream

private theorem delivers_ofChunks {chunks : List Text.Bytes}
    (present : ∀ chunk ∈ chunks, chunk ≠ []) :
    (ofChunks none chunks).Delivers chunks.flatten := by
  induction chunks with
  | nil => exact .ended
  | cons chunk chunks ih =>
    obtain ⟨first, rest⟩ := List.forall_mem_cons.mp present
    exact .chunk first (ih rest)

private theorem breaks_ofChunks {chunks : List Text.Bytes} (cause : String)
    (present : ∀ chunk ∈ chunks, chunk ≠ []) : (ofChunks (some cause) chunks).Breaks cause := by
  induction chunks with
  | nil => exact .now
  | cons chunk chunks ih =>
    obtain ⟨first, rest⟩ := List.forall_mem_cons.mp present
    exact .later first (ih rest)

end ByteStream

namespace Document

private theorem decode_of_valid {bytes : Text.Bytes} {text : String}
    (valid : bytes = Text.Utf8.encode text) : (decode bytes).value = text := by
  rw [decode, (Text.Utf8.decode?_eq_some_iff bytes text).mpr valid]

private theorem decode_of_invalid {bytes : Text.Bytes} (invalid : ¬ Text.Utf8.Valid bytes) :
    (decode bytes).value = Text.latin1 bytes := by
  rw [decode, (Text.Utf8.decode?_eq_none_iff bytes).mpr invalid]

private theorem ofStream_of_breaks {stream : ByteStream} {cause : String}
    (breaks : stream.Breaks cause) :
    (ofStream stream).value = .error (.readFailed cause) := by
  rw [ofStream, (stream.readAll_eq_error_iff).mpr ⟨cause, breaks, rfl⟩]

/-- A source is read as the text of which its bytes as a whole are the UTF-8 encoding, in however
many chunks they come, and a character may be cut in two. If they are the encoding of no text,
because somewhere behind whole characters no character begins or one lacks its end, each byte is
read as the character of its number. If a read fails, no bytes before it count. -/
theorem ofStream_ofChunks {chunks : List Text.Bytes} (present : ∀ chunk ∈ chunks, chunk ≠ []) :
    (∀ text, chunks.flatten = Text.Utf8.encode text →
      (ofStream (.ofChunks none chunks)).value = (parse text).mapError .malformed) ∧
    (¬ Text.Utf8.Valid chunks.flatten → ∃ text, Text.IsLatin1 chunks.flatten text ∧
      (ofStream (.ofChunks none chunks)).value = (parse text).mapError .malformed) ∧
    (¬ Text.Utf8.Valid chunks.flatten ↔ ∃ before rest,
      chunks.flatten = Text.Utf8.encode before ++ rest ∧ Text.Utf8.Stray rest) ∧
    (∀ before part c, chunks.flatten = Text.Utf8.encode before ++ part → part ≠ [] →
      part <+: String.utf8EncodeChar c → part ≠ String.utf8EncodeChar c →
        ¬ Text.Utf8.Valid chunks.flatten) ∧
    ∀ cause, (ofStream (.ofChunks (some cause) chunks)).value = .error (.readFailed cause) := by
  have delivers := ByteStream.delivers_ofChunks present
  refine ⟨fun text valid => ?_, fun invalid => ?_, Text.Utf8.not_valid_iff _, ?_, fun cause => ?_⟩
  · exact ofStream_of_carries ⟨_, delivers, decode_of_valid valid⟩
  · refine ⟨_, Text.isLatin1_latin1 _, ?_⟩
    exact ofStream_of_carries ⟨_, delivers, decode_of_invalid invalid⟩
  · intro before part c bytes some begins cut
    have stray := Text.Utf8.stray_of_cut some begins cut
    exact (Text.Utf8.not_valid_iff _).mpr ⟨before, part, bytes, stray⟩
  · exact ofStream_of_breaks (ByteStream.breaks_ofChunks cause present)

/-- A character in two chunks, the same one without its last byte, and a read that fails. -/
theorem ofStream_ofChunks_divided :
    (ofStream (.ofChunks none [[0x61, 0x3D, 0xC3], [0xA9]])).value = .ok [("a", "é")] ∧
      (∃ text, Text.IsLatin1 [0x61, 0x3D, 0xC3] text ∧
        (ofStream (.ofChunks none [[0x61], [0x3D, 0xC3]])).value =
          (parse text).mapError .malformed) ∧
      (ofStream (.ofChunks (some "broken") [[0x61], [0x3D, 0xC3]])).value =
        .error (.readFailed "broken") := by
  have divided := @ofStream_ofChunks [[0x61, 0x3D, 0xC3], [0xA9]] (by decide)
  have cut := @ofStream_ofChunks [[0x61], [0x3D, 0xC3]] (by decide)
  have read : parse "a=é" = .ok [("a", "é")] := by decide +kernel
  refine ⟨?_, ?_, cut.2.2.2.2 "broken"⟩
  · rw [divided.1 "a=é" (by decide +kernel), read]
    rfl
  · exact cut.2.1 (cut.2.2.2.1 "a=" [0xC3] 'é' (by decide +kernel) (by decide)
      (by decide) (by decide))

end Document

end PropertyStore
