/-! Bytes of text. A byte sequence is read as UTF-8 when the whole of it is valid and as
ISO-8859-1 otherwise, never as a mixture. `firstFault?` names the place that makes a
sequence invalid, in the way decoders report it: the longest start of a character that is
still valid counts as one fault. -/

namespace PropertyStore.Text

abbrev Bytes := List UInt8

namespace Utf8

def encode (text : String) : Bytes := text.toUTF8.data.toList

/-- The text, if the bytes as a whole are valid UTF-8. -/
def decode? (bytes : Bytes) : Option String := String.fromUTF8? ⟨⟨bytes⟩⟩

theorem decode?_encode (text : String) : decode? (encode text) = some text := by
  have whole : (⟨⟨encode text⟩⟩ : ByteArray) = text.toUTF8 := by simp [encode]
  simp only [decode?, whole, String.fromUTF8?, String.toUTF8_eq_toByteArray,
    dif_pos text.isValidUTF8]
  rfl

/-- The part of a text between two byte offsets, unless one of them cuts a character. -/
def slice? (text : String) (start stop : Nat) : Option String :=
  decode? (((encode text).take stop).drop start)

/-- What makes a byte sequence invalid: bytes that start no character, or a character cut
off by the end. -/
inductive Fault where
  | invalid (offset length : Nat)
  | incomplete (offset : Nat)
  deriving Repr, DecidableEq

def Fault.message : Fault → String
  | .invalid offset length => s!"invalid utf-8 sequence of {length} bytes from index {offset}"
  | .incomplete offset => s!"incomplete utf-8 byte sequence from index {offset}"

/-- A character being read: where it began, how many bytes it still needs and the range
of the next one. -/
structure Partial where
  start : Nat
  owed : Nat
  low : UInt8 := 0x80
  high : UInt8 := 0xBF

/-- The character that a byte begins, if it can begin one of several bytes. -/
def Partial.begin? (start : Nat) (byte : UInt8) : Option Partial :=
  if 0xC2 ≤ byte && byte ≤ 0xDF then some { start, owed := 1 }
  else if byte = 0xE0 then some { start, owed := 2, low := 0xA0 }
  else if byte = 0xED then some { start, owed := 2, high := 0x9F }
  else if 0xE1 ≤ byte && byte ≤ 0xEF then some { start, owed := 2 }
  else if byte = 0xF0 then some { start, owed := 3, low := 0x90 }
  else if 0xF1 ≤ byte && byte ≤ 0xF3 then some { start, owed := 3 }
  else if byte = 0xF4 then some { start, owed := 3, high := 0x8F }
  else none

/-- The character after its next byte; `none` when that byte ended it. -/
def Partial.advance (opened : Partial) : Option Partial :=
  if opened.owed ≤ 1 then none else some { start := opened.start, owed := opened.owed - 1 }

/-- Scans from `offset` with the character that is open there. -/
def scan (offset : Nat) (current : Option Partial) : Bytes → Option Fault
  | [] => current.map fun opened => .incomplete opened.start
  | byte :: rest =>
    match current with
    | none =>
      if byte < 0x80 then scan (offset + 1) none rest
      else match Partial.begin? offset byte with
        | none => some (.invalid offset 1)
        | some begun => scan (offset + 1) (some begun) rest
    | some opened =>
      if opened.low ≤ byte && byte ≤ opened.high then scan (offset + 1) opened.advance rest
      else some (.invalid opened.start (offset - opened.start))

def firstFault? (bytes : Bytes) : Option Fault := scan 0 none bytes

end Utf8

/-- ISO-8859-1: each byte is the code point of its character. -/
def latin1 (bytes : Bytes) : String :=
  String.ofList (bytes.map fun byte => Char.ofNat byte.toNat)

end PropertyStore.Text
