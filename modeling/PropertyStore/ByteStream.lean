import PropertyStore.Fault
import PropertyStore.Text.Utf8

/-! A source of bytes that arrive in chunks. It is read to its end before anything is made
of the bytes, so how they were cut up does not matter. A file is such a source once it is
open. -/

namespace PropertyStore

/-- What the reads of a source return, one after the other. -/
inductive ByteStream where
  | ended
  | failed (cause : String)
  | chunk (bytes : Text.Bytes) (rest : ByteStream)

namespace ByteStream

/-- All bytes of a source. A read that returns no bytes is the end. -/
def readAll : ByteStream → Except Fault Text.Bytes
  | .ended => .ok []
  | .failed cause => .error (.readFailed cause)
  | .chunk bytes rest =>
    if bytes.isEmpty then .ok [] else rest.readAll.map (bytes ++ ·)

/-- The source whose bytes arrive at once. -/
def whole (bytes : Text.Bytes) : ByteStream := .chunk bytes .ended

@[simp] theorem readAll_whole (bytes : Text.Bytes) : (whole bytes).readAll = .ok bytes := by
  cases bytes <;> simp [whole, readAll, Except.map]

/-- A source whose reads return the given chunks and then end, or fail. -/
def ofChunks (failure : Option String) (chunks : List Text.Bytes) : ByteStream :=
  chunks.foldr .chunk (match failure with
    | none => .ended
    | some cause => .failed cause)

end ByteStream

/-- How the bytes of a regular file arrive when the file is opened, or why it cannot be. -/
abbrev Access : Type := Text.Bytes → Except String ByteStream

/-- Every file can be opened, and no read of it fails. -/
def Access.granted : Access := fun bytes => .ok (.whole bytes)

end PropertyStore
