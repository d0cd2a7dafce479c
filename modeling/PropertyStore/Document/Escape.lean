import PropertyStore.Text.Hex
import PropertyStore.Text.Utf16

/-! Escapes of a property file. Reading turns the text into pieces, characters and
sixteen-bit units, and then joins each run of neighbouring units into characters; a
literal or a simple escape between two halves of a pair keeps them apart. Writing
escapes all that a reader would take for something else. -/

namespace PropertyStore.Document

/-- What one character or escape of a raw text stands for. -/
inductive Piece where
  | char (c : Char)
  | unit (value : UInt16)
  deriving Repr, DecidableEq

/-- A `\u` without four hexadecimal digits; `digits` are the up to four characters after it. -/
structure BadEscape where
  digits : List Char
  deriving Repr, DecidableEq

/-- The character that a backslash and `c` stand for. -/
def simpleEscape (c : Char) : Char :=
  match c with
  | 't' => '\t'
  | 'n' => '\n'
  | 'r' => '\r'
  | 'f' => '\x0c'
  | c => c

/-- The pieces of a raw text. A backslash at its very end stands for nothing. -/
def pieces : List Char → Except BadEscape (List Piece)
  | [] => .ok []
  | ['\\'] => .ok []
  | '\\' :: 'u' :: a :: b :: c :: d :: rest =>
    match Text.hexUnit? a b c d with
    | some value => (pieces rest).map (Piece.unit value :: ·)
    | none => .error ⟨[a, b, c, d]⟩
  | '\\' :: 'u' :: short => .error ⟨short⟩
  | '\\' :: c :: rest => (pieces rest).map (Piece.char (simpleEscape c) :: ·)
  | c :: rest => (pieces rest).map (Piece.char c :: ·)

/-- The text of pieces that follow the units already `waiting`. -/
def joinPieces (waiting : List UInt16) : List Piece → List Char
  | [] => Text.Utf16.decode waiting
  | .unit value :: rest => joinPieces (waiting ++ [value]) rest
  | .char c :: rest => Text.Utf16.decode waiting ++ c :: joinPieces [] rest

/-- The text that a raw key or a raw value stands for. -/
def unescape (raw : List Char) : Except BadEscape (List Char) :=
  (pieces raw).map (joinPieces [])

/-- A control character: U+0000 to U+001F and U+007F to U+009F. -/
def isControl (c : Char) : Bool := c.toNat < 0x20 || (0x7F ≤ c.toNat && c.toNat < 0xA0)

/-- How a character is written wherever blanks need no care. -/
def escapeChar (c : Char) : List Char :=
  match c with
  | '\t' => ['\\', 't']
  | '\n' => ['\\', 'n']
  | '\r' => ['\\', 'r']
  | '\x0c' => ['\\', 'f']
  | '=' | ':' | '#' | '!' | '\\' => ['\\', c]
  | c => if isControl c then '\\' :: 'u' :: Text.hexDigits c.toNat.toUInt16 else [c]

/-- A key escapes every space, so that none ends it. -/
def escapeKey (key : List Char) : List Char :=
  key.flatMap fun c => if c = ' ' then ['\\', ' '] else escapeChar c

/-- A value escapes a space only at its start, where it would be skipped. -/
def escapeValue : List Char → List Char
  | ' ' :: rest => '\\' :: ' ' :: rest.flatMap escapeChar
  | value => value.flatMap escapeChar

end PropertyStore.Document
