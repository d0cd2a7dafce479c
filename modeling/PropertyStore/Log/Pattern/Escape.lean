import PropertyStore.Log.Pattern.Mode
import PropertyStore.Text.Hex

namespace PropertyStore.Log.Pattern

inductive Escape where
  /-- A character, which may be given as a byte. -/
  | literal (c : Char) (isByte : Bool)
  /-- The digits, the blanks or the characters of words, or all others. -/
  | kind (negated : Bool)
  /-- The start or the end of the text. -/
  | anchor
  /-- The border of a word. -/
  | border
  deriving Repr, DecidableEq

namespace Escape

/-- The number that some hexadecimal digits spell behind those that spell `value`, and what
is left behind them. -/
def hexadecimal? (mode : Mode) (value : Nat) :
    (digits : Nat) → List Char → Option (Nat × List Char)
  | 0, text => some (value, text)
  | digits + 1, text =>
    match mode.skip text with
    | [] => none
    | c :: rest => do
      let digit ← Text.hexDigit? c
      hexadecimal? mode (value * 16 + digit) digits rest

/-- The character whose code point some hexadecimal digits spell. -/
def codePoint? (mode : Mode) (digits : Nat) (isByte : Bool) (text : List Char) :
    Option (Escape × List Char) := do
  let (value, rest) ← hexadecimal? mode 0 digits text
  if value.isValidChar then some (literal (Char.ofNat value) isByte, rest) else none

/-- Reads what stands behind a backslash. A letter or a digit without a meaning of its own
stands for nothing. -/
def read? (mode : Mode) : List Char → Option (Escape × List Char)
  | [] => none
  | c :: rest =>
    match c with
    | 'x' => codePoint? mode 2 true rest
    | 'u' => codePoint? mode 4 false rest
    | 'U' => codePoint? mode 8 false rest
    | 'd' | 's' | 'w' => some (kind false, rest)
    | 'D' | 'S' | 'W' => some (kind true, rest)
    | 'a' => some (literal '\x07' false, rest)
    | 'f' => some (literal '\x0c' false, rest)
    | 't' => some (literal '\t' false, rest)
    | 'n' => some (literal '\n' false, rest)
    | 'r' => some (literal '\r' false, rest)
    | 'v' => some (literal '\x0b' false, rest)
    | 'A' | 'z' => some (anchor, rest)
    | 'b' | 'B' | '<' | '>' => some (border, rest)
    | _ => if c.toNat < 0x80 && !c.isAlphanum then some (literal c false, rest) else none

end Escape

end PropertyStore.Log.Pattern
