import PropertyStore.Document.Parse
import PropertyStore.Number
import PropertyStore.Text.Utf8

/-! Reading a property file with a stop at every place that reading should not come to. The key of
a line ends at a byte, which could lie within a character; a raw text could end in a backslash that
escapes nothing; and four hexadecimal digits could come to no unit. -/

namespace PropertyStore.Document.Cautious

/-- Why reading stops. -/
inductive Cause where
  | malformed (escape : BadEscape)
  /-- The key ends within a character. -/
  | midCharacter
  /-- The last character of a raw text is a backslash that escapes nothing. -/
  | dangling
  /-- Four hexadecimal digits come to no unit. -/
  | noUnit (cause : NumberFault)
  deriving Repr, DecidableEq

/-- Where reading stops, by the number of a natural line, and why. -/
structure Problem where
  line : Nat
  cause : Cause
  deriving Repr, DecidableEq

def ofMalformed (fault : Malformed) : Problem := ⟨fault.line, .malformed fault.escape⟩

/-- Whether a scanner is inside an escape behind a character, if it is `inside` one before it. A
backslash begins an escape and the character behind it ends it. -/
def insideAfter (inside : Bool) (c : Char) : Bool := !inside && c == '\\'

/-- The byte at which the key of a line ends, for a scanner that has come to `byte`. -/
def keyEnd (inside : Bool) (byte : Nat) : List Char → Nat
  | [] => byte
  | c :: rest =>
    if !inside && endsKey c then byte
    else keyEnd (insideAfter inside c) (byte + c.utf8Size) rest

/-- The raw key and the raw value of a logical line, which is cut at a byte. -/
def splitEntry (line : List Char) : Except Cause (List Char × List Char) :=
  let text := String.ofList line
  let cut := keyEnd false 0 line
  match Text.Utf8.slice? text 0 cut, Text.Utf8.slice? text cut text.utf8ByteSize with
  | some key, some after => .ok (key.toList, dropSeparator after.toList)
  | _, _ => .error .midCharacter

def isHexDigit (c : Char) : Bool :=
  ('0' ≤ c && c ≤ '9') || ('a' ≤ c && c ≤ 'f') || ('A' ≤ c && c ≤ 'F')

/-- Reads hexadecimal digits after those that spell `value`, as long as sixteen bits hold it. -/
def hexValue (value : Nat) : List Char → Except NumberFault Nat
  | [] => .ok value
  | c :: rest =>
    match Text.hexDigit? c with
    | none => .error .invalidDigit
    | some digit =>
      let next := value * 16 + digit
      if next < 0x10000 then hexValue next rest else .error .tooLarge

/-- The unit that a hexadecimal number spells, which may begin with a plus sign. -/
def unitOf : List Char → Except NumberFault UInt16
  | [] => .error .empty
  | ['+'] => .error .invalidDigit
  | '+' :: digits => (hexValue 0 digits).map Nat.toUInt16
  | digits => (hexValue 0 digits).map Nat.toUInt16

/-- What a reader does with what is left of a raw text. -/
inductive Move where
  | finish
  | piece (piece : Piece) (rest : List Char)
  | stop (cause : Cause)

def move : List Char → Move
  | [] => .finish
  | ['\\'] => .stop .dangling
  | '\\' :: 'u' :: after =>
    let digits := after.take 4
    if digits.length = 4 ∧ digits.all isHexDigit then
      match unitOf digits with
      | .ok unit => .piece (.unit unit) (after.drop 4)
      | .error cause => .stop (.noUnit cause)
    else .stop (.malformed ⟨digits⟩)
  | '\\' :: c :: rest => .piece (.char (simpleEscape c)) rest
  | c :: rest => .piece (.char c) rest

theorem length_lt_of_move {raw rest : List Char} {piece : Piece}
    (found : move raw = .piece piece rest) : rest.length < raw.length := by
  unfold move at found
  split at found
  · cases found
  · cases found
  · dsimp only at found
    split at found
    · split at found
      · cases found
        simp only [List.length_drop, List.length_cons]
        omega
      · cases found
    · cases found
  · cases found
    simp only [List.length_cons]
    omega
  · cases found
    exact Nat.lt_succ_self _

def pieces (raw : List Char) : Except Cause (List Piece) :=
  match _ : move raw with
  | .finish => .ok []
  | .piece piece rest => (pieces rest).map (piece :: ·)
  | .stop cause => .error cause
termination_by raw.length
decreasing_by exact length_lt_of_move ‹_›

def unescape (raw : List Char) : Except Cause (List Char) := (pieces raw).map (joinPieces [])

def entry (line : LogicalLine) : Except Problem Entry :=
  Except.mapError (Problem.mk line.number) do
    let (rawKey, rawValue) ← splitEntry line.text
    let key ← unescape rawKey
    let value ← unescape rawValue
    return (String.ofList key, String.ofList value)

def parse (text : String) : Except Problem (List Entry) :=
  (logicalLines (Text.naturalLines (dropMark text.toList))).mapM entry

end PropertyStore.Document.Cautious
