import PropertyStore.Document.Parse
import PropertyStore.Proofs.Document.OpenEnd
import PropertyStore.Proofs.Text.Line

/-! The grammar of property files, said without a reader: how natural lines make logical
lines, where a logical line is divided, what a raw text stands for and which raw texts stand
for nothing. -/

namespace PropertyStore.Document.Grammar

/-- A text and what is left of it without the byte order mark that it may begin with. -/
inductive Body : List Char → List Char → Prop where
  | marked : Body ('\uFEFF' :: text) text
  | plain (bare : text.head? ≠ some '\uFEFF') : Body text text

/-- A line that, if it continues no other, holds no property: it is blank, or its first
character that is no blank is `#` or `!`. -/
def HoldsNothing (line : List Char) : Prop :=
  ∀ c, (Text.dropBlanks line).head? = some c → c = '#' ∨ c = '!'

/-- Natural lines that make one logical line, and its text. A line with an open end goes on in
the next one; the last of them is `cut` if only the end of the text keeps it from going on. -/
inductive Joins : List (List Char) → List Char → (cut : Bool) → Prop where
  | whole (closed : ¬ OpenEnd (Text.dropBlanks line)) : Joins [line] (Text.dropBlanks line) false
  | cut (opened : OpenEnd (Text.dropBlanks line)) :
      Joins [line] (Text.dropBlanks line).dropLast true
  | goesOn (opened : OpenEnd (Text.dropBlanks line)) (rest : Joins lines text cut) :
      Joins (line :: lines) ((Text.dropBlanks line).dropLast ++ text) cut

/-- The logical lines of natural lines, the first of which has the given number. -/
inductive LogicalLines : Nat → List (List Char) → List LogicalLine → Prop where
  | nil : LogicalLines number [] []
  | ignored (nothing : HoldsNothing line) (rest : LogicalLines (number + 1) lines logical) :
      LogicalLines number (line :: lines) logical
  | joined (something : ¬ HoldsNothing line) (joins : Joins (line :: more) text cut)
      (atEnd : cut = true → lines = [])
      (rest : LogicalLines (number + (line :: more).length) lines logical) :
      LogicalLines number (line :: more ++ lines) (⟨number, text⟩ :: logical)

/-- A line divided behind its raw key: at the first `=`, `:` or blank that no backslash
escapes. -/
structure KeyEnds (line key after : List Char) : Prop where
  whole : line = key ++ after
  first : ∀ before c rest, key = before ++ c :: rest → endsKey c = true → OpenEnd before
  stops : ∀ c, after.head? = some c → endsKey c = true ∧ ¬ OpenEnd key

/-- What follows a raw key is blanks, at most one `=` or `:`, blanks and the raw value; as
much as can be belongs to the blanks and the sign. -/
structure ValueBegins (after value : List Char) : Prop where
  parts : ∃ leading sign trailing, after = leading ++ sign ++ trailing ++ value ∧
    (∀ c ∈ leading ++ trailing, Text.isBlank c = true) ∧
    (sign = ['='] ∨ sign = [':'] ∨ sign = [] ∧ value.head? ≠ some '=' ∧ value.head? ≠ some ':')
  noBlank : ∀ c, value.head? = some c → Text.isBlank c = false

/-- A logical line, its raw key and its raw value. -/
def Splits (line key value : List Char) : Prop :=
  ∃ after, KeyEnds line key after ∧ ValueBegins after value

/-- A smallest part of a raw text that stands for something: a character, a backslash and a
character, or a backslash, `u` and four hexadecimal digits. -/
inductive Token where
  | literal (c : Char) (plain : c ≠ '\\')
  | escape (c : Char) (simple : c ≠ 'u')
  | unit (a b c d : Char) (value : UInt16) (spelled : Text.hexUnit? a b c d = some value)

def Token.text : Token → List Char
  | .literal c _ => [c]
  | .escape c _ => ['\\', c]
  | .unit a b c d _ _ => ['\\', 'u', a, b, c, d]

def Token.piece : Token → Piece
  | .literal c _ => .char c
  | .escape c _ => .char (simpleEscape c)
  | .unit _ _ _ _ value _ => .unit value

def textOf (tokens : List Token) : List Char := tokens.flatMap Token.text

/-- A raw text and the text that it stands for. -/
def Denotes (raw text : List Char) : Prop :=
  ∃ tokens, raw = textOf tokens ∧ text = joinPieces [] (tokens.map Token.piece)

def IsHexDigit (c : Char) : Prop :=
  ('0' ≤ c ∧ c ≤ '9') ∨ ('a' ≤ c ∧ c ≤ 'f') ∨ ('A' ≤ c ∧ c ≤ 'F')

def FourDigits (text : List Char) : Prop :=
  4 ≤ text.length ∧ ∀ c ∈ text.take 4, IsHexDigit c

/-- A raw text with a `\u` that is not escaped itself and has no four digits after it. -/
def HasBadEscape (raw : List Char) : Prop :=
  ∃ before after, raw = before ++ '\\' :: 'u' :: after ∧ ¬ OpenEnd before ∧ ¬ FourDigits after

def FirstBad (raw : List Char) (escape : BadEscape) : Prop :=
  ∃ tokens after, raw = textOf tokens ++ '\\' :: 'u' :: after ∧ ¬ FourDigits after ∧
    escape = ⟨after.take 4⟩

/-- What the logical lines of a text come to: their entries in order, or the first fault. -/
inductive Entries : List LogicalLine → Except Malformed (List Entry) → Prop where
  | nil : Entries [] (.ok [])
  | entry (splits : Splits line.text rawKey rawValue) (key : Denotes rawKey keyText)
      (value : Denotes rawValue valueText) (rest : Entries lines (.ok entries)) :
      Entries (line :: lines)
        (.ok ((String.ofList keyText, String.ofList valueText) :: entries))
  | later (splits : Splits line.text rawKey rawValue) (key : Denotes rawKey keyText)
      (value : Denotes rawValue valueText) (rest : Entries lines (.error fault)) :
      Entries (line :: lines) (.error fault)
  | badKey (splits : Splits line.text rawKey rawValue) (bad : FirstBad rawKey escape) :
      Entries (line :: lines) (.error ⟨line.number, escape⟩)
  | badValue (splits : Splits line.text rawKey rawValue) (key : Denotes rawKey keyText)
      (bad : FirstBad rawValue escape) :
      Entries (line :: lines) (.error ⟨line.number, escape⟩)

def LogicalLinesOf (text : String) (logical : List LogicalLine) : Prop :=
  ∃ body lines, Body text.toList body ∧ Text.Lines body lines ∧ LogicalLines 1 lines logical

/-- What reading a text comes to. -/
def Reads (text : String) (result : Except Malformed (List Entry)) : Prop :=
  ∃ logical, LogicalLinesOf text logical ∧ Entries logical result

end PropertyStore.Document.Grammar
