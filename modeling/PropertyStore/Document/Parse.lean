import PropertyStore.Document.Escape
import PropertyStore.Document.LogicalLine

/-! Reading a property file: from text to its entries in file order, duplicates kept. The
only fault a text can have is a malformed `\u` escape; the first one is reported with the
number of the natural line that its logical line begins on. -/

namespace PropertyStore.Document

/-- A key and its value. -/
abbrev Entry := String × String

/-- The first malformed escape of a text. -/
structure Malformed where
  line : Nat
  escape : BadEscape
  deriving Repr, DecidableEq

def Malformed.message (fault : Malformed) : String :=
  s!"非法的 \\uxxxx 转义: \\u{String.ofList fault.escape.digits}"

/-- Whether an unescaped character ends the key. -/
def endsKey (c : Char) : Bool := c == '=' || c == ':' || Text.isBlank c

/-- The raw key of a logical line and all that follows it. -/
def splitKey : List Char → List Char × List Char
  | [] => ([], [])
  | '\\' :: c :: rest =>
    let (key, after) := splitKey rest
    ('\\' :: c :: key, after)
  | c :: rest =>
    if endsKey c then ([], c :: rest)
    else
      let (key, after) := splitKey rest
      (c :: key, after)

/-- Skips what stands between key and value: blanks, at most one `=` or `:`, and blanks. -/
def dropSeparator (after : List Char) : List Char :=
  match Text.dropBlanks after with
  | '=' :: value | ':' :: value => Text.dropBlanks value
  | value => value

def splitEntry (line : List Char) : List Char × List Char :=
  let (key, after) := splitKey line
  (key, dropSeparator after)

/-- The entry of a logical line. A fault in the key is found before one in the value. -/
def LogicalLine.entry (line : LogicalLine) : Except Malformed Entry :=
  let (rawKey, rawValue) := splitEntry line.text
  Except.mapError (Malformed.mk line.number) do
    let key ← unescape rawKey
    let value ← unescape rawValue
    return (String.ofList key, String.ofList value)

/-- A byte order mark at the very start of a text is no part of it. -/
def dropMark : List Char → List Char
  | '\uFEFF' :: text => text
  | text => text

def parse (text : String) : Except Malformed (List Entry) :=
  (logicalLines (Text.naturalLines (dropMark text.toList))).mapM LogicalLine.entry

end PropertyStore.Document
