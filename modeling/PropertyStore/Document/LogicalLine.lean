import PropertyStore.Text.Line

/-! Logical lines: what is left of a text's natural lines when blank and comment lines are
dropped and continued lines are joined. Each keeps the number of its first natural line,
which is where a fault in it is reported. -/

namespace PropertyStore.Document

/-- A joined line and the number, from one, of its first natural line. -/
structure LogicalLine where
  number : Nat
  text : List Char
  deriving Repr, DecidableEq

/-- Whether a line that continues no other, its leading blanks dropped, holds no property. -/
def isIgnored : List Char → Bool
  | [] => true
  | c :: _ => c == '#' || c == '!'

/-- A line goes on in the next one when it ends in an odd number of backslashes. -/
def isContinued (line : List Char) : Bool :=
  (line.reverse.takeWhile (· == '\\')).length % 2 == 1

/-- The logical line that a natural line, its leading blanks dropped, begins or continues:
`waiting` is the line before it, without its last backslash, if that one goes on. -/
def LogicalLine.extend? (waiting : Option LogicalLine) (number : Nat) (stripped : List Char) :
    Option LogicalLine :=
  match waiting with
  | none => if isIgnored stripped then none else some ⟨number, stripped⟩
  | some begun => some { begun with text := begun.text ++ stripped }

/-- Joins the natural lines from `number` on, the first of which continues `waiting`. A line
that would go on past the end of the text ends there. -/
def joinLines (waiting : Option LogicalLine) (number : Nat) :
    List (List Char) → List LogicalLine
  | [] => waiting.toList
  | line :: rest =>
    match LogicalLine.extend? waiting number (Text.dropBlanks line) with
    | none => joinLines none (number + 1) rest
    | some current =>
      if isContinued current.text then
        joinLines (some { current with text := current.text.dropLast }) (number + 1) rest
      else current :: joinLines none (number + 1) rest

/-- The logical lines of a text whose natural lines are `lines`. -/
def logicalLines (lines : List (List Char)) : List LogicalLine := joinLines none 1 lines

end PropertyStore.Document
