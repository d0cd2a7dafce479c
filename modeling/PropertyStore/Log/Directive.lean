import PropertyStore.Log.Pattern.Reading
import PropertyStore.Log.Severity
import PropertyStore.Text.Alphanumeric
import PropertyStore.Text.Decimal
import PropertyStore.Text.Utf8
import PropertyStore.Text.WhiteSpace

/-! The directives of a log's filter. A directive is written as a threshold alone, as a target
alone, or as `target[span{field=value}]=threshold` with any of its parts left out; a threshold
that is left out keeps everything.

The marks between the parts are looked for in the text without the white space around it. The
parts are then taken from the text as it was given, at the byte offsets of those marks, so that
white space behind belongs to the last part, and white space in front moves every part. -/

namespace PropertyStore.Log

/-- A field that something must have. -/
structure Field where
  name : String
  /-- The number that its value must be, or the pattern that it must match, if any. -/
  value : Option String
  deriving Repr, DecidableEq

/-- How grave something must be to be kept, and what this is said of. -/
structure Directive where
  /-- How the targets begin that the directive is for; `none` is for all. -/
  target : Option String := none
  /-- The span, a stretch of work, that the directive is for. -/
  span : Option String := none
  field : Option Field := none
  threshold : Threshold := some .trace
  deriving Repr, DecidableEq

inductive DirectiveFault where
  | malformed
  | badThreshold
  | badField (fault : Pattern.Fault)
  deriving Repr, DecidableEq

def DirectiveFault.message : DirectiveFault → String
  | .malformed => "invalid filter directive"
  | .badThreshold =>
    "error parsing level filter: expected one of \"off\", \"error\", \"warn\", \"info\", " ++
      "\"debug\", \"trace\", or a number 0-5"
  | .badField fault => "invalid field filter: " ++ fault.message

/-- The name of a field and what stands between the first equals sign and the next. -/
def Field.ofText (text : String) : Field :=
  match text.toList.splitOn '=' with
  | [] | [_] => ⟨text, none⟩
  | name :: value :: _ => ⟨String.ofList name, some (String.ofList value)⟩

/-- Why no value can be compared with what the field must have, if none can. -/
def Field.fault? (field : Field) : Option Pattern.Fault :=
  match field.value with
  | none => none
  | some value => if Text.isNumber value.toList then none else Pattern.fault? value.toList

namespace Directive

/-- A directive's text as it was given and what is left to read of it, which stands at an
offset in the text without the white space around it. -/
structure Unread where
  given : String
  offset : Nat
  rest : List Char

namespace Unread

def ofText (text : String) : Unread := ⟨text, 0, Text.trim text.toList⟩

/-- What is left after the next character, which takes one byte. -/
def past (unread : Unread) (rest : List Char) : Unread :=
  { unread with offset := unread.offset + 1, rest }

/-- The part up to the first of two marks, the mark and what is left after it. -/
def upTo? (unread : Unread) (first second : Char) : Option (String × Char × Unread) :=
  let isMark (c : Char) := c == first || c == second
  let part := unread.rest.takeWhile (!isMark ·)
  let stop := unread.offset + (String.ofList part).utf8ByteSize
  match unread.rest.drop part.length with
  | [] => none
  | mark :: rest =>
    (Text.Utf8.slice? unread.given unread.offset stop).map fun part =>
      (part, mark, { unread with offset := stop + 1, rest })

/-- The threshold that is all that is left. -/
def threshold (unread : Unread) : Except DirectiveFault Threshold :=
  match Text.Utf8.slice? unread.given unread.offset unread.given.utf8ByteSize with
  | none => .error .malformed
  | some "" => .ok (some .trace)
  | some text =>
    match Threshold.ofText? text with
    | some threshold => .ok threshold
    | none => .error .badThreshold

/-- The threshold behind a closed bracket. -/
def thresholdBehind (unread : Unread) : Except DirectiveFault Threshold :=
  match unread.rest with
  | [] => .ok (some .trace)
  | '=' :: rest => (unread.past rest).threshold
  | _ => .error .malformed

/-- The directive for a target of which the text behind an open bracket is left. -/
def bracketed (target : Option String) (unread : Unread) : Except DirectiveFault Directive :=
  match unread.upTo? '\x7b' ']' with
  | none => .error .malformed
  | some (span, ']', left) =>
    left.thresholdBehind.map fun threshold => { target, span := some span, threshold }
  | some (span, _, left) =>
    match left.upTo? '\x7d' '\x7d' with
    | none | some ("", _) => .error .malformed
    | some (text, _, left) =>
      let field := Field.ofText text
      match field.fault?, left.rest with
      | some fault, _ => .error (.badField fault)
      | none, ']' :: rest =>
        (left.past rest).thresholdBehind.map fun threshold =>
          { target, span := if span = "" then none else some span, field := some field, threshold }
      | none, _ => .error .malformed

end Unread

/-- A directive without brackets begins with a letter, a number, `-`, `:` or `_`. -/
def canBegin (c : Char) : Bool := Text.isAlphanumeric c || c == '-' || c == ':' || c == '_'

/-- A text without marks is a threshold, or else a target that is kept whole. -/
def ofWord (word : String) : Directive :=
  match Threshold.ofText? word with
  | some threshold => { threshold }
  | none => { target := some word }

def ofText (text : String) : Except DirectiveFault Directive :=
  let unread := Unread.ofText text
  match unread.rest with
  | [] => .error .malformed
  | '[' :: rest => (unread.past rest).bracketed none
  | c :: _ =>
    if !canBegin c then .error .malformed
    else match unread.upTo? '=' '[' with
      | none => .ok (ofWord text)
      | some (target, '=', left) =>
        left.threshold.map fun threshold => { target := some target, threshold }
      | some (target, _, left) => left.bracketed (some target)

end Directive

end PropertyStore.Log
