import PropertyStore.Log.Event

/-! Log records as lines: as text, in which characters that would steer a terminal are shown
instead of sent, or as an object on one line. Of what stands before the message only the time, the
severity and the target are here. The file and the line of the code that a record comes from are left
out, and so are the name of the thread and the colours of the terminal in text for the console. -/

namespace PropertyStore.Log

/-- A record without the name of the file and the number of the line that it comes from. -/
structure Record where
  severity : Severity
  target : String
  message : String
  deriving Repr, DecidableEq

/-- The record of an event; `clock` is the time of an audit object. -/
def Event.record (clock : String) (event : Event) : Record :=
  ⟨event.severity, event.target, event.message clock⟩

/-- Shows a character that would steer a terminal; line ends and tabs stay. -/
def showSteering (c : Char) : List Char :=
  match c with
  | '\x1b' => "\\x1b".toList
  | '\x07' => "\\x07".toList
  | '\x08' => "\\x08".toList
  | '\x0c' => "\\x0c".toList
  | '\x7f' => "\\x7f".toList
  | c =>
    if 0x80 ≤ c.toNat && c.toNat < 0xA0 then
      ['\\', 'u', '\x7b'] ++ Nat.toDigits 16 c.toNat ++ ['\x7d']
    else [c]

namespace Record

/-- The record as text. The file and the line in the code, which stand between target and message, are
left out, and so are the name of the thread and the colours for a terminal. -/
def textLine (record : Record) (clock : String) : String :=
  let padding := String.ofList (List.replicate (5 - record.severity.name.length) ' ')
  let message := String.ofList (record.message.toList.flatMap showSteering)
  s!"{clock} {padding}{record.severity.name} {record.target}: {message}\n"

/-- The record as an object, without the fields for the file and the line in the code. -/
def objectLine (record : Record) (clock : String) : String :=
  Json.compact (.object [
    ("timestamp", .text clock),
    ("level", .text record.severity.name),
    ("fields", .object [("message", .text record.message)]),
    ("target", .text record.target)]) ++ "\n"

/-- The line or lines that are written for a record at a time. -/
def line (record : Record) (asObject : Bool) (clock : String) : String :=
  if asObject then record.objectLine clock else record.textLine clock

end Record

end PropertyStore.Log
