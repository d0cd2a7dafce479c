import PropertyStore.Files.Action
import PropertyStore.Log.Event

/-! What an operation has to show besides its value, in the order in which it happens:
lines for the two output streams, events for the log and changes of files. -/

namespace PropertyStore

inductive Notice where
  /-- A line of output. -/
  | line (text : String)
  /-- A line of complaint. -/
  | complaint (text : String)
  | event (event : Log.Event)
  | change (change : Files.Change)
  deriving Repr, DecidableEq

/-- A value with the notices on the way to it. -/
structure Report (α : Type) where
  value : α
  notices : List Notice := []

namespace Report

def map (report : Report α) (f : α → β) : Report β := ⟨f report.value, report.notices⟩

def bind (report : Report α) (next : α → Report β) : Report β :=
  let after := next report.value
  ⟨after.value, report.notices ++ after.notices⟩

/-- Goes on with the value of a report that has one; a fault ends it. -/
def andThen (report : Report (Except ε α)) (next : α → Report (Except ε β)) :
    Report (Except ε β) :=
  match report.value with
  | .error fault => ⟨.error fault, report.notices⟩
  | .ok value => report.bind fun _ => next value

def changes (report : Report α) : List Files.Change :=
  report.notices.filterMap fun
    | .change change => some change
    | _ => none

def output (report : Report α) : List String :=
  report.notices.filterMap fun
    | .line text => some text
    | _ => none

def complaints (report : Report α) : List String :=
  report.notices.filterMap fun
    | .complaint text => some text
    | _ => none

end Report

end PropertyStore
