import PropertyStore.Number

namespace PropertyStore.Log

inductive Severity where
  | error
  | warn
  | info
  | debug
  | trace
  deriving Repr, DecidableEq

/-- The place of a severity among all, the gravest first. -/
def Severity.rank : Severity → Nat
  | .error => 1
  | .warn => 2
  | .info => 3
  | .debug => 4
  | .trace => 5

def Severity.name : Severity → String
  | .error => "ERROR"
  | .warn => "WARN"
  | .info => "INFO"
  | .debug => "DEBUG"
  | .trace => "TRACE"

/-- The least grave severity that is kept; `none` keeps nothing. -/
abbrev Threshold := Option Severity

namespace Threshold

def admits (threshold : Threshold) (severity : Severity) : Bool :=
  match threshold with
  | none => false
  | some least => severity.rank ≤ least.rank

def name : Threshold → String
  | none => "OFF"
  | some severity => severity.name

/-- The place of a threshold among all, the one that keeps nothing first. -/
def rank (threshold : Threshold) : Nat := (threshold.map Severity.rank).getD 0

def all : List Threshold :=
  [none, some .error, some .warn, some .info, some .debug, some .trace]

/-- The rank that decimal digits spell, after a plus sign or none. -/
def rankOf? (text : String) : Option Nat :=
  let digits := match text.toList with
    | '+' :: digits => digits
    | digits => digits
  if digits.isEmpty then none
  else (Number.magnitude (rank (some .trace)) .tooLarge 0 digits).toOption

/-- The threshold that a text gives, by its name in any case or by its rank. -/
def ofText? (text : String) : Option Threshold :=
  match rankOf? text with
  | some rank => all.find? (·.rank = rank)
  | none => all.find? (·.name = text.toUpper)

end Threshold

end PropertyStore.Log
