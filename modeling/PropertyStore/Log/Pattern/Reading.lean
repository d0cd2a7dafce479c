import PropertyStore.Log.Pattern.CharSet
import PropertyStore.Log.Pattern.Group

/-! Whether a pattern for the value of a field can be used. A log has no spans, whose values
alone are matched, so that nothing but this is asked of a pattern. -/

namespace PropertyStore.Log.Pattern

inductive Fault where
  | malformed
  /-- A border between words of all scripts. -/
  | unicodeBorder
  deriving Repr, DecidableEq

def Fault.message : Fault → String
  | .malformed => "error building NFA"
  | .unicodeBorder =>
    "unsupported regex feature for DFAs: cannot build DFAs for regexes with Unicode word " ++
      "boundaries; switch to ASCII word boundaries, or heuristically enable Unicode word " ++
      "boundaries or use a different regex engine"

structure Reading where
  mode : Mode := {}
  /-- The parts of the innermost open group. -/
  parts : Parts := {}
  /-- How deep the part in front is, if there is one that can be repeated. -/
  last : Option Nat := none
  /-- The groups around that one, and the mode that holds again behind it, from inside. -/
  around : List (Mode × Parts) := []
  /-- The names of groups so far. -/
  names : List String := []
  /-- Whether there was a border between words of all scripts. -/
  unicodeBorder : Bool := false
  deriving Repr, DecidableEq

namespace Reading

/-- One more part of some depth, which can be repeated. -/
def add (reading : Reading) (depth : Nat) : Reading :=
  { reading with parts := reading.parts.add depth, last := some depth }

/-- One more part that is not nested, if it can be used. -/
def addIf (reading : Reading) (usable : Bool) : Option Reading :=
  if usable then some (reading.add 0) else none

def repeated? (reading : Reading) : Option Reading :=
  reading.last.map fun depth =>
    { reading with
      parts := { reading.parts with depth := max reading.parts.depth (depth + 1) }
      last := some (depth + 1) }

/-- One more part, given by a backslash. -/
def escaped? (reading : Reading) : Escape → Option Reading
  | .literal c isByte => reading.addIf (reading.mode.admits c isByte)
  | .kind negated => reading.addIf (reading.mode.admitsKind negated)
  | .anchor => some (reading.add 0)
  | .border =>
    some { reading.add 0 with
      unicodeBorder := reading.unicodeBorder || reading.mode.unicode }

/-- A group is opened, or the mode changes. No two groups have the same name. -/
def opened? (reading : Reading) : Opening → Option Reading
  | .change mode => some { reading with mode, parts := reading.parts.add 0, last := none }
  | .group mode name =>
    if name.any reading.names.contains then none
    else some { reading with
      mode
      parts := {}
      last := none
      around := (reading.mode, reading.parts) :: reading.around
      names := name.toList ++ reading.names }

def closed? (reading : Reading) : Option Reading :=
  match reading.around with
  | [] => none
  | (mode, parts) :: around =>
    some ({ reading with mode, parts, around }.add (reading.parts.total + 1))

/-- Goes on from a character and what stands behind it; what is left to read. -/
def step? (reading : Reading) (c : Char) (rest : List Char) :
    Option (Reading × List Char) :=
  match c with
  | '(' => do
    let (opening, rest) ← Opening.read? reading.mode rest
    return (← reading.opened? opening, rest)
  | ')' => do return (← reading.closed?, rest)
  | '|' => some ({ reading with parts := reading.parts.alternative, last := none }, rest)
  | '[' => do
    let (depth, rest) ← CharSet.read? reading.mode rest
    return (reading.add depth, rest)
  | '?' | '*' | '+' => do
    let reading ← reading.repeated?
    return (reading, if rest.head? = some '?' then rest.tail else rest)
  | '\x7b' => none
  | '\\' => do
    let (escape, rest) ← Escape.read? reading.mode rest
    return (← reading.escaped? escape, rest)
  | '.' => do return (← reading.addIf reading.mode.unicode, rest)
  | '^' | '$' => some (reading.add 0, rest)
  | c => do return (← reading.addIf (reading.mode.admits c false), rest)

/-- Reads a text to its end. Every step takes a character at least. -/
def run? (reading : Reading) : (fuel : Nat) → List Char → Option Reading
  | 0, _ => none
  | fuel + 1, text =>
    match reading.mode.skip text with
    | [] => some reading
    | c :: rest => do
      let (reading, rest) ← reading.step? c rest
      run? reading fuel rest

end Reading

/-- Why a text is no pattern that can be used, if it is none. -/
def fault? (text : List Char) : Option Fault :=
  match Reading.run? {} (text.length + 1) text with
  | none => some .malformed
  | some reading =>
    if !reading.around.isEmpty || depthLimit < reading.parts.total then some .malformed
    else if reading.unicodeBorder then some .unicodeBorder
    else none

end PropertyStore.Log.Pattern
