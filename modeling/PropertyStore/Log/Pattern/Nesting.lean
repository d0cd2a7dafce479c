/-! How deep the parts of a pattern are nested. A single character, a border or a change of
mode is not nested at all; what repeats, groups or brackets something is one level deeper
than that, and so is a row of two or more parts. -/

namespace PropertyStore.Log.Pattern

def depthLimit : Nat := 250

/-- What has been read of a group or of a set: the parts since the last divider, and how
deep the deepest of them is. -/
structure Parts where
  /-- How deep what stands before the last divider is, if there is a divider. -/
  before : Option Nat := none
  count : Nat := 0
  depth : Nat := 0
  deriving Repr, DecidableEq

namespace Parts

/-- One more part of some depth. -/
def add (parts : Parts) (depth : Nat) : Parts :=
  { parts with count := parts.count + 1, depth := max parts.depth depth }

/-- How deep the row since the last divider is. -/
def row (parts : Parts) : Nat :=
  if parts.count ≤ 1 then parts.depth else parts.depth + 1

/-- How deep all of it is. -/
def total (parts : Parts) : Nat :=
  match parts.before with
  | none => parts.row
  | some before => max before parts.row + 1

/-- Goes on to the next of several alternatives, which lie side by side. -/
def alternative (parts : Parts) : Parts :=
  { before := some (max (parts.before.getD 0) parts.row) }

/-- Goes on behind an operator, whose left side is all that stands before it. -/
def operator (parts : Parts) : Parts := { before := some parts.total }

end Parts

end PropertyStore.Log.Pattern
