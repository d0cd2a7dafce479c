import Std.Data.ExtTreeMap
import PropertyStore.Text.Utf8

/-! A file tree: what stands at each place below the root, as directories, files with
permission bits, symbolic links and devices. Trees change only by a `Change`, so what an
operation does to one is the list of its changes. -/

namespace PropertyStore.Files

/-- A place: the names on the way to it from the root. -/
abbrev Place := List String

inductive Entry where
  | directory (mode : Nat)
  | file (content : Text.Bytes) (mode : Nat)
  | link (target : String)
  /-- Something that is neither file nor directory and takes whatever is written to it. -/
  | device
  deriving Repr, DecidableEq

/-- The permission bits that new files get: all may read, the owner may write. -/
def newFileMode : Nat := 0o644

def newDirectoryMode : Nat := 0o755

/-- The entries below the root and the place at which relative paths begin. -/
structure Tree where
  entries : Std.ExtTreeMap Place Entry := ∅
  workingDirectory : Place := []

/-- One step of change at resolved places. -/
inductive Change where
  | create (place : Place)
  | truncate (place : Place)
  | setMode (place : Place) (mode : Nat)
  | append (place : Place) (bytes : Text.Bytes)
  | move (source target : Place)
  | remove (place : Place)
  deriving Repr, DecidableEq

namespace Entry

/-- A file without its content; anything else as it is. -/
def truncated : Entry → Entry
  | .file _ mode => .file [] mode
  | other => other

def extended (bytes : Text.Bytes) : Entry → Entry
  | .file content mode => .file (content ++ bytes) mode
  | other => other

def withMode (mode : Nat) : Entry → Entry
  | .directory _ => .directory mode
  | .file content _ => .file content mode
  | other => other

/-- The permission bits of what is no link. -/
def mode? : Entry → Option Nat
  | .directory mode | .file _ mode => some mode
  | .device => some 0o666
  | .link _ => none

end Entry

namespace Tree

/-- What stands at a place. The root is always a directory. -/
def find? (tree : Tree) (place : Place) : Option Entry :=
  if place = [] then some (.directory newDirectoryMode) else tree.entries[place]?

def put (tree : Tree) (place : Place) (entry : Entry) : Tree :=
  { tree with entries := tree.entries.insert place entry }

def erase (tree : Tree) (place : Place) : Tree :=
  { tree with entries := tree.entries.erase place }

/-- Replaces what stands at a place, if anything does. -/
def revise (tree : Tree) (place : Place) (change : Entry → Entry) : Tree :=
  match tree.find? place with
  | none => tree
  | some entry => tree.put place (change entry)

@[simp] theorem find?_put (tree : Tree) (place other : Place) (entry : Entry)
    (below : place ≠ []) :
    (tree.put place entry).find? other =
      if place = other then some entry else tree.find? other := by
  by_cases root : other = []
  · simp [find?, root, below]
  · simp [find?, put, root, Std.ExtTreeMap.getElem?_insert]

@[simp] theorem find?_erase (tree : Tree) (place other : Place) (below : place ≠ []) :
    (tree.erase place).find? other = if place = other then none else tree.find? other := by
  by_cases root : other = []
  · simp [find?, root, below]
  · simp [find?, erase, root, Std.ExtTreeMap.getElem?_erase]

def apply (tree : Tree) : Change → Tree
  | .create place => tree.put place (.file [] newFileMode)
  | .truncate place => tree.revise place Entry.truncated
  | .setMode place mode => tree.revise place (Entry.withMode mode)
  | .append place bytes => tree.revise place (Entry.extended bytes)
  | .move source target =>
    match tree.find? source with
    | none => tree
    | some entry => (tree.erase source).put target entry
  | .remove place => tree.erase place

def applyAll (tree : Tree) (changes : List Change) : Tree := changes.foldl apply tree

/-- The part of a place below the working directory. -/
def below? (tree : Tree) (place : Place) : Option Place :=
  if tree.workingDirectory.isPrefixOf place && tree.workingDirectory != place then
    some (place.drop tree.workingDirectory.length)
  else none

/-- Everything below the working directory by relative path, in code point order. -/
def listing (tree : Tree) : List (String × Entry) :=
  let below := tree.entries.toList.filterMap fun (place, entry) =>
    (tree.below? place).map fun names => ("/".intercalate names, entry)
  below.mergeSort fun left right => left.1 ≤ right.1

end Tree

end PropertyStore.Files
