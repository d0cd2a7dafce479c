import PropertyStore.Files.Action

/-! Replacing a file by a new version. The new content is written to a temporary file beside
the target, which then takes the target's name; a reader of the target sees the old content
or the new. A link is resolved first, so that the file it leads to is replaced and not the
link. -/

namespace PropertyStore.Files

/-- What a temporary file's name has more than the name of its target. -/
def temporarySuffix : String := ".tmp"

structure Replacement where
  target : String
  temporary : String
  /-- The permission bits of the target, if it exists. -/
  mode : Option Nat
  content : Text.Bytes

namespace Replacement

/-- The file that a save to `path` replaces: the one that links lead to, or the path itself
if it leads nowhere. -/
def targetOf (tree : Tree) (path : String) : Except Fault String :=
  match tree.canonical path with
  | .ok resolved => .ok resolved
  | .error .notFound => .ok path
  | .error fault => .error fault

def plan (path : String) (content : Text.Bytes) (tree : Tree) : Except Fault Replacement := do
  let target ← targetOf tree path
  match Path.sibling? target temporarySuffix with
  | none => .error .noFileName
  | some temporary => return { target, temporary, mode := tree.mode? target, content }

/-- Writes the temporary file. Its permission bits are set before it holds anything. -/
def writeTemporary (replacement : Replacement) : Action Unit := do
  let place ← Action.openFile replacement.temporary true
  match replacement.mode with
  | none => pure ()
  | some mode => Action.perform (.setMode place mode)
  Action.perform (.append place replacement.content)
  Action.sync place

/-- Writes the temporary file and gives it the target's name. -/
def attempt (replacement : Replacement) : Action Unit := do
  replacement.writeTemporary
  Action.rename replacement.temporary replacement.target

/-- Makes the attempt; after a fault the temporary file is removed. -/
def carryOut (replacement : Replacement) : Action Unit :=
  Action.orUndo replacement.attempt (Action.removeFile replacement.temporary)

end Replacement

/-- Replaces the file at `path`, or makes it if there is none. -/
def Action.replaceFile (path : String) (content : Text.Bytes) : Action Unit := do
  let replacement ← Action.ask (Replacement.plan path content)
  replacement.carryOut

end PropertyStore.Files
