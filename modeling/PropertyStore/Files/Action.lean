import PropertyStore.Files.Walk

/-! Operations on files. An `Action` looks at a tree and says which changes it makes, in
order, and how it ends; the changes made before a fault stay made. -/

namespace PropertyStore.Files

/-- The changes that an operation makes to a tree and how it ends. -/
structure Deed (α : Type) where
  changes : List Change
  result : Except Fault α

/-- An operation on files. -/
def Action (α : Type) : Type := Tree → Deed α

namespace Action

def done (value : α) : Action α := fun _ => ⟨[], .ok value⟩

def fail (fault : Fault) : Action α := fun _ => ⟨[], .error fault⟩

/-- Does `first` and, unless it fails, what comes next on the tree that it leaves. -/
def andThen (first : Action α) (next : α → Action β) : Action β := fun tree =>
  let before := first tree
  match before.result with
  | .error fault => ⟨before.changes, .error fault⟩
  | .ok value =>
    let after := next value (tree.applyAll before.changes)
    ⟨before.changes ++ after.changes, after.result⟩

instance : Monad Action where
  pure := done
  bind := andThen

/-- An answer that depends on the tree and changes nothing. -/
def ask (question : Tree → Except Fault α) : Action α := fun tree => ⟨[], question tree⟩

def perform (change : Change) : Action Unit := fun _ => ⟨[change], .ok ()⟩

/-- Does `action`; if it fails, `undo` follows, whose own end does not matter. -/
def orUndo (action : Action α) (undo : Action Unit) : Action α := fun tree =>
  let before := action tree
  match before.result with
  | .ok _ => before
  | .error fault =>
    ⟨before.changes ++ (undo (tree.applyAll before.changes)).changes, .error fault⟩

/-- Opens the file or device that a path leads to, links followed, and makes an empty file if
the name is free. What a file held is gone if it is opened `anew`. -/
def openFile (path : String) (anew : Bool) : Action Place := do
  match ← ask (·.locate .create path) with
  | .free place =>
    perform (.create place)
    return place
  | .existing place =>
    if ← ask fun tree => .ok (tree.isDirectory place) then fail .isDirectory
    else
      if anew then perform (.truncate place)
      return place

/-- Makes sure that what was written to a place is kept; a device keeps nothing. -/
def sync (place : Place) : Action Unit := do
  match ← ask fun tree => .ok (tree.find? place) with
  | some .device => fail .notKept
  | _ => done ()

/-- Gives the entry that `source` names the name `target`, in place of what is there. -/
def rename (source target : String) : Action Unit := do
  let (sourcePlace, _) ← ask (·.slot source)
  let (targetPlace, slashed) ← ask (·.slot target)
  match ← ask fun tree => .ok (tree.find? sourcePlace) with
  | none => fail .notFound
  | some _ =>
    if slashed then fail .notDirectory
    else if ← ask fun tree => .ok (tree.isDirectory targetPlace) then fail .isDirectory
    else if sourcePlace = targetPlace then done ()
    else perform (.move sourcePlace targetPlace)

def removeFile (path : String) : Action Unit := do
  let (place, slashed) ← ask (·.slot path)
  match ← ask fun tree => .ok (tree.find? place) with
  | none => fail .notFound
  | some (.directory _) => fail .isDirectory
  | some _ => if slashed then fail .notDirectory else perform (.remove place)

end Action

end PropertyStore.Files
