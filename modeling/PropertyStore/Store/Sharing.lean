import PropertyStore.Files.Progress
import PropertyStore.Moment
import PropertyStore.Store.Operation
import PropertyStore.Store.Save

/-! A store that several callers share and save to one file. An operation is one step. A save is
many: its caller waits for the lock that only one save can have, takes a snapshot of the
store, makes the changes of files one by one and gives the lock back. Between any two of these
steps others can make theirs. -/

namespace PropertyStore

inductive Stage where
  /-- No save is under way. -/
  | ready
  /-- Waits for the lock. -/
  | waiting
  /-- Has the lock and no snapshot yet. -/
  | locked
  /-- Has its snapshot, and `pending` is still to be done before the save ends with `result`. -/
  | writing (pending : List Files.Change) (result : Except Fault Unit)

def Stage.holds : Stage → Bool
  | .ready | .waiting => false
  | .locked | .writing _ _ => true

/-- What the callers share and how far each of them is. -/
structure Sharing where
  store : Store
  tree : Files.Tree
  /-- Who has the lock. -/
  holder : Option Nat := none
  stage : Nat → Stage := fun _ => .ready

inductive Event where
  | operate (caller : Nat) (operation : Operation)
  /-- Calls for a save. -/
  | call (caller : Nat)
  /-- Goes on with its save: `time` is what the clock shows, and of a write only the first `size`
  bytes are done. -/
  | proceed (caller : Nat) (time : Calendar) (size : Nat)

namespace Sharing

def enter (sharing : Sharing) (caller : Nat) (stage : Stage) : Sharing :=
  { sharing with stage := fun other => if other = caller then stage else sharing.stage other }

/-- The next step of a caller's save to `path`. A caller who has to wait stays as it is. -/
def proceed (sharing : Sharing) (path : String) (caller : Nat) (time : Calendar) (size : Nat) :
    Sharing :=
  match sharing.stage caller with
  | .ready => sharing
  | .waiting =>
    match sharing.holder with
    | none => { sharing.enter caller .locked with holder := some caller }
    | some _ => sharing
  | .locked =>
    let saving := sharing.store.saveTo sharing.tree path time.stamp
    sharing.enter caller (.writing saving.changes saving.value)
  | .writing [] _ => { sharing.enter caller .ready with holder := none }
  | .writing pending result =>
    let progress := Files.Progress.step ⟨sharing.tree, pending⟩ size
    { sharing.enter caller (.writing progress.pending result) with tree := progress.tree }

/-- What comes of an event. A caller in the middle of a save can do nothing else. -/
def step (path : String) (sharing : Sharing) : Event → Sharing
  | .operate caller operation =>
    match sharing.stage caller with
    | .ready => { sharing with store := sharing.store.perform operation }
    | _ => sharing
  | .call caller =>
    match sharing.stage caller with
    | .ready => sharing.enter caller .waiting
    | _ => sharing
  | .proceed caller time size => sharing.proceed path caller time size

def made (sharing : Sharing) : Event → List Operation
  | .operate caller operation =>
    match sharing.stage caller with
    | .ready => [operation]
    | _ => []
  | _ => []

def run (path : String) (schedule : Nat → Event) (start : Sharing) : Nat → Sharing
  | 0 => start
  | moment + 1 => (run path schedule start moment).step path (schedule moment)

def operations (path : String) (schedule : Nat → Event) (start : Sharing) : Nat → List Operation
  | 0 => []
  | moment + 1 => operations path schedule start moment ++
      (run path schedule start moment).made (schedule moment)

end Sharing

end PropertyStore
