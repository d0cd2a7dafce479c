import PropertyStore.Command.Basic
import PropertyStore.Store.Request
import PropertyStore.Store.Save

/-! Changing properties and saving them. Every save that is tried leaves one audit entry,
whether it succeeds, fails or is refused. -/

namespace PropertyStore.Command

/-- What a command finds around it. -/
structure Setting where
  tree : Files.Tree
  /-- The time that a saved file bears. -/
  stamp : String
  verbose : Bool
  /-- Whether audit entries are written as objects. -/
  auditAsObjects : Bool

structure Outcome where
  store : Store
  result : Except Failure Unit

def shownPath (store : Store) : String := store.defaultPath.getD "<none>"

/-- Saves a store to its file, unless that file is there and could not be loaded. -/
def guardedSave (setting : Setting) (store : Store) : Report (Except Fault Unit) :=
  match store.loadFailure with
  | some reason => ⟨.error (.unsafeOverwrite (shownPath store) reason), []⟩
  | none => store.saveDefault setting.tree setting.stamp

def auditedSave (setting : Setting) (store : Store) (operation details : String) :
    Report (Except Fault Unit) :=
  let saving := guardedSave setting store
  let entry : Log.AuditEntry := match saving.value with
    | .ok () => ⟨operation, shownPath store, "ok", details⟩
    | .error fault => ⟨operation, shownPath store, "failed", fault.message⟩
  ⟨saving.value, saving.notices ++ [.event (.audit entry setting.auditAsObjects)]⟩

/-- Ends a command that has changed a store: saves it and, if all is well, says so to those
who asked for it. -/
def finish (setting : Setting) (store : Store) (operation details : String)
    (success : List String) : Report Outcome :=
  let saving := auditedSave setting store operation details
  match saving.value with
  | .error fault => ⟨⟨store, .error (.store fault)⟩, saving.notices⟩
  | .ok () =>
    let said := if setting.verbose then success.map Notice.line else []
    ⟨⟨store, .ok ()⟩, saving.notices ++ said⟩

/-- Sets the properties that expressions state. All expressions are checked before the first
is carried out. -/
def setAll (setting : Setting) (store : Store) (expressions : List String) : Report Outcome :=
  match expressions.find? fun expression => !expression.toList.contains '=' with
  | some bad => ⟨⟨store, .error (.store (.badExpression bad))⟩, []⟩
  | none =>
    match (InPlace.setExpressions expressions).run store with
    | (.error fault, partly) => ⟨⟨partly, .error (.store fault)⟩, []⟩
    | (.ok (), changed) =>
      finish setting changed "set" (" ".intercalate expressions)
        [s!"已设置 {expressions.length} 个属性: {shownPath changed}"]

/-- What is said of the keys that are not there when their turn to be removed comes. -/
def absenceNotices (store : Store) : List String → List Notice
  | [] => []
  | key :: rest =>
    (if store.contains key then [] else [.complaint s!"属性不存在: {key}"]) ++
      absenceNotices (store.remove key) rest

/-- Removes properties; those that are not there do no harm. -/
def removeAll (setting : Setting) (store : Store) (keys : List String) : Report Outcome :=
  let absent := if setting.verbose then absenceNotices store keys else []
  let ending := finish setting (keys.foldl Store.remove store) "remove" (" ".intercalate keys) []
  ⟨ending.value, absent ++ ending.notices⟩

def clearAll (setting : Setting) (store : Store) : Report Outcome :=
  finish setting store.clear "clear" s!"{store.size} entries"
    [s!"已清空 {store.size} 个属性: {shownPath store}"]

end PropertyStore.Command
