import PropertyStore.Proofs.Command.Simulation
import PropertyStore.Program

namespace PropertyStore

variable {tree : Files.Tree} {path reason : String} {store : Store} {fault : Fault}
  {access : Access}

namespace Command

/-- Why a command that saves fails on the store of a file that could not be loaded. -/
def refusal (path reason : String) : Command → Fault
  | .set expressions =>
    match expressions.find? fun expression => !expression.toList.contains '=' with
    | some bad => .badExpression bad
    | none => .unsafeOverwrite path reason
  | _ => .unsafeOverwrite path reason

/-- A store that remembers why its file could not be loaded is not saved, whatever a command has made
of its properties. -/
theorem refused_of_reaching (setting : Setting) (failed : store.loadFailure = some reason)
    {command : Command} (reaches : command.ReachesSave) :
    let report := perform setting store command
    report.value.result = .error (.store (.unsafeOverwrite (shownPath store) reason)) ∧
      report.changes = [] := by
  have guarded : guardedSave setting
      { store with properties := effect store.properties command } =
        ⟨.error (.unsafeOverwrite (shownPath store) reason), []⟩ := by
    rw [guardedSave, failed]
    rfl
  obtain ⟨value, changes, _⟩ := perform_reaching setting store reaches
  rw [guarded] at value changes
  exact ⟨congrArg Outcome.result value, changes⟩

private theorem perform_refused (setting : Setting) (failed : store.loadFailure = some reason)
    {command : Command} (saves : command.Saves) :
    let report := perform setting store command
    report.value.result = .error (.store (refusal (shownPath store) reason command)) ∧
      report.changes = [] := by
  cases command with
  | set expressions =>
    rw [refusal]
    cases found : expressions.find? fun expression => !expression.toList.contains '=' with
    | some bad =>
      rw [perform_set_bad setting store found]
      exact ⟨rfl, rfl⟩
    | none =>
      have reaches : (Command.set expressions).ReachesSave := by
        simpa [ReachesSave] using found
      exact refused_of_reaching setting failed reaches
  | remove keys => exact refused_of_reaching setting failed trivial
  | clear => exact refused_of_reaching setting failed trivial
  | _ => exact saves.elim

end Command

namespace Usage.Invocation

/-- The file that an invocation is about: the one it names, or else the default one. -/
def IsAbout (invocation : Invocation) (home : Option String) (path : String) : Prop :=
  invocation.file = some path ∨
    invocation.file = none ∧ home.map Program.defaultPath = some path

/-- The store that an invocation's command is carried out on: that of the file it names, which must
load if it is there, or else the one that all share. -/
def opening (invocation : Invocation) (home : Option String) (tree : Files.Tree) (access : Access) :
    Report (Except Fault Store) :=
  match invocation.file with
  | none => (Program.sharedStore home tree access).map .ok
  | some path => Store.openStrict tree path access

theorem opening_of_named {invocation : Invocation} (named : invocation.file = some path)
    (home : Option String) (tree : Files.Tree) (access : Access) :
    invocation.opening home tree access = Store.openStrict tree path access := by
  rw [opening, named]

theorem opening_of_unnamed {invocation : Invocation} {home : Option String}
    (unnamed : invocation.file = none) (homely : home.map Program.defaultPath = some path)
    (tree : Files.Tree) (access : Access) :
    invocation.opening home tree access = (Store.openLenient tree path access).map .ok := by
  rw [opening, unnamed, Program.sharedStore, homely]
  rfl

theorem told_opening (invocation : Invocation) (home : Option String) (tree : Files.Tree)
    (access : Access) : Told Log.Event.OfLoading (invocation.opening home tree access).notices := by
  rw [opening]
  split
  · exact Store.told_loadDefaultOrKeep _ tree access
  · exact Store.told_openStrict tree _ access

theorem defaultPath_opening (invocation : Invocation) (home : Option String)
    (opened : (invocation.opening home tree access).value = .ok store) (path : String) :
    store.defaultPath = some path ↔ invocation.IsAbout home path := by
  rw [opening] at opened
  rw [IsAbout]
  cases named : invocation.file with
  | none =>
    simp only [named, Report.map, Except.ok.injEq] at opened
    rw [← opened, Program.sharedStore, Store.defaultPath_loadDefaultOrKeep]
    simp
  | some file =>
    rw [named] at opened
    rw [Store.defaultPath_openStrict store opened]
    simp

/-- Why an invocation that would save fails if its file could not be loaded: a file that it names
must load, and the default one is not written over. -/
def refusal (invocation : Invocation) (path : String) (fault : Fault) : Fault :=
  if invocation.file.isSome then fault else invocation.command.refusal path fault.message

private theorem refusal_ne_writeFailed (invocation : Invocation) (path : String)
    (cause : Files.Fault) :
    invocation.refusal path (.unreadable path) ≠ .writeFailed path cause := by
  rw [refusal]
  split
  · rintro ⟨⟩
  · cases invocation.command with
    | set expressions =>
      rw [Command.refusal]
      split <;> rintro ⟨⟩
    | _ => rintro ⟨⟩

end Usage.Invocation

/-- An invocation is carried out by opening its store and performing its command on it. -/
theorem Command.carryOut_opened {invocation : Usage.Invocation} {home : Option String}
    (opened : (invocation.opening home tree access).value = .ok store) (stamp : String) :
    carryOut invocation tree stamp (Program.sharedStore home tree access) access =
      let performed := perform (Setting.ofInvocation invocation tree stamp) store invocation.command
      ⟨performed.value.result,
        (invocation.opening home tree access).notices ++ performed.notices⟩ := by
  rw [Usage.Invocation.opening] at opened ⊢
  rw [carryOut]
  cases named : invocation.file with
  | none =>
    rw [named] at opened
    cases opened
    rfl
  | some path =>
    rw [named] at opened
    dsimp only at opened ⊢
    rw [opened]
    rfl

/-- Opening the store changes no files. -/
theorem Command.changes_carryOut {invocation : Usage.Invocation} {home : Option String}
    (opened : (invocation.opening home tree access).value = .ok store) (stamp : String) :
    (carryOut invocation tree stamp (Program.sharedStore home tree access) access).changes =
      (perform (Setting.ofInvocation invocation tree stamp) store invocation.command).changes := by
  have quiet := (invocation.told_opening home tree access).quiet
  rw [carryOut_opened opened stamp, Report.changes_eq, changesOf_append, quiet.changesOf_eq]
  rfl

theorem Command.carryOut_unopened {invocation : Usage.Invocation} {home : Option String}
    (failed : (invocation.opening home tree access).value = .error fault) (stamp : String) :
    carryOut invocation tree stamp (Program.sharedStore home tree access) access =
      ⟨.error (.store fault), (invocation.opening home tree access).notices⟩ := by
  rw [Usage.Invocation.opening] at failed ⊢
  rw [carryOut]
  cases named : invocation.file with
  | none =>
    rw [named] at failed
    cases failed
  | some path =>
    rw [named] at failed
    dsimp only at failed ⊢
    rw [failed]

/-- A path leads to something, links followed, but that cannot be loaded. The path may be one that
is too long to be looked at, so that what it leads to is not found. -/
structure Unloadable (tree : Files.Tree) (path : String) (access : Access) (fault : Fault) : Prop where
  there : ∃ goal, tree.resolve .find path = .ok (.existing goal)
  failed : (Document.ofFile tree path access).value = .error fault

namespace Unloadable

theorem full (unloadable : Unloadable tree path access fault) : path ≠ "" := by
  obtain ⟨goal, resolved⟩ := unloadable.there
  exact ((tree.resolve_eq_existing_iff path).mp resolved).2.1

theorem clean (unloadable : Unloadable tree path access fault) : '\x00' ∉ path.toList := by
  obtain ⟨goal, resolved⟩ := unloadable.there
  exact ((tree.resolve_eq_existing_iff path).mp resolved).1

theorem located (unloadable : Unloadable tree path access fault)
    (short : path.utf8ByteSize < Files.pathLimit) :
    tree.locate .find path = tree.resolve .find path :=
  Files.Tree.locate_of_usable ⟨unloadable.clean, short⟩

theorem leadsSomewhere (unloadable : Unloadable tree path access fault)
    (wellFormed : tree.WellFormed) (short : path.utf8ByteSize < Files.pathLimit) :
    tree.leadsSomewhere path := by
  obtain ⟨goal, resolved⟩ := unloadable.there
  obtain ⟨entry, found, _⟩ := wellFormed.solid_of_resolve resolved
  exact leadsSomewhere_of_locate ((unloadable.located short).trans resolved) found

/-- What too long a path leads to is not found, and cannot be read. -/
theorem nowhere (unloadable : Unloadable tree path access fault)
    (long : Files.pathLimit ≤ path.utf8ByteSize) :
    tree.leadsSomewhere path = false ∧ fault = .unreadable path := by
  constructor
  · simp [Files.Tree.leadsSomewhere, Files.Tree.lookup, Files.Tree.locate, long, unloadable.clean,
      bind, Except.bind, Except.isOk, Except.toBool]
  · have failed := unloadable.failed
    rw [Document.ofFile, if_neg unloadable.full, Store.content_of_long tree long] at failed
    cases failed
    rfl

end Unloadable

/-- A command that would save fails and changes no file if its file is found but cannot be loaded. -/
theorem Command.carryOut_refused {invocation : Usage.Invocation} {home : Option String}
    (about : invocation.IsAbout home path) (saves : invocation.command.Saves)
    (there : tree.leadsSomewhere path)
    (unloadable : (Document.ofFile tree path access).value = .error fault) (stamp : String) :
    let report := carryOut invocation tree stamp (Program.sharedStore home tree access) access
    report.value = .error (.store (invocation.refusal path fault)) ∧ report.changes = [] := by
  intro report
  rcases about with named | ⟨unnamed, homely⟩
  · have failed : (invocation.opening home tree access).value = .error fault := by
      rw [Usage.Invocation.opening_of_named named]
      exact Store.openStrict_of_unloadable there unloadable
    have quiet := (invocation.told_opening home tree access).quiet
    rw [show report = _ from carryOut_unopened failed stamp, Usage.Invocation.refusal, named]
    exact ⟨rfl, quiet.changesOf_eq⟩
  · have opened : (invocation.opening home tree access).value =
        .ok { Store.ofPath path with loadFailure := some fault.message } := by
      rw [Usage.Invocation.opening_of_unnamed unnamed homely]
      exact congrArg Except.ok (Store.openLenient_of_unloadable there unloadable)
    obtain ⟨value, changes⟩ := perform_refused (Setting.ofInvocation invocation tree stamp)
      (show { Store.ofPath path with loadFailure := some fault.message }.loadFailure = _ from rfl)
      saves
    refine ⟨?_, (changes_carryOut opened stamp).trans changes⟩
    rw [show report = _ from carryOut_opened opened stamp, Usage.Invocation.refusal, unnamed]
    exact value

theorem Usage.Invocation.opening_of_nowhere {invocation : Usage.Invocation} {home : Option String}
    (about : invocation.IsAbout home path) (nowhere : tree.leadsSomewhere path = false)
    (unloadable : (Document.ofFile tree path access).value = .error fault) :
    (invocation.opening home tree access).value = .ok (.ofPath path) := by
  rcases about with named | ⟨unnamed, homely⟩
  · rw [opening_of_named named]
    exact Store.openStrict_of_nowhere nowhere
  · rw [opening_of_unnamed unnamed homely, Report.map, Store.openLenient_eq, unloadable]
    simp only [nowhere]
    rfl

/-- If the file is not found, a command that gets as far as saving saves what it makes of an empty
store. -/
theorem Command.carryOut_of_nowhere {invocation : Usage.Invocation} {home : Option String}
    (about : invocation.IsAbout home path) (reaches : invocation.command.ReachesSave)
    (nowhere : tree.leadsSomewhere path = false)
    (unloadable : (Document.ofFile tree path access).value = .error fault) (stamp : String) :
    let report := carryOut invocation tree stamp (Program.sharedStore home tree access) access
    let made := Store.holding path (effect ∅ invocation.command)
    report.value = (made.saveTo tree path stamp).value.mapError Failure.store ∧
      report.changes = (made.saveTo tree path stamp).changes := by
  intro report made
  have opened := Usage.Invocation.opening_of_nowhere about nowhere unloadable
  obtain ⟨value, changes, _⟩ := perform_reaching (Setting.ofInvocation invocation tree stamp)
    (Store.ofPath path) reaches
  refine ⟨?_, (changes_carryOut opened stamp).trans changes⟩
  rw [show report = _ from carryOut_opened opened stamp]
  exact congrArg Outcome.result value

/-- A command that gets as far as saving is refused if and only if the path of its file, which cannot
be loaded, is not too long for the file to be found. -/
theorem Command.carryOut_refused_iff {invocation : Usage.Invocation} {home : Option String}
    (wellFormed : tree.WellFormed) (about : invocation.IsAbout home path)
    (reaches : invocation.command.ReachesSave)
    (unloadable : Unloadable tree path access fault) (stamp : String) :
    let report := carryOut invocation tree stamp (Program.sharedStore home tree access) access
    (report.value = .error (.store (invocation.refusal path fault)) ∧ report.changes = []) ↔
      path.utf8ByteSize < Files.pathLimit := by
  intro report
  constructor
  · rintro ⟨refused, _⟩
    by_contra long
    obtain ⟨nowhere, unread⟩ := unloadable.nowhere (Nat.not_lt.mp long)
    have saving := carryOut_of_nowhere about reaches nowhere unloadable.failed stamp
    rw [show report.value = _ from saving.1, unread, (Store.saveTo_eq _ tree unloadable.full stamp).1]
      at refused
    -- Whatever the save comes to, it is not that.
    cases done : (Files.Action.replaceFile path _ tree).result with
    | ok _ =>
      rw [done] at refused
      cases refused
    | error cause =>
      rw [done] at refused
      have same := Failure.store.inj (Except.error.inj refused)
      exact invocation.refusal_ne_writeFailed path cause same.symm
  · exact fun short =>
      carryOut_refused about reaches.saves (unloadable.leadsSomewhere wellFormed short)
        unloadable.failed stamp

end PropertyStore
