import PropertyStore.Proofs.Command.Refusal
import PropertyStore.Proofs.Program

/-! What a path leads to but cannot be loaded is safe from every run of the program, if the path is
not so long that it is not even found. -/

namespace PropertyStore

variable {tree after : Files.Tree} {path : String} {fault : Fault} {access : Access}
  {invocation : Usage.Invocation} {home : Option String}

/-- The same is there in a tree that differs from this one by its log's file. -/
theorem Unloadable.found (unloadable : Unloadable tree path access fault)
    (wellFormed : tree.WellFormed) (short : path.utf8ByteSize < Files.pathLimit) {config : Log.Config}
    (alike : Files.AlikeBut (config.places tree) tree after)
    (separate : ∀ place ∈ config.places tree, tree.resolve .find path ≠ .ok (.existing place)) :
    after.leadsSomewhere path ∧ (Document.ofFile after path access).value = .error fault := by
  obtain ⟨goal, resolved⟩ := unloadable.there
  have apart : goal ∉ config.places tree := fun listed => separate goal listed resolved
  have located := (unloadable.located short).trans resolved
  have same := alike.lookup
    (fun place listed => (config.solid_places tree place listed).2 wellFormed) located apart
  have content : after.content? path = tree.content? path := by
    rw [Files.Tree.content?, same]
    rfl
  constructor
  · rw [Files.Tree.leadsSomewhere, same]
    exact unloadable.leadsSomewhere wellFormed short
  · rw [Document.ofFile, content]
    exact unloadable.failed

theorem Session.Confined.closing {session : Session} {places : List Files.Place}
    {report : Report (Except Failure Unit)} (confined : Confined tree places session)
    (unchanging : report.changes = []) (instant : String) :
    Confined tree places
      (session.presentAll instant (report.notices ++ Program.closingNotices report.value)) := by
  exact confined.presentAll instant
    (within_of_unchanging ((Program.changesOf_closing report).trans unchanging))

/-- The last words of a run that fails with a fault of the store, or whose log could not be set up. -/
def Program.lastWords (fault : Fault) : Except Log.SetupFault Unit → String
  | .ok () => s!"错误: {(Failure.store fault).message}"
  | .error cause => setupComplaint cause

/-- A run whose command would save fails if what its path leads to cannot be loaded, and leaves
all files as they were but that of its log, if its log goes to another file and the path is not too
long. Its last words name the fault of loading if the file was named and so had to load; if it is the
default one, they refuse to write over it, unless an expression was bad. If the path is too long, a
command that gets as far as saving is not refused. -/
theorem Program.run_refused (wellFormed : tree.WellFormed) (about : invocation.IsAbout home path)
    (saves : invocation.command.Saves) (unloadable : Unloadable tree path access fault)
    (separate : ∀ place ∈ invocation.logConfig.places tree,
      tree.resolve .find path ≠ .ok (.existing place))
    (directives : String) (moment : Moment) :
    (path.utf8ByteSize < Files.pathLimit →
      let ending := run invocation home directives moment tree access
      let settingUp := (Session.setUpLog { tree } moment.instant invocation.logConfig directives).2
      ending.exitCode = 1 ∧
        (∃ before, ending.session.complaints =
          before ++ lastWords (invocation.refusal path fault) settingUp ++ "\n") ∧
        ending.session.tree.workingDirectory = tree.workingDirectory ∧
        ∀ place, place ∉ invocation.logConfig.places tree →
          ending.session.tree.find? place = tree.find? place) ∧
      (invocation.command.ReachesSave →
        let report :=
          Command.carryOut invocation tree moment.stamp (sharedStore home tree access) access
        (report.value = .error (.store (invocation.refusal path fault)) ∧ report.changes = []) ↔
          path.utf8ByteSize < Files.pathLimit) := by
  refine ⟨fun short => ?_, fun reaches =>
    Command.carryOut_refused_iff wellFormed about reaches unloadable moment.stamp⟩
  intro ending settingUp
  have prepared :=
    Session.confined_setUpLog tree moment.instant invocation.logConfig directives
  cases done : Session.setUpLog { tree } moment.instant invocation.logConfig directives with
  | mk session result =>
    simp only [settingUp, done] at prepared ⊢
    cases result with
    | error cause =>
      have confined := prepared.present moment.instant
        (Session.within_complaint (setupComplaint cause))
      have whole : ending = _ := run_unready done home access
      rw [whole]
      exact ⟨rfl, ⟨session.complaints, rfl⟩, confined.alike.start, confined.alike.same⟩
    | ok _ =>
      have whole : ending = _ := run_eq done
      have begun := prepared.present moment.instant
        (Session.within_event (.started Command.programVersion))
      obtain ⟨there, failed⟩ := unloadable.found wellFormed short begun.alike separate
      obtain ⟨value, unchanging⟩ :=
        Command.carryOut_refused about saves there failed moment.stamp
      have confined := begun.closing unchanging moment.instant
      rw [value] at whole confined
      rw [whole]
      refine ⟨rfl, ?_, confined.alike.start, confined.alike.same⟩
      rw [Session.presentAll_append]
      exact ⟨_, rfl⟩

/-- A default file with a malformed escape. -/
def brokenTree : Files.Tree :=
  ({} : Files.Tree).put ([] ++ [".propstore"]) (.file (Text.Utf8.encode "a=1\nb=\\u00") 0o600)

private theorem brokenTree_wellFormed : brokenTree.WellFormed :=
  Files.Tree.wellFormed_empty.put (by decide +kernel) (isName_of ".propstore" (by decide))
    (by decide +kernel) _

/-- The default file stays as it is while a log file is made beside it. -/
theorem Program.run_refused_default :
    let invocation : Usage.Invocation := ⟨none, .warn, some "log", .text, false, .set ["k=v"]⟩
    let moment : Moment := ⟨"now", "now"⟩
    let fault : Fault := .malformed ⟨2, ⟨['0', '0']⟩⟩
    let ending := run invocation (some "/") "" moment brokenTree
    brokenTree.WellFormed ∧ invocation.IsAbout (some "/") "/.propstore" ∧
      invocation.command.Saves ∧ Unloadable brokenTree "/.propstore" .granted fault ∧
      (∀ place ∈ invocation.logConfig.places brokenTree,
        brokenTree.resolve .find "/.propstore" ≠ .ok (.existing place)) ∧
      ending.exitCode = 1 ∧
      ending.session.tree.find? [".propstore"] = brokenTree.find? [".propstore"] := by
  intro invocation moment fault ending
  have about : invocation.IsAbout (some "/") "/.propstore" := .inr ⟨rfl, by decide +kernel⟩
  have unloadable : Unloadable brokenTree "/.propstore" .granted fault :=
    ⟨⟨[".propstore"], by decide +kernel⟩, by decide +kernel⟩
  have places : invocation.logConfig.places brokenTree = [["log"]] := by
    decide +kernel
  have separate : ∀ place ∈ invocation.logConfig.places brokenTree,
      brokenTree.resolve .find "/.propstore" ≠ .ok (.existing place) := by
    rw [places]
    decide +kernel
  have refused := run_refused brokenTree_wellFormed about trivial unloadable separate "" moment
  obtain ⟨exitCode, _, _, kept⟩ := refused.1 (by decide)
  have apart : [".propstore"] ∉ invocation.logConfig.places brokenTree := by
    rw [places]
    decide
  exact ⟨brokenTree_wellFormed, about, trivial, unloadable, separate, exitCode, kept _ apart⟩

/-- A path can lead to a file and be too long for it to be found. What a command makes of an empty
store is then saved there. -/
theorem Program.run_overwrites (resolved : Store.plainTree.resolve .find path = .ok (.existing ["f"]))
    (long : Files.pathLimit ≤ path.utf8ByteSize) :
    let invocation : Usage.Invocation := ⟨some path, .warn, none, .text, false, .set ["k=v"]⟩
    let ending := run invocation none "" ⟨Store.epoch.stamp, "now"⟩ Store.plainTree
    invocation.IsAbout none path ∧ invocation.command.Saves ∧
      Unloadable Store.plainTree path .granted (.unreadable path) ∧ ending.exitCode = 0 ∧
      ∃ mode, ending.session.tree.find? ["f"] =
        some (.file (Store.oneProperty.fileContent Store.epoch.stamp) mode) := by
  intro invocation ending
  obtain ⟨unlinked, saved⟩ := Store.saveTo_plainTree resolved
  have unloadable : Unloadable Store.plainTree path .granted (.unreadable path) := by
    have full := ((Files.Tree.resolve_eq_existing_iff _ path).mp resolved).2.1
    refine ⟨⟨["f"], resolved⟩, ?_⟩
    rw [Document.ofFile, if_neg full, Store.content_of_long _ long]
  have reaches : invocation.command.ReachesSave := by
    simp [invocation, Command.ReachesSave]
  have made : Command.effect ∅ invocation.command = Store.oneProperty.properties :=
    Command.effect_set ∅ "k" "v" (by decide)
  obtain ⟨value, changes⟩ := Command.carryOut_of_nowhere (.inl rfl) reaches
    (unloadable.nowhere long).1 unloadable.failed Store.epoch.stamp
  rw [made, Store.oneProperty.saveTo_holding] at value changes
  obtain ⟨exitCode, files, _⟩ := run_onConsole invocation none "" ⟨Store.epoch.stamp, "now"⟩
    Store.plainTree rfl
  have stands := (Store.oneProperty.saveTo_stands_iff Store.plainTree_wellFormed path
    Store.epoch.stamp).mpr ⟨saved, unlinked⟩
  obtain ⟨goal, mode, aimed, _, found⟩ := stands.goal
  cases aimed.unique (.inl resolved)
  refine ⟨.inl rfl, trivial, unloadable, ?_, mode, ?_⟩
  · rw [exitCode, value, saved]
    rfl
  · rw [files, changes]
    exact found

/-- An empty file is written over by a run that could not read it. -/
theorem Program.run_overwrites_dotted :
    let path := Files.Path.dotted 2048 "f"
    let invocation : Usage.Invocation := ⟨some path, .warn, none, .text, false, .set ["k=v"]⟩
    let ending := run invocation none "" ⟨Store.epoch.stamp, "now"⟩ Store.plainTree
    Store.plainTree.WellFormed ∧ Store.plainTree.find? ["f"] = some (.file [] 0o644) ∧
      invocation.IsAbout none path ∧ invocation.command.Saves ∧
      Unloadable Store.plainTree path .granted (.unreadable path) ∧ ending.exitCode = 0 ∧
      ∃ mode, ending.session.tree.find? ["f"] =
        some (.file (Store.oneProperty.fileContent Store.epoch.stamp) mode) :=
  ⟨Store.plainTree_wellFormed, by decide, run_overwrites (Store.resolve_dotted 2048) Store.long_dotted⟩

end PropertyStore
