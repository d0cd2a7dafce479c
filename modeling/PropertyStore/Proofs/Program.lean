import PropertyStore.Proofs.Command.Simulation
import PropertyStore.Proofs.LogFile

namespace PropertyStore

def outputText (lines : List String) : String := String.join (lines.map (· ++ "\n"))

private theorem outputText_append (first second : List String) :
    outputText (first ++ second) = outputText first ++ outputText second := by
  rw [outputText, List.map_append, String.join_append]
  rfl

/-- A text made of lines, in their order, and of records of a log at a time. -/
inductive Mixed (instant : String) : List String → String → Prop where
  | nil : Mixed instant [] ""
  | line (before : Mixed instant lines text) (line : String) :
      Mixed instant (lines ++ [line]) (text ++ line ++ "\n")
  | record (before : Mixed instant lines text) (event : Log.Event) (asObject : Bool) :
      Mixed instant lines (text ++ (event.record instant).line asObject instant)

namespace Session

theorem presentAll_append (session : Session) (instant : String) (first second : List Notice) :
    session.presentAll instant (first ++ second) =
      (session.presentAll instant first).presentAll instant second :=
  List.foldl_append

/-- No record of a session's log goes to a file. -/
def OnConsole (session : Session) : Prop :=
  ∀ recorder, session.log.recorder = some recorder → recorder.sink = .complaints

/-- A session that logs to the console has gone on to show notices. -/
structure Shown (instant : String) (before : Session) (notices : List Notice) (after : Session) :
    Prop where
  console : after.OnConsole
  tree : after.tree = before.tree.applyAll (changesOf notices)
  output : after.output = before.output ++ outputText (linesOf notices)
  complaints : ∀ lines, Mixed instant lines before.complaints →
    Mixed instant (lines ++ complaintsOf notices) after.complaints

variable {session : Session}

theorem Shown.refl (console : session.OnConsole) (instant : String) :
    Shown instant session [] session where
  console := console
  tree := rfl
  output := (String.append_empty).symm
  complaints lines mixed := by
    change Mixed instant (lines ++ []) session.complaints
    rwa [List.append_nil]

theorem Shown.trans {before middle after : Session} (first : Shown instant before early middle)
    (second : Shown instant middle late after) : Shown instant before (early ++ late) after where
  console := second.console
  tree := by rw [second.tree, first.tree, changesOf_append, Files.Tree.applyAll_append]
  output := by
    rw [second.output, first.output, linesOf_append, outputText_append, String.append_assoc]
  complaints lines mixed := by
    rw [complaintsOf_append, ← List.append_assoc]
    exact second.complaints _ (first.complaints lines mixed)

theorem OnConsole.writeEvent (console : session.OnConsole) (instant : String) (event : Log.Event) :
    Shown instant session [.event event] (session.writeEvent instant event) := by
  have same : Shown instant session [] session := Shown.refl console instant
  rw [Session.writeEvent]
  split
  · exact ⟨console, rfl, same.output, same.complaints⟩
  · rename_i recorder present
    split
    · rw [console recorder present]
      refine ⟨console, rfl, (String.append_empty).symm, ?_⟩
      intro lines mixed
      have written := mixed.record event recorder.asObjects
      rwa [← List.append_nil lines] at written
    · exact ⟨console, rfl, same.output, same.complaints⟩

theorem OnConsole.change (console : session.OnConsole) (change : Files.Change) :
    (session.change change).OnConsole := by
  intro recorder present
  cases earlier : session.log.recorder with
  | none => simp [Session.change, earlier] at present
  | some before =>
    have sink := console before earlier
    simp only [Session.change, earlier, Option.map_some, Option.some.injEq] at present
    rw [← present, sink]
    cases change <;> rfl

theorem OnConsole.present (console : session.OnConsole) (instant : String) (notice : Notice) :
    Shown instant session [notice] (session.present instant notice) := by
  have same : Shown instant session [] session := Shown.refl console instant
  cases notice with
  | line text =>
    refine ⟨console, rfl, ?_, same.complaints⟩
    have one : outputText (linesOf [.line text]) = text ++ "\n" := by
      simp [linesOf, Report.output, outputText, String.join_cons]
    rw [one, ← String.append_assoc]
    rfl
  | complaint text => exact ⟨console, rfl, same.output, fun lines mixed => mixed.line text⟩
  | event event => exact console.writeEvent instant event
  | change change => exact ⟨console.change change, rfl, same.output, same.complaints⟩

theorem OnConsole.presentAll (console : session.OnConsole) (instant : String)
    (notices : List Notice) : Shown instant session notices (session.presentAll instant notices) := by
  induction notices generalizing session with
  | nil => exact Shown.refl console instant
  | cons notice rest ih =>
    have first := console.present instant notice
    exact first.trans (ih first.console)

private theorem setUpLog_onConsole (tree : Files.Tree) (instant : String) (config : Log.Config)
    (directives : String) (fileless : config.openFile? = none) :
    let settingUp := setUpLog { tree } instant config directives
    settingUp.2 = .ok () ∧ Shown instant { tree }
      ((Log.Filter.complaints directives).map .complaint ++ [.event .bridged]) settingUp.1 := by
  intro settingUp
  have sink : Log.State.openSink config tree = ⟨.ok .complaints, []⟩ := by
    rw [Log.State.openSink, fileless]
  let recorder : Log.Recorder :=
    { filter := .withDefault directives config.level, asObjects := config.asObjects
      sink := .complaints }
  let notices := (Log.Filter.complaints directives).map Notice.complaint ++ [.event .bridged]
  have installed : Log.State.setUp {} config directives tree =
      ({ settled := some (.ok ()), recorder := some recorder }, ⟨.ok (), notices⟩) := by
    rw [Log.State.setUp_ok directives (congrArg Report.value sink), sink, List.append_nil]
  let session : Session := { tree, log := { settled := some (.ok ()), recorder := some recorder } }
  have shown : settingUp = (session.presentAll instant notices, .ok ()) := by
    simp only [settingUp, setUpLog, installed, session]
  have console : session.OnConsole := by
    intro other present
    cases present
    rfl
  have presented := console.presentAll instant notices
  rw [shown]
  exact ⟨rfl, presented.console, presented.tree, presented.output, presented.complaints⟩

end Session

namespace Program

def finalComplaints : Except Failure Unit → List String
  | .ok () => []
  | .error failure => [s!"错误: {failure.message}"]

def openingNotices (directives : String) : List Notice :=
  (Log.Filter.complaints directives).map .complaint ++ [.event .bridged] ++
    [.event (.started Command.programVersion)]

def closingNotices : Except Failure Unit → List Notice
  | .ok () => []
  | .error failure => [.event (.commandFailed failure), .complaint s!"错误: {failure.message}"]

private theorem openingNotices_kinds (directives : String) :
    changesOf (openingNotices directives) = [] ∧ linesOf (openingNotices directives) = [] ∧
      complaintsOf (openingNotices directives) = Log.Filter.complaints directives := by
  refine ⟨?_, ?_, ?_⟩
  · rw [openingNotices, changesOf_append, changesOf_append, changesOf_complaints]
    rfl
  · rw [openingNotices, linesOf_append, linesOf_append, linesOf_complaints]
    rfl
  · rw [openingNotices, complaintsOf_append, complaintsOf_append, complaintsOf_complaints,
      (quiet_event _).complaintsOf_eq, (quiet_event _).complaintsOf_eq, List.append_nil,
      List.append_nil]

private theorem closingNotices_kinds (result : Except Failure Unit) :
    changesOf (closingNotices result) = [] ∧ linesOf (closingNotices result) = [] ∧
      complaintsOf (closingNotices result) = finalComplaints result := by
  cases result <;> exact ⟨rfl, rfl, rfl⟩

theorem changesOf_closing (report : Report (Except Failure Unit)) :
    changesOf (report.notices ++ closingNotices report.value) = report.changes := by
  rw [changesOf_append, (closingNotices_kinds report.value).1, List.append_nil]
  rfl

theorem run_unready {invocation : Usage.Invocation} {directives : String} {moment : Moment}
    {tree : Files.Tree} {prepared : Session} {fault : Log.SetupFault}
    (failed : Session.setUpLog { tree } moment.instant invocation.logConfig directives =
      (prepared, .error fault)) (home : Option String) (access : Access) :
    run invocation home directives moment tree access =
      ⟨1, prepared.present moment.instant (.complaint (setupComplaint fault))⟩ := by
  rw [run, failed]

/-- A run whose log has been set up: its command is carried out on the files that are left, and what
its report says is shown. -/
theorem run_eq {invocation : Usage.Invocation} {home : Option String} {directives : String}
    {moment : Moment} {tree : Files.Tree} {access : Access} {prepared : Session}
    (ready : Session.setUpLog { tree } moment.instant invocation.logConfig directives =
      (prepared, .ok ())) :
    let begun := prepared.present moment.instant (.event (.started Command.programVersion))
    let report := Command.carryOut invocation begun.tree moment.stamp
      (sharedStore home begun.tree access) access
    run invocation home directives moment tree access =
      ⟨if report.value.isOk then 0 else 1,
        begun.presentAll moment.instant (report.notices ++ closingNotices report.value)⟩ := by
  intro begun report
  rw [run, ready]
  change (match report.value with
    | .ok () => (⟨0, begun.presentAll moment.instant report.notices⟩ : Ending)
    | .error failure =>
      ⟨1, (begun.presentAll moment.instant report.notices).presentAll moment.instant
        (closingNotices (.error failure))⟩) = _
  cases value : report.value with
  | ok _ =>
    rw [closingNotices, List.append_nil]
    rfl
  | error failure =>
    rw [Session.presentAll_append]
    rfl

private theorem run_shown (invocation : Usage.Invocation) (home : Option String)
    (directives : String)
    (moment : Moment) (tree : Files.Tree) (fileless : invocation.logFile = none) :
    let ending := run invocation home directives moment tree
    let report := Command.carryOut invocation tree moment.stamp (sharedStore home tree)
    ending.exitCode = (if report.value.isOk then 0 else 1) ∧
      Session.Shown moment.instant { tree }
        (openingNotices directives ++ report.notices ++ closingNotices report.value)
        ending.session := by
  intro ending report
  have closed : invocation.logConfig.openFile? = none := by
    simp [Usage.Invocation.logConfig, Log.Config.openFile?, fileless]
  obtain ⟨ready, prepared⟩ :=
    Session.setUpLog_onConsole tree moment.instant invocation.logConfig directives closed
  have whole : ending = _ := run_eq (Prod.ext rfl ready)
  have begun : Session.Shown moment.instant { tree } (openingNotices directives) _ :=
    prepared.trans (prepared.console.present moment.instant
      (.event (.started Command.programVersion)))
  have files := begun.tree
  rw [(openingNotices_kinds directives).1] at files
  rw [whole, files, List.append_assoc]
  exact ⟨rfl, begun.trans (begun.console.presentAll moment.instant _)⟩

/-- How a run without a log file ends, by the report of its command. -/
theorem run_onConsole (invocation : Usage.Invocation) (home : Option String)
    (directives : String) (moment : Moment) (tree : Files.Tree)
    (fileless : invocation.logFile = none) :
    let ending := run invocation home directives moment tree
    let report := Command.carryOut invocation tree moment.stamp (sharedStore home tree)
    ending.exitCode = (if report.value.isOk then 0 else 1) ∧
      ending.session.tree = tree.applyAll report.changes ∧
      ending.session.output = outputText report.output ∧
      Mixed moment.instant
        (Log.Filter.complaints directives ++ report.complaints ++ finalComplaints report.value)
        ending.session.complaints := by
  intro ending report
  obtain ⟨exitCode, shown⟩ := run_shown invocation home directives moment tree fileless
  obtain ⟨opensFiles, opensLines, opensComplaints⟩ := openingNotices_kinds directives
  obtain ⟨closesFiles, closesLines, closesComplaints⟩ := closingNotices_kinds report.value
  refine ⟨exitCode, ?_, ?_, ?_⟩
  · rw [shown.tree, changesOf_append, changesOf_append, opensFiles, closesFiles, List.nil_append,
      List.append_nil]
    rfl
  · rw [shown.output, linesOf_append, linesOf_append, opensLines, closesLines, List.nil_append,
      List.append_nil]
    exact String.empty_append
  · have complaints := shown.complaints [] .nil
    rwa [complaintsOf_append, complaintsOf_append, opensComplaints, closesComplaints,
      List.nil_append] at complaints

end Program

end PropertyStore
