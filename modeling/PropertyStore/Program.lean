import PropertyStore.Command.Run
import PropertyStore.Log.Record
import PropertyStore.Log.Setup
import PropertyStore.Moment
import PropertyStore.Usage.Help

namespace PropertyStore

/-- What can be seen of a process, and its log. -/
structure Session where
  tree : Files.Tree
  output : String := ""
  complaints : String := ""
  log : Log.State := {}

namespace Session

/-- Adds text to where the log's records go. -/
def writeTo (session : Session) (text : String) : Log.Sink → Session
  | .complaints => { session with complaints := session.complaints ++ text }
  | .file none => session
  | .file (some place) =>
    { session with tree := session.tree.apply (.append place (Text.Utf8.encode text)) }

/-- Records an event if there is a recorder that keeps it. -/
def writeEvent (session : Session) (instant : String) (event : Log.Event) : Session :=
  match session.log.recorder with
  | none => session
  | some recorder =>
    if recorder.filter.admits event then
      session.writeTo ((event.record instant).line recorder.asObjects instant) recorder.sink
    else session

/-- Changes the files; the log's file goes along. -/
def change (session : Session) (change : Files.Change) : Session :=
  let follow (recorder : Log.Recorder) := { recorder with sink := recorder.sink.follow change }
  { session with
    tree := session.tree.apply change
    log := { session.log with recorder := session.log.recorder.map follow } }

def present (instant : String) (session : Session) : Notice → Session
  | .line text => { session with output := session.output ++ text ++ "\n" }
  | .complaint text => { session with complaints := session.complaints ++ text ++ "\n" }
  | .event event => session.writeEvent instant event
  | .change change => session.change change

def presentAll (instant : String) (session : Session) (notices : List Notice) : Session :=
  notices.foldl (present instant) session

/-- Sets up the log of a process. What that changes of files is done before the log's first
record. -/
def setUpLog (session : Session) (instant : String) (config : Log.Config) (directives : String) :
    Session × Except Log.SetupFault Unit :=
  let (log, report) := session.log.setUp config directives session.tree
  (presentAll instant { session with log } report.notices, report.value)

end Session

namespace Program

/-- The path of the default file in a home directory. -/
def defaultPath (home : String) : String := Files.Path.join home ".propstore"

structure Ending where
  exitCode : Nat
  session : Session

/-- Later lines of a cause stand under its first. -/
def indented (text : String) : String :=
  "\n".intercalate ((text.toList.splitOn '\n').map fun line =>
    "    " ++ String.ofList line)

/-- What is said when the log cannot be set up. -/
def setupComplaint (fault : Log.SetupFault) : String :=
  s!"Error: 初始化日志系统失败\n\nCaused by:\n{indented fault.message}"

/-- The store that all share in a process. Its file is the default one of the home directory,
if there is a home directory; it is loaded if that can be done. -/
def sharedStore (home : Option String) (tree : Files.Tree) (access : Access := .granted) :
    Report Store :=
  ({ defaultPath := home.map defaultPath } : Store).loadDefaultOrKeep tree access

/-- Runs an invocation in a fresh process; `directives` are those that the environment has for
the log. -/
def run (invocation : Usage.Invocation) (home : Option String) (directives : String)
    (moment : Moment) (tree : Files.Tree) (access : Access := .granted) : Ending :=
  let instant := moment.instant
  let (prepared, settingUp) :=
    Session.setUpLog { tree } instant invocation.logConfig directives
  match settingUp with
  | .error fault => ⟨1, prepared.present instant (.complaint (setupComplaint fault))⟩
  | .ok () =>
    let begun := prepared.present instant (.event (.started Command.programVersion))
    let report := Command.carryOut invocation begun.tree moment.stamp
      (sharedStore home begun.tree access) access
    let finished := begun.presentAll instant report.notices
    match report.value with
    | .ok () => ⟨0, finished⟩
    | .error failure =>
      ⟨1, finished.presentAll instant
        [.event (.commandFailed failure), .complaint s!"错误: {failure.message}"]⟩

/-- What is shown in place of a run. -/
def turnAway (refusal : Usage.Refusal) (tree : Files.Tree) : Ending :=
  let text := refusal.text Command.programName Command.programVersion
  ⟨refusal.exitCode,
    if refusal.exitCode = 0 then { tree, output := text } else { tree, complaints := text }⟩

/-- A process from its first to its last moment. It starts with the words of its command line, and
`environment` has the variables that options take values from. -/
def start (words : List String) (environment : List (String × String)) (home : Option String)
    (directives : String) (moment : Moment) (tree : Files.Tree) (access : Access := .granted) :
    Ending :=
  match Usage.Invocation.ofWords words environment with
  | .error refusal => turnAway refusal tree
  | .ok invocation => run invocation home directives moment tree access

end Program

end PropertyStore
