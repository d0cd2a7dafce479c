import PropertyStore.Files.Action
import PropertyStore.Log.Config
import PropertyStore.Log.Filter
import PropertyStore.Report

/-! Setting up the log of a process. Only the first set-up does anything: it opens the log's
file, if there is one, and puts the recorder in place. How it ended is remembered, and every
later set-up ends in the same way. A set-up is three steps, looking up what is remembered,
the set-up proper and remembering its end; between them others may take theirs. -/

namespace PropertyStore.Log

inductive Sink where
  | complaints
  /-- An open file by its place, as long as it has one. -/
  | file (place : Option Files.Place)
  deriving Repr, DecidableEq

/-- An open file goes along when it is moved; one that is replaced or removed has no place. -/
def Sink.follow (sink : Sink) (change : Files.Change) : Sink :=
  match sink, change with
  | .file (some place), .move source target =>
    if place = source then .file (some target)
    else if place = target then .file none
    else sink
  | .file (some place), .remove removed => if place = removed then .file none else sink
  | _, _ => sink

/-- What decides about records and where it puts those that are kept. -/
structure Recorder where
  filter : Filter
  asObjects : Bool
  sink : Sink

inductive SetupFault where
  | cannotOpen (path : String) (cause : Files.Fault)
  /-- An earlier set-up failed for the given reason. -/
  | failedBefore (reason : String)
  deriving Repr, DecidableEq

def SetupFault.message : SetupFault → String
  | .cannotOpen path cause => s!"打开日志文件失败: {path}: {cause.message}"
  | .failedBefore reason => s!"日志系统之前初始化失败: {reason}"

structure State where
  /-- How the set-up ended, with the text of its fault, once one has. -/
  settled : Option (Except String Unit) := none
  recorder : Option Recorder := none

namespace State

/-- The end of a set-up that finds an earlier one settled. -/
def remembered? (state : State) : Option (Except SetupFault Unit) :=
  state.settled.map (Except.mapError SetupFault.failedBefore)

def openSink (config : Config) (tree : Files.Tree) : Report (Except SetupFault Sink) :=
  match config.openFile? with
  | none => ⟨.ok .complaints, []⟩
  | some path =>
    let deed := Files.Action.openFile path false tree
    let notices := deed.changes.map Notice.change
    match deed.result with
    | .ok place => ⟨.ok (.file (some place)), notices⟩
    | .error cause => ⟨.error (.cannotOpen path cause), notices⟩

/-- The set-up proper; `directives` is a text with further directives for the filter. A
recorder that is in place already stays. -/
def install (state : State) (config : Config) (directives : String) (tree : Files.Tree) :
    State × Report (Except SetupFault Unit) :=
  let passedOver : List Notice := (Filter.complaints directives).map .complaint
  let opening := openSink config tree
  let before := passedOver ++ opening.notices
  match opening.value with
  | .error fault => (state, ⟨.error fault, before⟩)
  | .ok sink =>
    let recorder : Recorder :=
      { filter := .withDefault directives config.level, asObjects := config.asObjects, sink }
    ({ state with recorder := some (state.recorder.getD recorder) },
      ⟨.ok (), before ++ [.event .bridged]⟩)

def remember (state : State) (result : Except SetupFault Unit) : State :=
  { state with settled := some (result.mapError SetupFault.message) }

/-- A set-up, its steps without others between them. -/
def setUp (state : State) (config : Config) (directives : String) (tree : Files.Tree) :
    State × Report (Except SetupFault Unit) :=
  match state.remembered? with
  | some result => (state, ⟨result, []⟩)
  | none =>
    let (installed, report) := state.install config directives tree
    (installed.remember report.value, report)

end State

end PropertyStore.Log
