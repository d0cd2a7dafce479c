import PropertyStore.Command.Basic
import PropertyStore.Log.Config
import PropertyStore.Usage.Reading

namespace PropertyStore.Usage

/-- What a command line asks for. -/
structure Invocation where
  file : Option String
  logLevel : Log.Severity
  logFile : Option String
  logFormat : Format
  verbose : Bool
  command : Command
  deriving Repr, DecidableEq

/-- At the level of debugging the program tells as much as when asked to be verbose. -/
def Invocation.isVerbose (invocation : Invocation) : Bool :=
  invocation.verbose || invocation.logLevel = .debug

/-- The log that a command line asks for. A log with a file does not go to the console. -/
def Invocation.logConfig (invocation : Invocation) : Log.Config where
  level := some invocation.logLevel
  file := invocation.logFile
  console := invocation.logFile.isNone
  asObjects := invocation.logFormat = .json

/-- The severities that a log may be asked for, by the word that asks for them. -/
def logLevels : List (String × Log.Severity) :=
  [("debug", .debug), ("info", .info), ("warn", .warn), ("error", .error)]

def helpParameter : Parameter := { long := "help", short := some 'h', role := .help }

def formatParameter : Parameter :=
  { long := "format", short := some 'f', role := .valued (.oneOf (Format.all.map Format.word)) }

def mainForm : Form where
  parameters := [
    { long := "file", short := some 'f', role := .valued .nonEmpty, variableName := some "PROPSTORE_FILE" },
    { long := "log-level", short := some 'l', role := .valued (.oneOf (logLevels.map (·.1)))
      variableName := some "PROPSTORE_LOG_LEVEL" },
    { long := "log-file", role := .valued .nonEmpty, variableName := some "PROPSTORE_LOG_FILE" },
    { long := "log-format", role := .valued (.oneOf (Format.all.map Format.word))
      variableName := some "PROPSTORE_LOG_FORMAT" },
    { long := "verbose", short := some 'v', role := .flag },
    helpParameter,
    { long := "version", short := some 'V', role := .version }]
  commands := ["get", "set", "remove", "list", "check", "clear", "version"]

def commandForm (name : String) : Form :=
  match name with
  | "get" =>
    { parameters := [
        { long := "default", short := some 'd', role := .valued .text },
        { long := "type", short := some 't'
          role := .valued (.oneOf (ValueType.all.map ValueType.word)) },
        helpParameter]
      operands := .one }
  | "list" | "version" => { parameters := [formatParameter, helpParameter] }
  | "clear" => { parameters := [helpParameter] }
  | _ => { parameters := [helpParameter], operands := .many }

def commandOf (name : String) (reading : Reading) : Except Refusal Command :=
  let format := ((reading.value? "format").bind Format.ofWord?).getD .text
  match name with
  | "get" =>
    match reading.operands with
    | key :: _ =>
      .ok (.get key (reading.value? "default")
        (((reading.value? "type").bind ValueType.ofWord?).getD .text))
    | [] => .error .missingOperand
  | "set" => .ok (.set reading.operands)
  | "remove" => .ok (.remove reading.operands)
  | "list" => .ok (.list format)
  | "check" => .ok (.check reading.operands)
  | "clear" => .ok .clear
  | "version" => .ok (.version format)
  | _ => .error .invalidCommand

/-- What the words of a command line ask for in an environment. The words of the command are
judged before the option that stands last before it. -/
def Invocation.ofWords (words : List String) (environment : List (String × String)) :
    Except Refusal Invocation := do
  let (reading, following) ← ({} : Reading).readWords mainForm false words
  let command ← following.mapM fun (name, rest) => do
    commandOf name (← (commandForm name).read rest)
  let settled ← reading.settle
  let complete ← mainForm.parameters.foldlM (Reading.takeVariable environment) settled
  match command with
  | none => .error (if complete.given.isEmpty then .nothingAsked else .missingCommand)
  | some command =>
    return {
      file := complete.value? "file"
      logLevel := ((complete.value? "log-level").bind (List.lookup · logLevels)).getD .warn
      logFile := complete.value? "log-file"
      logFormat := ((complete.value? "log-format").bind Format.ofWord?).getD .text
      verbose := complete.has "verbose"
      command }

end PropertyStore.Usage
