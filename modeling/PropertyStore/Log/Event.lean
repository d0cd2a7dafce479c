import PropertyStore.Fault
import PropertyStore.Log.Audit
import PropertyStore.Log.Severity
import PropertyStore.Text.Utf8

namespace PropertyStore.Log

inductive Event where
  /-- The bridge between two log interfaces was there already when a log was set up. -/
  | bridged
  | started (version : String)
  | readAsLatin1 (fault : Text.Utf8.Fault)
  | openFailed (path cause : String)
  | fileRead (path : String) (count : Nat)
  | merged (count total : Nat)
  | defaultAbsent (fault : Fault)
  | defaultUnusable (fault : Fault)
  | saved (count : Nat) (path : String)
  /-- An audit entry, as an object or as a sentence. -/
  | audit (entry : AuditEntry) (asObject : Bool)
  | commandFailed (failure : Failure)
  deriving Repr, DecidableEq

namespace Event

def severity : Event → Severity
  | .bridged | .started _ | .readAsLatin1 _ | .openFailed .. | .fileRead .. | .merged ..
  | .defaultAbsent _ => .debug
  | .saved .. | .audit .. => .info
  | .defaultUnusable _ => .warn
  | .commandFailed _ => .error

def target : Event → String
  | .bridged | .audit .. => "propstore::logging"
  | .readAsLatin1 _ | .openFailed .. | .fileRead .. => "propstore::config::loader"
  | .merged .. | .defaultAbsent _ | .defaultUnusable _ | .saved .. => "propstore::config::store"
  | .started _ | .commandFailed _ => "propstore"

/-- The names of the fields that an event's record has. What the loader tells goes over a bridge
that also says where it comes from. -/
def fields : Event → List String
  | .readAsLatin1 _ | .openFailed .. | .fileRead .. =>
    ["message", "log.target", "log.module_path", "log.file", "log.line"]
  | _ => ["message"]

/-- The message of an event; `clock` is the time that an audit object carries. -/
def message (clock : String) : Event → String
  | .bridged => "日志系统已经初始化过了"
  | .started version => s!"propstore v{version} 启动"
  | .readAsLatin1 fault => s!"属性数据不是合法的UTF-8，按ISO-8859-1解码: {fault.message}"
  | .openFailed path cause => s!"打开属性文件失败: {path}: {cause}"
  | .fileRead path count => s!"从 {path} 读取 {count} 个属性"
  | .merged count total => s!"合并 {count} 个属性，当前共 {total} 个"
  | .defaultAbsent fault => s!"未加载默认属性文件: {fault.message}"
  | .defaultUnusable fault => s!"默认属性文件加载失败，以空存储继续: {fault.message}"
  | .saved count path => s!"已保存 {count} 个属性到 {path}"
  | .audit entry asObject => if asObject then entry.object clock else entry.sentence
  | .commandFailed failure => s!"命令执行失败: {failure.message}"

end Event

end PropertyStore.Log
