import PropertyStore.Command.Get
import PropertyStore.Command.Show
import PropertyStore.Usage.Invocation

namespace PropertyStore.Command

def perform (setting : Setting) (store : Store) : Command → Report Outcome
  | .get key default type =>
    match shownValue store key default type with
    | .ok text => ⟨⟨store, .ok ()⟩, [.line text]⟩
    | .error failure => ⟨⟨store, .error failure⟩, []⟩
  | .set expressions => setAll setting store expressions
  | .remove keys => removeAll setting store keys
  | .list format => ⟨⟨store, .ok ()⟩, (listing setting.verbose store format).map .line⟩
  | .check keys => (checkAll store keys).map fun result => ⟨store, result⟩
  | .clear => clearAll setting store
  | .version format => ⟨⟨store, .ok ()⟩, (versionLines format).map .line⟩

def Setting.ofInvocation (invocation : Usage.Invocation) (tree : Files.Tree) (stamp : String) :
    Setting where
  tree
  stamp
  verbose := invocation.isVerbose
  auditAsObjects := invocation.logFormat = .json

/-- Carries out an invocation: on the store of the file it names, which must load if it is
there, or else on the store that all share. -/
def carryOut (invocation : Usage.Invocation) (tree : Files.Tree) (stamp : String)
    (shared : Report Store) (access : Access := .granted) : Report (Except Failure Unit) :=
  let setting := Setting.ofInvocation invocation tree stamp
  match invocation.file with
  | none => (shared.bind fun store => perform setting store invocation.command).map Outcome.result
  | some path =>
    let opening := Store.openStrict tree path access
    match opening.value with
    | .error fault => ⟨.error (.store fault), opening.notices⟩
    | .ok store =>
      (opening.bind fun _ => perform setting store invocation.command).map Outcome.result

end PropertyStore.Command
