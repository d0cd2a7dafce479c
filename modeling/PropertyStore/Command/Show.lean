import PropertyStore.Command.Change
import PropertyStore.Json

namespace PropertyStore.Command

def programName : String := "propstore"

def programVersion : String := "0.1.0"

def programDescription : String :=
  "A thread-safe process-wide key/value property store backed by a flat property file"

/-- The properties of a store as one JSON object, with their file and their number. -/
def listingObject (store : Store) : Json :=
  .object [
    ("file", match store.defaultPath with
      | none => .null
      | some path => .text path),
    ("count", .number store.size),
    ("properties", .object (store.toList.map fun (key, value) => (key, .text value)))]

def listing (verbose : Bool) (store : Store) : Format → List String
  | .json => [(listingObject store).pretty 0]
  | .text =>
    (if verbose then [s!"# {shownPath store} ({store.size} 个属性)"] else []) ++
      store.toList.map fun (key, value) => s!"{key}={value}"

/-- Checks that properties are there and complains of each that is not. -/
def checkAll (store : Store) (keys : List String) : Report (Except Failure Unit) :=
  let missing := keys.filter fun key => !(store.require key).isOk
  match missing with
  | [] => ⟨.ok (), [.line s!"✓ {keys.length} 个必需属性均已配置"]⟩
  | first :: _ =>
    ⟨.error (.store (.missing first)),
      missing.map fun key => .complaint s!"✗ 缺少必需属性: {key}"⟩

def versionLines : Format → List String
  | .text => [s!"{programName} v{programVersion}", programDescription]
  | .json =>
    [Json.pretty 0 <| .object [
      ("description", .text programDescription),
      ("name", .text programName),
      ("version", .text programVersion)]]

end PropertyStore.Command
