import PropertyStore.Document.Print
import PropertyStore.Files.Replacement
import PropertyStore.Store.Load

namespace PropertyStore.Store

def savedComment : String := "Properties saved by propstore"

def fileContent (store : Store) (stamp : String) : Text.Bytes :=
  Text.Utf8.encode (Document.print store.properties (some savedComment) stamp)

/-- Saves the store to the file at a path; `stamp` is the time that the file bears. -/
def saveTo (store : Store) (tree : Files.Tree) (path stamp : String) : Report (Except Fault Unit) :=
  if path = "" then ⟨.error .emptyPath, []⟩
  else
    let deed := Files.Action.replaceFile path (store.fileContent stamp) tree
    let changes := deed.changes.map Notice.change
    match deed.result with
    | .error cause => ⟨.error (.writeFailed path cause), changes⟩
    | .ok () => ⟨.ok (), changes ++ [.event (.saved store.size path)]⟩

def saveDefault (store : Store) (tree : Files.Tree) (stamp : String) :
    Report (Except Fault Unit) :=
  match store.defaultPath with
  | none => ⟨.error .noDefaultPath, []⟩
  | some path => store.saveTo tree path stamp

end PropertyStore.Store
