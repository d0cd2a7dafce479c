import PropertyStore.ByteStream
import PropertyStore.Report
import PropertyStore.Store.Basic

/-! Loading a store from a source of bytes or a file. The data are read and parsed as a
whole before anything is laid over the store, so a load that fails leaves it as it was. -/

namespace PropertyStore

namespace Document

/-- The text of bytes; that they had to be read as ISO-8859-1 is an event. -/
def decode (bytes : Text.Bytes) : Report String :=
  match Text.Utf8.decode? bytes with
  | some text => ⟨text, []⟩
  | none =>
    ⟨Text.latin1 bytes,
      (Text.Utf8.firstFault? bytes).toList.map fun fault => .event (.readAsLatin1 fault)⟩

def ofBytes (bytes : Text.Bytes) : Report (Except Fault (List Entry)) :=
  (decode bytes).map fun text => (parse text).mapError Fault.malformed

def ofStream (stream : ByteStream) : Report (Except Fault (List Entry)) :=
  match stream.readAll with
  | .error fault => ⟨.error fault, []⟩
  | .ok bytes => ofBytes bytes

@[simp] theorem ofStream_whole (bytes : Text.Bytes) : ofStream (.whole bytes) = ofBytes bytes := by
  rw [ofStream, ByteStream.readAll_whole]

/-- The entries of the regular file that a path leads to; `access` is how files are read. -/
def ofFile (tree : Files.Tree) (path : String) (access : Access := .granted) :
    Report (Except Fault (List Entry)) :=
  if path = "" then ⟨.error .emptyPath, []⟩
  else match tree.content? path with
    | none => ⟨.error (.unreadable path), []⟩
    | some bytes => match access bytes with
      | .error cause => ⟨.error (.unreadable path), [.event (.openFailed path cause)]⟩
      | .ok stream => (ofStream stream).andThen fun entries =>
        ⟨.ok entries, [.event (.fileRead path entries.length)]⟩

end Document

namespace Store

/-- Lays the entries of a reading over the store, if there are any to lay. -/
def load (store : Store) (reading : Report (Except Fault (List Document.Entry))) :
    Report (Except Fault Store) :=
  reading.andThen fun entries =>
    let merged := store.merge entries
    ⟨.ok merged, [.event (.merged entries.length merged.size)]⟩

def loadStream (store : Store) (stream : ByteStream) : Report (Except Fault Store) :=
  store.load (Document.ofStream stream)

def loadFile (store : Store) (tree : Files.Tree) (path : String) (access : Access := .granted) :
    Report (Except Fault Store) :=
  store.load (Document.ofFile tree path access)

def loadDefault (store : Store) (tree : Files.Tree) (access : Access := .granted) :
    Report (Except Fault Store) :=
  match store.defaultPath with
  | none => ⟨.error .noDefaultPath, []⟩
  | some path => store.loadFile tree path access

def ofPath (path : String) : Store := { defaultPath := some path }

/-- Opens the store of a file. A file that is not there makes an empty store, but one that
is there must load. -/
def openStrict (tree : Files.Tree) (path : String) (access : Access := .granted) :
    Report (Except Fault Store) :=
  if tree.leadsSomewhere path then (ofPath path).loadDefault tree access
  else ⟨.ok (ofPath path), []⟩

/-- Loads the default file of a store if that can be done. If it is there but cannot be
loaded, the store keeps the reason. -/
def loadDefaultOrKeep (store : Store) (tree : Files.Tree) (access : Access := .granted) :
    Report Store :=
  let loading := store.loadDefault tree access
  match loading.value with
  | .ok loaded => ⟨loaded, loading.notices⟩
  | .error fault =>
    if store.defaultPath.any tree.leadsSomewhere then
      ⟨{ store with loadFailure := some fault.message },
        loading.notices ++ [.event (.defaultUnusable fault)]⟩
    else ⟨store, loading.notices ++ [.event (.defaultAbsent fault)]⟩

def openLenient (tree : Files.Tree) (path : String) (access : Access := .granted) : Report Store :=
  (ofPath path).loadDefaultOrKeep tree access

end Store

end PropertyStore
