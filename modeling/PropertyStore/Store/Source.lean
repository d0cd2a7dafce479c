import PropertyStore.Store.Load

/-! Loading a store where it stands. The store is the same before and after, and whoever else
has it sees all that is done to it, also what is done before a fault. -/

namespace PropertyStore

inductive Source where
  | stream (reader : ByteStream)
  | file (path : String)
  /-- The default file of the store. -/
  | default

/-- The entries of a source for a store with the given default file. -/
def Source.reading (defaultPath : Option String) (tree : Files.Tree) (access : Access) :
    Source → Report (Except Fault (List Document.Entry))
  | .stream reader => Document.ofStream reader
  | .file path => Document.ofFile tree path access
  | .default =>
    match defaultPath with
    | none => ⟨.error .noDefaultPath, []⟩
    | some path => Document.ofFile tree path access

def Store.loadFrom (store : Store) (tree : Files.Tree) (access : Access) :
    Source → Report (Except Fault Store)
  | .stream reader => store.loadStream reader
  | .file path => store.loadFile tree path access
  | .default => store.loadDefault tree access

/-- Something done to a store where it stands. A fault ends it and undoes nothing. -/
abbrev InPlace : Type → Type := ExceptT Fault (StateM Store)

namespace InPlace

def setAll : List Document.Entry → InPlace Unit
  | [] => return
  | (key, value) :: rest => do
    modify (·.set key value)
    setAll rest

/-- Loads the store from a source: the entries are set one by one as soon as all are read. -/
def load (tree : Files.Tree) (access : Access) (source : Source) : InPlace Unit := do
  let entries ← liftExcept (source.reading (← get).defaultPath tree access).value
  setAll entries

end InPlace

end PropertyStore
