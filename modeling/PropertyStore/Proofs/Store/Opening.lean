import PropertyStore.Proofs.Files.Target
import PropertyStore.Proofs.Store.Loading

/-! The two ways to open the store of a file. One looks first whether there is a file and then
insists that it loads; the other loads it first and looks afterwards whether there is one. They
agree on which files are absent, which are good and which are bad, and so on the store. -/

namespace PropertyStore

variable {tree : Files.Tree} {path : String} {access : Access} {fault : Fault}
  {entries : List Document.Entry} {bytes : Text.Bytes}

def Log.Event.OfLoading : Log.Event → Prop
  | .readAsLatin1 _ | .openFailed .. | .fileRead .. | .merged .. | .defaultAbsent _
  | .defaultUnusable _ => True
  | .bridged | .started _ | .saved .. | .audit .. | .commandFailed _ => False

namespace Document

private theorem told_decode (bytes : Text.Bytes) :
    Told Log.Event.OfLoading (decode bytes).notices := by
  rw [decode]
  split
  · exact told_nil
  · intro notice member
    obtain ⟨fault, _, rfl⟩ := List.mem_map.mp member
    exact ⟨_, rfl, trivial⟩

private theorem told_ofStream (stream : ByteStream) :
    Told Log.Event.OfLoading (ofStream stream).notices := by
  rw [ofStream]
  split
  · exact told_nil
  · exact told_decode _

private theorem told_ofFile (tree : Files.Tree) (path : String) (access : Access) :
    Told Log.Event.OfLoading (ofFile tree path access).notices := by
  rw [ofFile]
  split
  · exact told_nil
  · split
    · exact told_nil
    · split
      · exact told_event trivial
      · exact Report.told_andThen (told_ofStream _) fun _ => told_event trivial

end Document

theorem leadsSomewhere_of_locate (located : tree.locate .find path = .ok (.existing place))
    (found : tree.find? place = some entry) : tree.leadsSomewhere path = true := by
  simp [Files.Tree.leadsSomewhere, Files.Tree.lookup, located, found, bind, Except.bind, pure,
    Except.pure, Except.isOk, Except.toBool]

private theorem leadsSomewhere_of_content (held : tree.content? path = some bytes) :
    tree.leadsSomewhere path = true := by
  obtain ⟨place, mode, located, found⟩ := (tree.content?_eq_some_iff path bytes).mp held
  exact leadsSomewhere_of_locate located found

theorem leadsSomewhere_of_loads (loads : (Document.ofFile tree path access).value = .ok entries) :
    tree.leadsSomewhere path = true := by
  have gives : Source.Gives none tree access (.file path) (.ok entries) :=
    (Source.gives_iff (.file path) (.ok entries)).mpr loads
  cases gives with
  | file held _ _ => exact leadsSomewhere_of_content held

namespace Store

variable (store : Store)

private theorem loadFile_of_loads (loads : (Document.ofFile tree path access).value = .ok entries) :
    (store.loadFile tree path access).value = .ok (store.merge entries) := by
  rw [loadFile, load, Report.andThen_value, loads]

private theorem loadFile_of_unloadable
    (unloadable : (Document.ofFile tree path access).value = .error fault) :
    (store.loadFile tree path access).value = .error fault := by
  rw [loadFile, load, Report.andThen_value, unloadable]

private theorem told_loadFile (tree : Files.Tree) (path : String) (access : Access) :
    Told Log.Event.OfLoading (store.loadFile tree path access).notices :=
  Report.told_andThen (Document.told_ofFile tree path access) fun _ => told_event trivial

private theorem told_loadDefault (tree : Files.Tree) (access : Access) :
    Told Log.Event.OfLoading (store.loadDefault tree access).notices := by
  rw [loadDefault]
  split
  · exact told_nil
  · exact store.told_loadFile tree _ access

theorem told_openStrict (tree : Files.Tree) (path : String) (access : Access) :
    Told Log.Event.OfLoading (openStrict tree path access).notices := by
  rw [openStrict]
  split
  · exact (ofPath path).told_loadDefault tree access
  · exact told_nil

theorem told_loadDefaultOrKeep (tree : Files.Tree) (access : Access) :
    Told Log.Event.OfLoading (store.loadDefaultOrKeep tree access).notices := by
  have loading := store.told_loadDefault tree access
  rw [loadDefaultOrKeep]
  split
  · exact loading
  · split
    · exact loading.append (told_event trivial)
    · exact loading.append (told_event trivial)

theorem told_openLenient (tree : Files.Tree) (path : String) (access : Access) :
    Told Log.Event.OfLoading (openLenient tree path access).notices :=
  (ofPath path).told_loadDefaultOrKeep tree access

private theorem defaultPath_loadFile {loaded : Store}
    (done : (store.loadFile tree path access).value = .ok loaded) :
    loaded.defaultPath = store.defaultPath := by
  rw [loadFile, load, Report.andThen_value] at done
  split at done
  · cases done
  · cases done
    rfl

private theorem defaultPath_loadDefault {loaded : Store}
    (done : (store.loadDefault tree access).value = .ok loaded) :
    loaded.defaultPath = store.defaultPath := by
  rw [loadDefault] at done
  split at done
  · cases done
  · exact store.defaultPath_loadFile done

theorem defaultPath_loadDefaultOrKeep (tree : Files.Tree) (access : Access) :
    (store.loadDefaultOrKeep tree access).value.defaultPath = store.defaultPath := by
  rw [loadDefaultOrKeep]
  split
  · rename_i loaded done
    exact store.defaultPath_loadDefault done
  · split <;> rfl

theorem defaultPath_openStrict (opened : (openStrict tree path access).value = .ok store) :
    store.defaultPath = some path := by
  rw [openStrict] at opened
  split at opened
  · exact (ofPath path).defaultPath_loadDefault opened
  · cases opened
    rfl

theorem openStrict_of_nowhere (nowhere : tree.leadsSomewhere path = false) :
    (openStrict tree path access).value = .ok (ofPath path) := by
  rw [openStrict, nowhere]
  rfl

theorem openStrict_of_loads (loads : (Document.ofFile tree path access).value = .ok entries) :
    (openStrict tree path access).value = .ok ((ofPath path).merge entries) := by
  rw [openStrict, leadsSomewhere_of_loads loads]
  exact loadFile_of_loads (ofPath path) loads

/-- A file that is there but cannot be loaded has no store that must be of it. -/
theorem openStrict_of_unloadable (there : tree.leadsSomewhere path)
    (unloadable : (Document.ofFile tree path access).value = .error fault) :
    (openStrict tree path access).value = .error fault := by
  rw [openStrict, if_pos there]
  exact loadFile_of_unloadable (ofPath path) unloadable

theorem openLenient_eq (tree : Files.Tree) (path : String) (access : Access) :
    (openLenient tree path access).value =
      match (Document.ofFile tree path access).value with
      | .ok entries => (ofPath path).merge entries
      | .error fault =>
        if tree.leadsSomewhere path then { ofPath path with loadFailure := some fault.message }
        else ofPath path := by
  have loading : (ofPath path).loadDefault tree access = (ofPath path).loadFile tree path access :=
    rfl
  have known : (ofPath path).defaultPath.any tree.leadsSomewhere = tree.leadsSomewhere path := rfl
  rw [openLenient, loadDefaultOrKeep, loading, known]
  cases read : (Document.ofFile tree path access).value with
  | ok entries => simp only [loadFile_of_loads (ofPath path) read]
  | error fault =>
    simp only [loadFile_of_unloadable (ofPath path) read]
    split <;> rfl

theorem openLenient_of_unloadable (there : tree.leadsSomewhere path)
    (unloadable : (Document.ofFile tree path access).value = .error fault) :
    (openLenient tree path access).value =
      { ofPath path with loadFailure := some fault.message } := by
  simp only [openLenient_eq, unloadable, there, if_true]

/-- Wherever one way of opening makes a store, so does the other, and it is the same store. Where
one of them fails, the other makes an empty store that remembers the fault. -/
theorem openLenient_of_openStrict (tree : Files.Tree) (path : String) (access : Access) :
    let lenient := (openLenient tree path access).value
    match (openStrict tree path access).value with
    | .ok strict =>
      lenient.properties = strict.properties ∧ lenient.defaultPath = strict.defaultPath ∧
        lenient.loadFailure = none
    | .error fault =>
      lenient.properties = ∅ ∧ lenient.defaultPath = some path ∧
        lenient.loadFailure = some fault.message := by
  intro lenient
  cases there : tree.leadsSomewhere path with
  | false =>
    cases read : (Document.ofFile tree path access).value with
    | ok entries =>
      rw [leadsSomewhere_of_loads read] at there
      cases there
    | error fault =>
      have empty : lenient = ofPath path := by
        simp only [lenient, openLenient_eq, read, there, Bool.false_eq_true, if_false]
      rw [openStrict_of_nowhere there, empty]
      exact ⟨rfl, rfl, rfl⟩
  | true =>
    cases read : (Document.ofFile tree path access).value with
    | ok entries =>
      have loaded : lenient = (ofPath path).merge entries := by
        simp only [lenient, openLenient_eq, read]
      rw [openStrict_of_loads read, loaded]
      exact ⟨rfl, rfl, rfl⟩
    | error fault =>
      have kept : lenient = { ofPath path with loadFailure := some fault.message } :=
        openLenient_of_unloadable there read
      rw [openStrict_of_unloadable there read, kept]
      exact ⟨rfl, rfl, rfl⟩

end Store

end PropertyStore
