import PropertyStore.Proofs.Document.RoundTrip
import PropertyStore.Proofs.Store.Opening
import PropertyStore.Store.Save

namespace PropertyStore

/-- The file at a path is absent, and so holds nothing, or it loads as the given properties. -/
def Holds (tree : Files.Tree) (path : String) (properties : Properties) : Prop :=
  (tree.Absent path ∧ properties = ∅) ∨
    ∃ entries, (Document.ofFile tree path).value = .ok entries ∧
      Properties.ofEntries entries = properties

variable {tree after : Files.Tree} {path : String} {properties : Properties}

namespace Document

theorem content_empty (tree : Files.Tree) : tree.content? "" = none := by
  rfl

theorem ofFile_eq_ok_iff (tree : Files.Tree) (path : String) (entries : List Entry) :
    (ofFile tree path).value = .ok entries ↔
      ∃ bytes, tree.content? path = some bytes ∧ (ofBytes bytes).value = .ok entries := by
  by_cases empty : path = ""
  · simp [ofFile, empty, content_empty]
  · rw [ofFile, if_neg empty]
    cases tree.content? path with
    | none => simp
    | some bytes =>
      simp only [Access.granted, ofStream_whole, Report.andThen_value, Option.some.injEq,
        exists_eq_left']
      cases (ofBytes bytes).value <;> simp

private theorem decode_fileContent (store : Store) (stamp : String) :
    decode (store.fileContent stamp) =
      ⟨print store.properties (some Store.savedComment) stamp, []⟩ := by
  rw [decode, Store.fileContent, Text.Utf8.decode?_encode]

theorem ofBytes_fileContent (store : Store) (time : Calendar) :
    ofBytes (store.fileContent time.stamp) = ⟨.ok store.properties.toList, []⟩ := by
  have harmless : Harmless (some Store.savedComment) := by
    apply harmless_of_returnsPaired
    rintro _ ⟨rfl⟩
    decide
  rw [ofBytes, decode_fileContent, Report.map,
    parse_print_of_harmless store.properties _ _ time.oneLine_stamp harmless]
  rfl

end Document

theorem Holds.settled (holds : Holds tree path properties) : tree.Settled path := by
  rcases holds with ⟨absent, _⟩ | ⟨entries, loads, _⟩
  · exact .inl absent
  · obtain ⟨bytes, held, _⟩ := (Document.ofFile_eq_ok_iff tree path entries).mp loads
    exact .inr ⟨bytes, held⟩

theorem Holds.transfer (holds : Holds tree path properties)
    (absent : tree.Absent path → after.Absent path)
    (kept : ∀ bytes, tree.content? path = some bytes → after.content? path = some bytes) :
    Holds after path properties := by
  rcases holds with ⟨missing, empty⟩ | ⟨entries, loads, same⟩
  · exact .inl ⟨absent missing, empty⟩
  · obtain ⟨bytes, held, read⟩ := (Document.ofFile_eq_ok_iff tree path entries).mp loads
    exact .inr ⟨entries, (Document.ofFile_eq_ok_iff after path entries).mpr
      ⟨bytes, kept bytes held, read⟩, same⟩

private theorem holds_of_saved (store : Store) (time : Calendar)
    (held : tree.content? path = some (store.fileContent time.stamp)) :
    Holds tree path store.properties :=
  .inr ⟨store.properties.toList, (Document.ofFile_eq_ok_iff tree path _).mpr
    ⟨_, held, by rw [Document.ofBytes_fileContent]⟩, Properties.ofEntries_toList _⟩

private theorem leadsSomewhere_of_absent (absent : tree.Absent path) :
    tree.leadsSomewhere path = false := by
  rw [Files.Tree.leadsSomewhere, Files.Tree.lookup]
  cases located : tree.locate .find path with
  | error fault => rfl
  | ok destination =>
    cases destination with
    | free place => rfl
    | existing place =>
      have usable := Files.Tree.usable_of_locate located
      rw [Files.Tree.locate_of_usable usable] at located
      exact (absent place located).elim

namespace Store

def holding (path : String) (properties : Properties) : Store :=
  { properties, defaultPath := some path }

private theorem ofPath_merge (path : String) (entries : List Document.Entry) :
    (ofPath path).merge entries = holding path (Properties.ofEntries entries) :=
  rfl

theorem openStrict_of_holds (holds : Holds tree path properties) :
    (openStrict tree path).value = .ok (holding path properties) ∧
      Quiet (openStrict tree path).notices := by
  refine ⟨?_, (told_openStrict tree path .granted).quiet⟩
  rcases holds with ⟨absent, rfl⟩ | ⟨entries, loads, rfl⟩
  · exact openStrict_of_nowhere (leadsSomewhere_of_absent absent)
  · exact openStrict_of_loads loads

theorem openLenient_of_holds (holds : Holds tree path properties) :
    (openLenient tree path).value = holding path properties ∧
      Quiet (openLenient tree path).notices := by
  refine ⟨?_, (told_openLenient tree path .granted).quiet⟩
  rw [openLenient_eq]
  rcases holds with ⟨absent, rfl⟩ | ⟨entries, loads, rfl⟩
  · have nowhere := leadsSomewhere_of_absent absent
    cases read : (Document.ofFile tree path).value with
    | ok entries =>
      rw [leadsSomewhere_of_loads read] at nowhere
      cases nowhere
    | error fault =>
      simp only [nowhere, Bool.false_eq_true, if_false]
      rfl
  · simp only [loads]
    exact ofPath_merge path entries

end Store

/-- A save to a path that is not empty does what replacing the file does. -/
theorem Store.saveTo_eq (store : Store) (tree : Files.Tree) (full : path ≠ "") (stamp : String) :
    let deed := Files.Action.replaceFile path (store.fileContent stamp) tree
    (store.saveTo tree path stamp).value = deed.result.mapError (Fault.writeFailed path) ∧
      (store.saveTo tree path stamp).changes = deed.changes := by
  simp only [saveTo, if_neg full]
  cases (Files.Action.replaceFile path (store.fileContent stamp) tree).result with
  | error cause => exact ⟨rfl, changesOf_changes _⟩
  | ok _ =>
    refine ⟨rfl, ?_⟩
    rw [Report.changes_eq, changesOf_append, changesOf_changes, (quiet_event _).changesOf_eq,
      List.append_nil]

/-- Of a store no more is saved than its properties. -/
theorem Store.saveTo_holding (store : Store) (tree : Files.Tree) (own path stamp : String) :
    (holding own store.properties).saveTo tree path stamp = store.saveTo tree path stamp := by
  simp only [saveTo, fileContent, size, holding]

theorem Store.replaceFile_of_saveTo (store : Store)
    (ended : (store.saveTo tree path stamp).value = .ok ()) :
    let deed := Files.Action.replaceFile path (store.fileContent stamp) tree
    deed.result = .ok () ∧ (store.saveTo tree path stamp).changes = deed.changes := by
  intro deed
  have full : path ≠ "" := by
    rintro rfl
    cases ended
  obtain ⟨value, changes⟩ := store.saveTo_eq tree full stamp
  rw [value, mapError_eq_ok_iff] at ended
  exact ⟨ended, changes⟩

/-- Saving a store to a file that holds properties leaves it holding the store's, or if that
fails what it held. -/
theorem Store.saveTo_holds (store : Store) (time : Calendar) (ready : tree.Ready path)
    (holds : Holds tree path properties) :
    let saving := store.saveTo tree path time.stamp
    let after := tree.applyAll saving.changes
    after.Ready path ∧
      Holds after path (if saving.value.isOk then store.properties else properties) := by
  by_cases empty : path = ""
  · rw [saveTo, if_pos empty]
    exact ⟨ready, holds⟩
  · have replacing := ready.replaceFile (store.fileContent time.stamp)
    obtain ⟨value, changes⟩ := store.saveTo_eq tree empty time.stamp
    simp only [value, changes]
    cases ended : (Files.Action.replaceFile path (store.fileContent time.stamp) tree).result with
    | error fault =>
      simp only [ended] at replacing
      exact ⟨replacing.1, holds.transfer replacing.2.1 replacing.2.2⟩
    | ok _ =>
      simp only [ended] at replacing
      exact ⟨replacing.1, holds_of_saved store time replacing.2⟩

end PropertyStore
