import PropertyStore.Proofs.Command.Refusal
import PropertyStore.Proofs.Files.Progress
import PropertyStore.Proofs.Store.Saving

namespace PropertyStore

variable {tree : Files.Tree} {path stamp : String} {fault : Fault} {about : String → Prop}
  {changes : List Files.Change} {store : Store} {access : Access}

/-- The changes of a save that fails are all about the temporary file's place. -/
theorem Store.places_of_failed (store : Store) (unlinked : tree.TemporaryUnlinked path)
    (failed : (store.saveTo tree path stamp).value = .error fault) :
    ∀ change ∈ (store.saveTo tree path stamp).changes, ∃ hole,
      tree.TemporaryPlace path hole ∧ change.places = [hole] := by
  by_cases empty : path = ""
  · have nothing : (store.saveTo tree path stamp).changes = [] := by
      rw [saveTo, if_pos empty]
      rfl
    simp [nothing]
  · obtain ⟨value, same⟩ := store.saveTo_eq tree empty stamp
    rw [value] at failed
    rw [same]
    cases ended : (Files.Action.replaceFile path (store.fileContent stamp) tree).result with
    | ok _ =>
      rw [ended] at failed
      cases failed
    | error cause => exact Files.Action.places_of_failed unlinked ended

/-- There are no changes, or they are those of a save to one of the paths that fails. -/
def InVain (tree : Files.Tree) (stamp : String) (about : String → Prop)
    (changes : List Files.Change) : Prop :=
  changes = [] ∨ ∃ (store : Store) (path : String) (fault : Fault), about path ∧
    (store.saveTo tree path stamp).value = .error fault ∧
    (store.saveTo tree path stamp).changes = changes

/-- Changes in vain come to nothing, and are about the places of temporary files alone. -/
theorem InVain.undone (vain : InVain tree stamp about changes) (wellFormed : tree.WellFormed)
    (free : ∀ path, about path → tree.TemporaryFree path) :
    (tree.applyAll changes).workingDirectory = tree.workingDirectory ∧
      (∀ place, (tree.applyAll changes).find? place = tree.find? place) ∧
      ∀ change ∈ changes, ∃ path hole, about path ∧ tree.TemporaryPlace path hole ∧
        change.places = [hole] := by
  rcases vain with rfl | ⟨store, path, fault, named, failed, rfl⟩
  · exact ⟨rfl, fun _ => rfl, by simp⟩
  · have saved := store.saveTo_changes_goal wellFormed (free path named) stamp
    simp only [failed] at saved
    refine ⟨saved.1, saved.2.1, ?_⟩
    intro change member
    obtain ⟨hole, aside, places⟩ :=
      store.places_of_failed (free path named).clear.unlinked failed change member
    exact ⟨path, hole, named, aside, places⟩

theorem InVain.mono {aim : String → Prop} (vain : InVain tree stamp aim changes)
    (aimed : ∀ path, aim path → about path) : InVain tree stamp about changes := by
  rcases vain with nothing | ⟨store, path, fault, named, saved⟩
  · exact .inl nothing
  · exact .inr ⟨store, path, fault, aimed path named, saved⟩

namespace Command

private theorem guardedSave_inVain (setting : Setting) (store : Store)
    (failed : (guardedSave setting store).value = .error fault) :
    InVain setting.tree setting.stamp (store.defaultPath = some ·)
      (guardedSave setting store).changes := by
  rcases guardedSave_cases setting store with ⟨refused, nothing⟩ | ⟨path, known, same⟩
  · rw [nothing]
    exact .inl rfl
  · rw [same] at failed ⊢
    exact .inr ⟨store, path, fault, known, failed, rfl⟩

private theorem perform_inVain (setting : Setting) (store : Store) {command : Command}
    (spared : (∃ failure, (perform setting store command).value.result = .error failure) ∨
      ¬ command.Saves) :
    InVain setting.tree setting.stamp (store.defaultPath = some ·)
      (perform setting store command).changes := by
  by_cases saves : command.Saves
  · obtain ⟨failure, failed⟩ := spared.resolve_right (not_not_intro saves)
    rcases perform_saves setting store saves with ⟨nothing, _⟩ | ⟨changes, ended⟩
    · exact .inl nothing
    · rw [changes]
      rw [failed] at ended
      cases value : (guardedSave setting
          { store with properties := effect store.properties command }).value with
      | ok _ =>
        rw [value] at ended
        cases ended
      | error fault => exact guardedSave_inVain setting _ value
  · exact .inl (perform_reads setting store saves)

theorem carryOut_inVain (invocation : Usage.Invocation) (home : Option String)
    (tree : Files.Tree) (stamp : String) (access : Access) :
    let report := carryOut invocation tree stamp (Program.sharedStore home tree access) access
    ((∃ failure, report.value = .error failure) ∨ ¬ invocation.command.Saves) →
      InVain tree stamp (invocation.IsAbout home) report.changes := by
  intro report spared
  cases opened : (invocation.opening home tree access).value with
  | error fault =>
    have quiet := (invocation.told_opening home tree access).quiet
    rw [show report = _ from carryOut_unopened opened stamp]
    exact .inl quiet.changesOf_eq
  | ok store =>
    rw [show report = _ from carryOut_opened opened stamp] at spared
    rw [show report.changes = _ from changes_carryOut opened stamp]
    exact (perform_inVain _ store spared).mono fun path =>
      (invocation.defaultPath_opening home opened path).mp

end Command

end PropertyStore
