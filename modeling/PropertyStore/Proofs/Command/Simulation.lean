import PropertyStore.Proofs.Command.Ending

namespace PropertyStore.Command

open Store (holding)

variable {tree : Files.Tree} {path : String} {properties : Properties} {setting : Setting}

/-- A command that saves fails without a change of files, or it ends as saving what it makes of the
properties does. -/
theorem perform_saves (setting : Setting) (store : Store) {command : Command}
    (saves : command.Saves) :
    let report := perform setting store command
    let saving := guardedSave setting { store with properties := effect store.properties command }
    (report.changes = [] ∧ ∃ failure, report.value.result = .error failure) ∨
      (report.changes = saving.changes ∧
        report.value.result = saving.value.mapError Failure.store) := by
  intro report saving
  by_cases reaches : command.ReachesSave
  · obtain ⟨value, changes, _⟩ := perform_reaching setting store reaches
    exact .inr ⟨changes, congrArg Outcome.result value⟩
  · obtain ⟨_, spoken, fails⟩ := perform_unreaching setting store reaches
    obtain ⟨bad, failed⟩ := fails saves
    exact .inl ⟨spoken.changesOf_eq, _, failed⟩

theorem perform_reads (setting : Setting) (store : Store) {command : Command}
    (reads : ¬ command.Saves) : (perform setting store command).changes = [] :=
  (perform_reading setting store reads).2.changesOf_eq

/-- A command that changes a store fails without a change of files, or it ends as saving what
it makes of the map does. -/
theorem perform_cases (setting : Setting) (path : String) (properties : Properties)
    (command : Command) (changing : answer? path setting.verbose properties command = none) :
    let report := perform setting (holding path properties) command
    let saving := (holding path (effect properties command)).saveTo setting.tree path setting.stamp
    (report.changes = [] ∧ ∃ failure, report.value.result = .error failure) ∨
      (report.changes = saving.changes ∧
        report.value.result = saving.value.mapError Failure.store) := by
  apply perform_saves setting (holding path properties)
  cases command with
  | get key default type =>
    rw [answer?] at changing
    split at changing <;> cases changing
  | list format => cases changing
  | check keys => cases changing
  | version format => cases changing
  | _ => trivial

/-- What a file holds after a command on its store: what the command makes of the map if it
succeeds, and else the same as before. -/
theorem perform_holds (ready : tree.Ready path) (holds : Holds tree path properties)
    (time : Calendar) (verbose auditAsObjects : Bool) (command : Command) :
    let report := perform ⟨tree, time.stamp, verbose, auditAsObjects⟩ (holding path properties) command
    let after := tree.applyAll report.changes
    after.Ready path ∧ Holds after path
      (if report.value.result.isOk then effect properties command else properties) := by
  intro report after
  cases answered : answer? path verbose properties command with
  | some answer =>
    obtain ⟨_, notices⟩ := perform_holding ⟨tree, time.stamp, verbose, auditAsObjects⟩ answered
    have unchanged : after = tree := by
      simp only [after, report, Report.changes_eq, notices, changesOf_append, changesOf_lines,
        changesOf_complaints]
      rfl
    have same : effect properties command = properties := by
      cases command <;> first | rfl | cases answered
    rw [unchanged, same, ite_self]
    exact ⟨ready, holds⟩
  | none =>
    rcases perform_cases ⟨tree, time.stamp, verbose, auditAsObjects⟩ path properties command answered
      with ⟨unchanged, failure, failed⟩ | ⟨changes, ended⟩
    · simp only [after, report, unchanged, failed]
      exact ⟨ready, holds⟩
    · have saved := Store.saveTo_holds (holding path (effect properties command)) time ready holds
      simp only [after, report, changes, ended]
      cases value : ((holding path (effect properties command)).saveTo tree path time.stamp).value <;>
        simp only [value] at saved <;> exact saved

end PropertyStore.Command
