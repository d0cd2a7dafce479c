import PropertyStore.Proofs.Command.Effect
import PropertyStore.Proofs.Store.Request
import PropertyStore.Proofs.Store.Written

/-! How a command on a store ends. A command that gets as far as saving has changed the store by
then, ends as the save does, and leaves one audit entry, which tells what came of it. A command that
does not get so far leaves the store and the files alone, and has nothing to say to the log. -/

namespace PropertyStore

/-- An audit entry tells what came of saving for an operation. -/
structure Log.AuditEntry.Tells (entry : Log.AuditEntry) (operation target : String)
    (saved : Except Fault Unit) : Prop where
  operation : entry.operation = operation
  target : entry.target = target
  ok : saved = .ok () → entry.result = "ok"
  failed : ∀ fault, saved = .error fault → entry.result = "failed" ∧ entry.details = fault.message

namespace Command

variable {command : Command}

/-- Changes of a tree write a store's text for its own path. -/
def OwnFileWritten (setting : Setting) (store : Store) (changes : List Files.Change) : Prop :=
  ∃ path, store.defaultPath = some path ∧ store.Written setting.tree path setting.stamp changes

/-- Changes of a tree write a store's own file, so that it stands there afterwards. -/
def OwnFileStands (setting : Setting) (store : Store) (changes : List Files.Change) : Prop :=
  ∃ path, store.defaultPath = some path ∧ store.Stands setting.tree path setting.stamp changes

/-- No link stands under the name of the temporary file of a store's own file. -/
def OwnNameUnlinked (setting : Setting) (store : Store) : Prop :=
  ∀ path, store.defaultPath = some path → setting.tree.TemporaryUnlinked path

/-- Saving a store to its file fails before anything is done, or it is a save to the store's path. -/
theorem guardedSave_cases (setting : Setting) (store : Store) :
    (∃ fault, guardedSave setting store = ⟨.error fault, []⟩) ∨
      ∃ path, store.defaultPath = some path ∧
        guardedSave setting store = store.saveTo setting.tree path setting.stamp := by
  cases refused : store.loadFailure with
  | some reason => exact .inl ⟨_, by rw [guardedSave, refused]⟩
  | none =>
    cases known : store.defaultPath with
    | none =>
      exact .inl ⟨.noDefaultPath, by simp only [guardedSave, refused, Store.saveDefault, known]⟩
    | some path =>
      exact .inr ⟨path, rfl, by simp only [guardedSave, refused, Store.saveDefault, known]⟩

private theorem guardedSave_written_iff {setting : Setting} (wellFormed : setting.tree.WellFormed)
    (store : Store) :
    let saving := guardedSave setting store
    saving.value = .ok () ↔ OwnFileWritten setting store saving.changes := by
  intro saving
  rcases guardedSave_cases setting store with ⟨fault, failed⟩ | ⟨path, known, same⟩
  · rw [show saving = _ from failed]
    refine iff_of_false (by rintro ⟨⟩) ?_
    rintro ⟨path, _, written⟩
    exact store.not_written_nil _ _ _ written
  · rw [show saving = _ from same]
    refine (store.saveTo_written_iff wellFormed path setting.stamp).trans
      ⟨fun written => ⟨path, known, written⟩, ?_⟩
    rintro ⟨other, also, written⟩
    cases known.symm.trans also
    exact written

private theorem guardedSave_stands_iff {setting : Setting} (wellFormed : setting.tree.WellFormed)
    (store : Store) :
    let saving := guardedSave setting store
    OwnFileStands setting store saving.changes ↔
      saving.value = .ok () ∧ OwnNameUnlinked setting store := by
  intro saving
  rcases guardedSave_cases setting store with ⟨fault, failed⟩ | ⟨path, known, same⟩
  · rw [show saving = _ from failed]
    refine iff_of_false ?_ (by rintro ⟨⟨⟩, _⟩)
    rintro ⟨path, _, stands⟩
    exact store.not_written_nil _ _ _ stands.written
  · rw [show saving = _ from same]
    have whole := store.saveTo_stands_iff wellFormed path setting.stamp
    constructor
    · rintro ⟨other, also, stands⟩
      cases known.symm.trans also
      obtain ⟨ended, unlinked⟩ := whole.mp stands
      refine ⟨ended, fun other also => ?_⟩
      cases known.symm.trans also
      exact unlinked
    · rintro ⟨ended, unlinked⟩
      exact ⟨path, known, whole.mpr ⟨ended, unlinked path known⟩⟩

private theorem auditsOf_guardedSave (setting : Setting) (store : Store) :
    auditsOf (guardedSave setting store).notices = [] := by
  rcases guardedSave_cases setting store with ⟨fault, failed⟩ | ⟨path, _, same⟩
  · rw [failed]
    rfl
  · rw [same, Store.saveTo]
    split
    · rfl
    · dsimp only
      split
      · exact auditsOf_changes _
      · rw [auditsOf_append, auditsOf_changes]
        rfl

/-- Saving for an operation is saving, and leaving an audit entry of it. -/
theorem auditedSave_eq (setting : Setting) (store : Store) (operation details : String) :
    let saving := guardedSave setting store
    let audited := auditedSave setting store operation details
    audited.value = saving.value ∧ audited.changes = saving.changes ∧
      ∃ entry, auditsOf audited.notices = [entry] ∧
        entry.Tells operation (shownPath store) saving.value := by
  intro saving audited
  refine ⟨rfl, ?_, ?_⟩
  · simp only [audited, auditedSave]
    rw [Report.changes_eq, changesOf_append, (quiet_event _).changesOf_eq, List.append_nil]
    rfl
  · simp only [audited, auditedSave, auditsOf_append, auditsOf_guardedSave, List.nil_append]
    refine ⟨_, rfl, ?_⟩
    simp only [saving]
    cases (guardedSave setting store).value with
    | error fault =>
      refine ⟨rfl, rfl, by rintro ⟨⟩, ?_⟩
      rintro _ ⟨rfl⟩
      exact ⟨rfl, rfl⟩
    | ok done => exact ⟨rfl, rfl, fun _ => rfl, by rintro _ ⟨⟩⟩

private theorem finish_eq (setting : Setting) (store : Store) (operation details : String)
    (success : List String) :
    let saving := guardedSave setting store
    let ending := finish setting store operation details success
    ending.value = ⟨store, saving.value.mapError Failure.store⟩ ∧
      ending.changes = saving.changes ∧
      ∃ entry, auditsOf ending.notices = [entry] ∧
        entry.Tells operation (shownPath store) saving.value := by
  intro saving ending
  obtain ⟨value, changes, entry, audits, tells⟩ := auditedSave_eq setting store operation details
  have said : Spoken (if setting.verbose then success.map Notice.line else []) := by
    split
    · exact spoken_lines success
    · exact spoken_nil
  have ended : ending.value = ⟨store, saving.value.mapError Failure.store⟩ ∧
      ∃ words, Spoken words ∧
        ending.notices = (auditedSave setting store operation details).notices ++ words := by
    simp only [ending, finish, value, saving]
    cases (guardedSave setting store).value with
    | error fault => exact ⟨rfl, [], spoken_nil, (List.append_nil _).symm⟩
    | ok done => exact ⟨rfl, _, said, rfl⟩
  obtain ⟨value, words, spoken, notices⟩ := ended
  refine ⟨value, ?_, entry, ?_, tells⟩
  · rw [Report.changes_eq, notices, changesOf_append, spoken.changesOf_eq, List.append_nil]
    exact changes
  · rw [notices, auditsOf_append, spoken.auditsOf_eq, List.append_nil, audits]

private theorem foldl_remove (store : Store) (keys : List String) :
    keys.foldl Store.remove store = { store with
      properties := keys.foldl (fun current key => current.erase key) store.properties } := by
  induction keys generalizing store with
  | nil => rfl
  | cons key rest ih => exact ih _

private theorem spoken_absenceNotices (store : Store) (keys : List String) :
    Spoken (absenceNotices store keys) := by
  induction keys generalizing store with
  | nil => exact spoken_nil
  | cons key rest ih =>
    rw [absenceNotices]
    refine Spoken.append ?_ (ih _)
    split
    · exact spoken_nil
    · exact spoken_complaints [s!"属性不存在: {key}"]

/-- A command that gets as far as saving ends as saving what it makes of the properties does. -/
theorem perform_reaching (setting : Setting) (store : Store) (reaches : command.ReachesSave) :
    let report := perform setting store command
    let changed : Store := { store with properties := effect store.properties command }
    let saving := guardedSave setting changed
    report.value = ⟨changed, saving.value.mapError Failure.store⟩ ∧
      report.changes = saving.changes ∧
      ∃ entry, auditsOf report.notices = [entry] ∧
        entry.Tells command.word (shownPath store) saving.value := by
  intro report changed saving
  cases command with
  | set expressions =>
    have complete : expressions.find? (fun expression => !expression.toList.contains '=') = none := by
      simpa [ReachesSave] using reaches
    simp only [report, perform, setAll, complete, InPlace.run_setExpressions _ store reaches]
    exact finish_eq setting _ _ _ _
  | remove keys =>
    have spoken : Spoken (if setting.verbose then absenceNotices store keys else []) := by
      split
      · exact spoken_absenceNotices _ keys
      · exact spoken_nil
    simp only [report, perform, removeAll, foldl_remove, Report.changes_eq, changesOf_append,
      auditsOf_append, spoken.changesOf_eq, spoken.auditsOf_eq, List.nil_append]
    exact finish_eq setting _ _ _ _
  | clear => exact finish_eq setting _ _ _ _
  | _ => exact reaches.elim

theorem perform_ok_iff_written {setting : Setting} (wellFormed : setting.tree.WellFormed)
    (store : Store) (reaches : command.ReachesSave) :
    let report := perform setting store command
    report.value.result = .ok () ↔ OwnFileWritten setting
      { store with properties := effect store.properties command } report.changes := by
  intro report
  obtain ⟨value, changes, _⟩ := perform_reaching setting store reaches
  rw [show report.value = _ from value, show report.changes = _ from changes, mapError_eq_ok_iff]
  exact guardedSave_written_iff wellFormed _

theorem perform_stands_iff {setting : Setting} (wellFormed : setting.tree.WellFormed)
    (store : Store) (reaches : command.ReachesSave) :
    let report := perform setting store command
    OwnFileStands setting { store with properties := effect store.properties command }
        report.changes ↔
      report.value.result = .ok () ∧ OwnNameUnlinked setting store := by
  intro report
  obtain ⟨value, changes, _⟩ := perform_reaching setting store reaches
  rw [show report.value = _ from value, show report.changes = _ from changes, mapError_eq_ok_iff]
  exact guardedSave_stands_iff wellFormed { store with properties := effect store.properties command }

theorem perform_reading (setting : Setting) (store : Store) (reads : ¬ command.Saves) :
    let report := perform setting store command
    report.value.store = store ∧ Spoken report.notices := by
  intro report
  cases command with
  | get key default type =>
    simp only [report, perform]
    split
    · exact ⟨rfl, spoken_lines [_]⟩
    · exact ⟨rfl, spoken_nil⟩
  | list format => exact ⟨rfl, spoken_lines _⟩
  | check keys =>
    refine ⟨rfl, ?_⟩
    change Spoken (checkAll store keys).notices
    rw [checkAll]
    split
    · exact spoken_lines [_]
    · have complained := spoken_complaints
        ((keys.filter fun key => !(store.require key).isOk).map fun key => s!"✗ 缺少必需属性: {key}")
      simpa [Function.comp_def] using complained
  | version format => exact ⟨rfl, spoken_lines _⟩
  | _ => exact (reads trivial).elim

/-- The first expression without a `=` is what the setting of several is turned down for, before
anything is done. -/
theorem perform_set_bad (setting : Setting) (store : Store) {expressions : List String}
    {bad : String}
    (found : expressions.find? (fun expression => !expression.toList.contains '=') = some bad) :
    perform setting store (.set expressions) =
      ⟨⟨store, .error (.store (.badExpression bad))⟩, []⟩ := by
  rw [perform, setAll, found]

/-- A command that does not get as far as saving changes nothing and has nothing but words to say.
One that would have saved fails for an expression without a `=`. -/
theorem perform_unreaching (setting : Setting) (store : Store) (unreached : ¬ command.ReachesSave) :
    let report := perform setting store command
    report.value.store = store ∧ Spoken report.notices ∧
      (command.Saves → ∃ bad, report.value.result = .error (.store (.badExpression bad))) := by
  intro report
  by_cases saves : command.Saves
  · cases command with
    | set expressions =>
      cases found : expressions.find? fun expression => !expression.toList.contains '=' with
      | none => exact (unreached (by simpa [ReachesSave] using found)).elim
      | some bad =>
        rw [show report = _ from perform_set_bad setting store found]
        exact ⟨rfl, spoken_nil, fun _ => ⟨bad, rfl⟩⟩
    | remove keys => exact (unreached trivial).elim
    | clear => exact (unreached trivial).elim
    | _ => exact saves.elim
  · obtain ⟨same, spoken⟩ := perform_reading setting store saves
    exact ⟨same, spoken, fun also => (saves also).elim⟩

end Command

end PropertyStore
