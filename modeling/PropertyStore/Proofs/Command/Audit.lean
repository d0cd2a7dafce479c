import PropertyStore.Proofs.Command.Refusal

/-! The audit trail. A command leaves an entry in it if and only if it gets as far as saving, and then
just one. What the entry says is what the save came to, and what the caller is told. It is not always
what has become of the file: a save that finds a link under the temporary file's name ends well and
puts that link in the file's place. -/

namespace PropertyStore.Command

variable {tree : Files.Tree} {command : Command} {store : Store} {setting : Setting}

/-- An audit entry says of a command on a store what the files and the command's end say. -/
structure Truthful (setting : Setting) (store : Store) (command : Command)
    (report : Report (Except Failure Unit)) (entry : Log.AuditEntry) : Prop where
  operation : entry.operation = command.word
  target : entry.target = store.defaultPath.getD "<none>"
  /-- That all is well means that the text of the store, as the command has left it, was written. -/
  written : entry.result = "ok" ↔ OwnFileWritten setting
    { store with properties := effect store.properties command } report.changes
  /-- The store's file stands there after it unless a link had the temporary file's name. -/
  stands : OwnFileStands setting
      { store with properties := effect store.properties command } report.changes ↔
    entry.result = "ok" ∧ OwnNameUnlinked setting store
  /-- And it means that the command succeeds. -/
  succeeds : entry.result = "ok" ↔ report.value = .ok ()
  /-- Otherwise the entry has the text of the fault that the command ends with. -/
  fails : entry.result ≠ "ok" → entry.result = "failed" ∧
    ∃ fault, report.value = .error (.store fault) ∧ entry.details = fault.message

/-- The audit trail of a command on a store is complete and truthful. -/
structure Accounted (setting : Setting) (store : Store) (command : Command)
    (report : Report (Except Failure Unit)) : Prop where
  /-- A command that reads leaves no entry, and neither does one whose expressions are turned down. -/
  silent : ¬ command.ReachesSave → auditsOf report.notices = [] ∧ report.changes = [] ∧
    (command.Saves → ∃ bad, report.value = .error (.store (.badExpression bad)))
  /-- One that gets as far as saving leaves one. -/
  told : command.ReachesSave → ∃ entry, auditsOf report.notices = [entry] ∧
    Truthful setting store command report entry

private theorem auditsOf_told (told : Told Log.Event.OfLoading notices) :
    auditsOf notices = [] := by
  rw [auditsOf, List.filterMap_eq_nil_iff]
  intro notice member
  obtain ⟨event, rfl, loading⟩ := told notice member
  cases event with
  | audit entry asObject => exact loading.elim
  | _ => rfl

private theorem truthful_of_tells {report : Report (Except Failure Unit)} {entry : Log.AuditEntry}
    {saved : Except Fault Unit} (tells : entry.Tells command.word (shownPath store) saved)
    (value : report.value = saved.mapError Failure.store)
    (written : report.value = .ok () ↔ OwnFileWritten setting
      { store with properties := effect store.properties command } report.changes)
    (stands : OwnFileStands setting
        { store with properties := effect store.properties command } report.changes ↔
      report.value = .ok () ∧ OwnNameUnlinked setting store) :
    Truthful setting store command report entry := by
  have succeeds : entry.result = "ok" ↔ report.value = .ok () := by
    rw [value]
    cases saved with
    | error fault =>
      rw [(tells.failed fault rfl).1]
      exact iff_of_false (by decide) (by rintro ⟨⟩)
    | ok done => exact iff_of_true (tells.ok rfl) rfl
  refine ⟨tells.operation, tells.target, succeeds.trans written,
    stands.trans (and_congr_left' succeeds.symm), succeeds, ?_⟩
  intro other
  cases saved with
  | error fault =>
    obtain ⟨result, details⟩ := tells.failed fault rfl
    exact ⟨result, fault, value, details⟩
  | ok done => exact (other (tells.ok rfl)).elim

private theorem accounted_perform (wellFormed : setting.tree.WellFormed) (store : Store)
    (command : Command) :
    Accounted setting store command ((perform setting store command).map Outcome.result) := by
  constructor
  · intro unreached
    obtain ⟨_, spoken, fails⟩ := perform_unreaching setting store unreached
    exact ⟨spoken.auditsOf_eq, spoken.changesOf_eq, fails⟩
  · intro reaches
    obtain ⟨value, _, entry, audits, tells⟩ := perform_reaching setting store reaches
    have written := perform_ok_iff_written wellFormed store reaches
    have stands := perform_stands_iff wellFormed store reaches
    exact ⟨entry, audits, truthful_of_tells tells (congrArg Outcome.result value) written stands⟩

/-- What is said to the log before the command does not count. -/
theorem Accounted.after {opening : List Notice} {report : Report (Except Failure Unit)}
    (accounted : Accounted setting store command report)
    (told : Told Log.Event.OfLoading opening) :
    Accounted setting store command ⟨report.value, opening ++ report.notices⟩ := by
  have audits : auditsOf (opening ++ report.notices) = auditsOf report.notices := by
    rw [auditsOf_append, auditsOf_told told, List.nil_append]
  have changes : changesOf (opening ++ report.notices) = changesOf report.notices := by
    rw [changesOf_append, told.quiet.changesOf_eq, List.nil_append]
  constructor
  · intro unreached
    rw [audits, Report.changes_eq, changes]
    exact accounted.silent unreached
  · intro reaches
    obtain ⟨entry, only, truthful⟩ := accounted.told reaches
    refine ⟨entry, audits.trans only, truthful.operation, truthful.target, ?_, ?_,
      truthful.succeeds, truthful.fails⟩
    · rw [Report.changes_eq, changes]
      exact truthful.written
    · rw [Report.changes_eq, changes]
      exact truthful.stands

/-- The audit trail is complete and truthful for every command on every store, and for every
invocation as well: the store is that of the file which the invocation is about, and if that cannot
be opened, the invocation fails and leaves no entry. -/
theorem audit_trail_truthful (wellFormed : tree.WellFormed) (stamp : String) :
    (∀ verbose auditAsObjects store command,
        let setting : Setting := ⟨tree, stamp, verbose, auditAsObjects⟩
        Accounted setting store command ((perform setting store command).map Outcome.result)) ∧
      ∀ (invocation : Usage.Invocation) (home : Option String) (access : Access),
        let report := carryOut invocation tree stamp (Program.sharedStore home tree access) access
        match (invocation.opening home tree access).value with
        | .error fault =>
          report.value = .error (.store fault) ∧ auditsOf report.notices = [] ∧ report.changes = []
        | .ok store =>
          (∀ path, store.defaultPath = some path ↔ invocation.IsAbout home path) ∧
            Accounted (Setting.ofInvocation invocation tree stamp) store invocation.command report := by
  constructor
  · intro verbose auditAsObjects store command setting
    exact accounted_perform (show setting.tree.WellFormed from wellFormed) store command
  · intro invocation home access report
    have told := invocation.told_opening home tree access
    cases opened : (invocation.opening home tree access).value with
    | error fault =>
      rw [show report = _ from carryOut_unopened opened stamp]
      exact ⟨rfl, auditsOf_told told, told.quiet.changesOf_eq⟩
    | ok store =>
      rw [show report = _ from carryOut_opened opened stamp]
      refine ⟨fun path => invocation.defaultPath_opening home opened path, ?_⟩
      have accounted := accounted_perform
        (show (Setting.ofInvocation invocation tree stamp).tree.WellFormed from wellFormed) store
        invocation.command
      exact accounted.after told

theorem audit_trail_truthful_linked :
    let invocation : Usage.Invocation :=
      { file := some "p", logLevel := .warn, logFile := none, logFormat := .text, verbose := false
        command := .remove ["a"] }
    let report := carryOut invocation linkedTree Store.epoch.stamp
      (Program.sharedStore none linkedTree .granted) .granted
    linkedTree.WellFormed ∧ report.value = .ok () ∧ ∃ entry, auditsOf report.notices = [entry] ∧
      entry.operation = "remove" ∧ entry.target = "p" ∧ entry.result = "ok" := by
  intro invocation report
  have ended : report.value = .ok () := by
    decide +kernel
  have trail := (audit_trail_truthful linkedTree_wellFormed Store.epoch.stamp).2 invocation none
    .granted
  cases opened : (invocation.opening none linkedTree .granted).value with
  | error fault =>
    rw [opened] at trail
    cases ended.symm.trans trail.1
  | ok store =>
    rw [opened] at trail
    obtain ⟨default, accounted⟩ := trail
    obtain ⟨entry, only, truthful⟩ := accounted.told trivial
    have target : entry.target = "p" := by
      rw [truthful.target, (default "p").mpr (.inl rfl)]
      rfl
    exact ⟨linkedTree_wellFormed, ended, entry, only, truthful.operation, target,
      truthful.succeeds.mpr ended⟩

/-- The trail says that all is well where the file that was to be written is gone: its name is that of
a link to itself. -/
theorem audit_trail_mirrored :
    let invocation : Usage.Invocation :=
      { file := some "f", logLevel := .warn, logFile := none, logFormat := .text, verbose := false
        command := .set ["k=v"] }
    let report := carryOut invocation Store.mirroredTree Store.epoch.stamp
      (Program.sharedStore none Store.mirroredTree .granted) .granted
    let setting := Setting.ofInvocation invocation Store.mirroredTree Store.epoch.stamp
    Store.mirroredTree.WellFormed ∧ report.value = .ok () ∧
      (auditsOf report.notices).map (·.result) = ["ok"] ∧
      (Store.mirroredTree.applyAll report.changes).find? ["f"] = some (.link "f") ∧
      ∀ store, store.defaultPath = some "f" → ¬ OwnFileStands setting store report.changes := by
  intro invocation report setting
  refine ⟨Store.mirroredTree_wellFormed, by decide +kernel, by decide +kernel, by decide +kernel, ?_⟩
  rintro store known ⟨path, also, stands⟩
  cases known.symm.trans also
  obtain ⟨goal, mode, _, leads, _⟩ := stands.goal
  have circular : (Store.mirroredTree.applyAll report.changes).resolve .find "f" =
      .error .linkLoop := by
    decide +kernel
  cases circular.symm.trans leads

end PropertyStore.Command
