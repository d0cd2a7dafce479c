import PropertyStore.Report

namespace PropertyStore

/-- Notices that are only for the log. -/
def Quiet (notices : List Notice) : Prop :=
  ∀ notice ∈ notices, ∃ event, notice = .event event

theorem quiet_event (event : Log.Event) : Quiet [.event event] := by
  intro notice member
  exact ⟨event, List.mem_singleton.mp member⟩

/-- Notices that are only for the log, and all events of a kind. -/
def Told (kind : Log.Event → Prop) (notices : List Notice) : Prop :=
  ∀ notice ∈ notices, ∃ event, notice = .event event ∧ kind event

variable {kind : Log.Event → Prop}

theorem told_nil : Told kind [] := by
  intro notice member
  cases member

theorem told_event {event : Log.Event} (apt : kind event) : Told kind [.event event] := by
  intro notice member
  exact ⟨event, List.mem_singleton.mp member, apt⟩

namespace Told

theorem append (first : Told kind before) (second : Told kind after) :
    Told kind (before ++ after) := by
  intro notice member
  rcases List.mem_append.mp member with early | late
  · exact first notice early
  · exact second notice late

theorem quiet (told : Told kind notices) : Quiet notices := by
  intro notice member
  obtain ⟨event, same, _⟩ := told notice member
  exact ⟨event, same⟩

end Told

theorem mapError_eq_ok_iff (result : Except ε α) (rename : ε → ε') (value : α) :
    result.mapError rename = .ok value ↔ result = .ok value := by
  cases result with
  | error fault => exact iff_of_false (by rintro ⟨⟩) (by rintro ⟨⟩)
  | ok found =>
    change Except.ok found = .ok value ↔ _
    rw [Except.ok.injEq, Except.ok.injEq]

namespace Report

theorem andThen_value (report : Report (Except ε α)) (next : α → Report (Except ε β)) :
    (report.andThen next).value = match report.value with
      | .error fault => .error fault
      | .ok value => (next value).value := by
  rw [andThen]
  cases report.value <;> rfl

private theorem andThen_notices (report : Report (Except ε α)) (next : α → Report (Except ε β)) :
    (report.andThen next).notices = match report.value with
      | .error _ => report.notices
      | .ok value => report.notices ++ (next value).notices := by
  rw [andThen]
  cases report.value <;> rfl

theorem told_andThen {report : Report (Except ε α)} {next : α → Report (Except ε β)}
    (first : Told kind report.notices) (second : ∀ value, Told kind (next value).notices) :
    Told kind (report.andThen next).notices := by
  rw [andThen_notices]
  cases report.value with
  | error fault => exact first
  | ok value => exact first.append (second value)

end Report

/-- Notices that are only words. -/
def Spoken (notices : List Notice) : Prop :=
  ∀ notice ∈ notices, (∃ text, notice = .line text) ∨ ∃ text, notice = .complaint text

theorem spoken_nil : Spoken [] := by
  intro notice member
  cases member

theorem spoken_lines (lines : List String) : Spoken (lines.map Notice.line) := by
  intro notice member
  obtain ⟨text, _, rfl⟩ := List.mem_map.mp member
  exact .inl ⟨text, rfl⟩

theorem spoken_complaints (lines : List String) : Spoken (lines.map Notice.complaint) := by
  intro notice member
  obtain ⟨text, _, rfl⟩ := List.mem_map.mp member
  exact .inr ⟨text, rfl⟩

theorem Spoken.append (first : Spoken before) (second : Spoken after) :
    Spoken (before ++ after) := by
  intro notice member
  rcases List.mem_append.mp member with early | late
  · exact first notice early
  · exact second notice late

def auditsOf (notices : List Notice) : List Log.AuditEntry :=
  notices.filterMap fun
    | .event (.audit entry _) => some entry
    | _ => none

theorem auditsOf_append (first second : List Notice) :
    auditsOf (first ++ second) = auditsOf first ++ auditsOf second :=
  List.filterMap_append

def changesOf (notices : List Notice) : List Files.Change := (⟨(), notices⟩ : Report Unit).changes

def linesOf (notices : List Notice) : List String := (⟨(), notices⟩ : Report Unit).output

def complaintsOf (notices : List Notice) : List String := (⟨(), notices⟩ : Report Unit).complaints

theorem Report.changes_eq (report : Report α) : report.changes = changesOf report.notices :=
  rfl

theorem Report.output_eq (report : Report α) : report.output = linesOf report.notices :=
  rfl

theorem Report.complaints_eq (report : Report α) : report.complaints = complaintsOf report.notices :=
  rfl

theorem changesOf_append (first second : List Notice) :
    changesOf (first ++ second) = changesOf first ++ changesOf second :=
  List.filterMap_append

theorem linesOf_append (first second : List Notice) :
    linesOf (first ++ second) = linesOf first ++ linesOf second :=
  List.filterMap_append

theorem complaintsOf_append (first second : List Notice) :
    complaintsOf (first ++ second) = complaintsOf first ++ complaintsOf second :=
  List.filterMap_append

theorem changesOf_changes (changes : List Files.Change) :
    changesOf (changes.map Notice.change) = changes := by
  rw [changesOf, Report.changes, List.filterMap_map]
  exact List.filterMap_some

theorem changesOf_lines (lines : List String) : changesOf (lines.map Notice.line) = [] := by
  simp [changesOf, Report.changes]

theorem changesOf_complaints (lines : List String) :
    changesOf (lines.map Notice.complaint) = [] := by
  simp [changesOf, Report.changes]

theorem linesOf_lines (lines : List String) : linesOf (lines.map Notice.line) = lines := by
  rw [linesOf, Report.output, List.filterMap_map]
  exact List.filterMap_some

theorem linesOf_complaints (lines : List String) : linesOf (lines.map Notice.complaint) = [] := by
  simp [linesOf, Report.output]

theorem complaintsOf_lines (lines : List String) : complaintsOf (lines.map Notice.line) = [] := by
  simp [complaintsOf, Report.complaints]

theorem complaintsOf_complaints (lines : List String) :
    complaintsOf (lines.map Notice.complaint) = lines := by
  rw [complaintsOf, Report.complaints, List.filterMap_map]
  exact List.filterMap_some

namespace Quiet

theorem filterMap_eq_nil (quiet : Quiet notices) {choose : Notice → Option α}
    (unseen : ∀ event, choose (.event event) = none) : notices.filterMap choose = [] := by
  rw [List.filterMap_eq_nil_iff]
  intro notice member
  obtain ⟨event, rfl⟩ := quiet notice member
  exact unseen event

theorem changesOf_eq (quiet : Quiet notices) : changesOf notices = [] :=
  quiet.filterMap_eq_nil fun _ => rfl

theorem linesOf_eq (quiet : Quiet notices) : linesOf notices = [] :=
  quiet.filterMap_eq_nil fun _ => rfl

theorem complaintsOf_eq (quiet : Quiet notices) : complaintsOf notices = [] :=
  quiet.filterMap_eq_nil fun _ => rfl

end Quiet

namespace Spoken

theorem filterMap_eq_nil (spoken : Spoken notices) {choose : Notice → Option α}
    (line : ∀ text, choose (.line text) = none)
    (complaint : ∀ text, choose (.complaint text) = none) : notices.filterMap choose = [] := by
  rw [List.filterMap_eq_nil_iff]
  intro notice member
  rcases spoken notice member with ⟨text, rfl⟩ | ⟨text, rfl⟩
  · exact line text
  · exact complaint text

theorem changesOf_eq (spoken : Spoken notices) : changesOf notices = [] :=
  spoken.filterMap_eq_nil (fun _ => rfl) fun _ => rfl

theorem auditsOf_eq (spoken : Spoken notices) : auditsOf notices = [] :=
  spoken.filterMap_eq_nil (fun _ => rfl) fun _ => rfl

end Spoken

theorem auditsOf_changes (changes : List Files.Change) :
    auditsOf (changes.map Notice.change) = [] := by
  simp [auditsOf]

end PropertyStore
