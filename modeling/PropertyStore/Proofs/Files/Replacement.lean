import PropertyStore.Proofs.Files.Action
import PropertyStore.Proofs.Files.Change

namespace PropertyStore.Files

variable {tree : Tree} {path temporary : String} {place : Place} {replacement : Replacement}

/-- No symbolic link stands where a path's last name does. -/
def Tree.Unlinked (tree : Tree) (path : String) : Prop :=
  ∀ place slashed, tree.slot path = .ok (place, slashed) →
    ∀ text, tree.find? place ≠ some (.link text)

/-- The permission bits of what is opened anew at a place: those of the file that is there, or
those of a new file. -/
def Tree.modeAnew (tree : Tree) (place : Place) : Nat :=
  ((tree.find? place).bind Entry.mode?).getD newFileMode

theorem Entry.takes_truncated {entry : Entry} (plain : entry.link? = none)
    (outside : ∀ mode, entry ≠ .directory mode) :
    Entry.Takes [] (entry.mode?.getD newFileMode) entry.truncated := by
  cases entry with
  | directory mode => exact (outside mode rfl).elim
  | file content mode => exact .file
  | link target => simp [Entry.link?] at plain
  | device => exact .device

/-- A file or device that was opened anew, or a new file, and so is empty. -/
structure Opened (tree : Tree) (path : String) (place : Place) (entry : Entry) (change : Change) :
    Prop where
  outside : tree.isDirectory place = false
  takes : Entry.Takes [] (tree.modeAnew place) entry
  result : Action.openFile path true tree = ⟨[change], .ok place⟩
  changed : ChangedAt tree place (some entry) (tree.apply change)

theorem opened_free (located : tree.locate .create path = .ok (.free place))
    (free : tree.find? place = none) :
    Opened tree path place (.file [] newFileMode) (.create place) := by
  have outside : tree.isDirectory place = false := by simp [Tree.isDirectory, free]
  have bits : tree.modeAnew place = newFileMode := by simp [Tree.modeAnew, free]
  exact ⟨outside, bits ▸ .file, Action.openFile_free located,
    ChangedAt.put (Tree.ne_nil_of_outside outside)⟩

theorem opened_entry {entry : Entry} (located : tree.locate .create path = .ok (.existing place))
    (found : tree.find? place = some entry) (plain : entry.link? = none)
    (outside : tree.isDirectory place = false) :
    Opened tree path place entry.truncated (.truncate place) := by
  have closed : ∀ mode, entry ≠ .directory mode := by
    intro mode same
    simp [Tree.isDirectory, found, same] at outside
  have bits : tree.modeAnew place = entry.mode?.getD newFileMode := by
    simp [Tree.modeAnew, found]
  exact ⟨outside, bits ▸ Entry.takes_truncated plain closed, Action.openFile_anew located outside,
    ChangedAt.revise (Tree.ne_nil_of_outside outside) found _⟩

/-- What is written through a path goes to a place: the one that the path leads to, links followed,
whether or not anything stands there yet. -/
def Tree.OpensAt (tree : Tree) (path : String) (place : Place) : Prop :=
  tree.locate .create path = .ok (.free place) ∨ tree.locate .create path = .ok (.existing place)

theorem Tree.OpensAt.exists_destination (opens : tree.OpensAt path place) :
    ∃ destination, tree.locate .create path = .ok destination ∧
      (destination = .free place ∨ destination = .existing place) := by
  rcases opens with free | existing
  · exact ⟨_, free, .inl rfl⟩
  · exact ⟨_, existing, .inr rfl⟩

theorem Opened.opensAt {entry : Entry} {change : Change}
    (opened : Opened tree path place entry change) : tree.OpensAt path place := by
  have result := opened.result
  cases located : tree.locate .create path with
  | error fault => simp [Action.openFile_error located] at result
  | ok destination =>
    cases destination with
    | free spot =>
      simp only [Action.openFile_free located, Deed.mk.injEq, Except.ok.injEq] at result
      exact .inl (by rw [located, result.2])
    | existing spot =>
      cases inside : tree.isDirectory spot with
      | true => simp [Action.openFile_directory located inside] at result
      | false =>
        simp only [Action.openFile_anew located inside, Deed.mk.injEq, Except.ok.injEq] at result
        exact .inr (by rw [located, result.2])

theorem Tree.Unlinked.locate (unlinked : tree.Unlinked path) (names : Path.Names path above name [])
    (slot : tree.slot path = .ok (place, false)) (purpose : Purpose) :
    (tree.find? place = none ∧ tree.locate purpose path = .ok (.free place)) ∨
      ∃ entry, tree.find? place = some entry ∧ entry.link? = none ∧
        tree.locate purpose path = .ok (.existing place) := by
  cases found : tree.find? place with
  | none => exact .inl ⟨rfl, Tree.locate_free names slot found purpose⟩
  | some entry =>
    have plain : entry.link? = none := by
      cases entry with
      | link text => exact (unlinked place false slot text found).elim
      | _ => rfl
    exact .inr ⟨entry, rfl, plain, Tree.locate_entry names slot found plain purpose⟩

/-- At the place of a path's last name, if it has one, stands a directory. -/
def Tree.Barred (tree : Tree) (path : String) : Prop :=
  ∀ place slashed, tree.slot path = .ok (place, slashed) → tree.isDirectory place

/-- Opening a path anew fails with nothing there to remove, or it leaves something empty. -/
theorem Action.openFile_cases (names : Path.Names path above name [])
    (unlinked : tree.Unlinked path) :
    (∃ fault, openFile path true tree = ⟨[], .error fault⟩ ∧ (removeFile path tree).changes = [] ∧
        tree.Barred path) ∨
      ∃ place entry change, tree.slot path = .ok (place, false) ∧
        Opened tree path place entry change := by
  cases slot : tree.slot path with
  | error fault =>
    have barred : tree.Barred path := by
      intro place slashed found
      simp [slot] at found
    cases located : tree.locate .create path with
    | error fault =>
      exact .inl ⟨fault, openFile_error located, by rw [removeFile_error slot], barred⟩
    | ok destination =>
      obtain ⟨place, found⟩ := Tree.slot_of_locate names located
      simp [slot] at found
  | ok result =>
    obtain ⟨place, slashed⟩ := result
    obtain ⟨_, _, rfl, _⟩ := (Tree.slot_eq_ok_iff names).mp slot
    rcases unlinked.locate names slot .create with ⟨free, located⟩ | ⟨entry, found, plain, located⟩
    · exact .inr ⟨place, _, _, rfl, opened_free located free⟩
    · cases closed : tree.isDirectory place with
      | true =>
        refine .inl ⟨.isDirectory, openFile_directory located closed,
          removeFile_directory slot closed, ?_⟩
        intro other slashed also
        cases slot.symm.trans also
        exact closed
      | false => exact .inr ⟨place, _, _, rfl, opened_entry located found plain closed⟩

theorem Tree.applyAll_append (tree : Tree) (first second : List Change) :
    tree.applyAll (first ++ second) = (tree.applyAll first).applyAll second := by
  rw [applyAll, List.foldl_append]
  rfl

theorem Tree.Unlinked.slot_changed {after : Tree} {result : Option Entry}
    (unlinked : tree.Unlinked path) (names : Path.Names path above name [])
    (slot : tree.slot path = .ok (place, false)) (outside : tree.isDirectory place = false)
    (changed : ChangedAt tree place result after) (still : after.isDirectory place = false) :
    after.slot path = .ok (place, false) :=
  (changed.alike outside still).slot_past (unlinked place false slot) names slot

theorem Action.append_sync {before : Tree} {entry : Entry} (below : place ≠ [])
    (changed : ChangedAt before place (some entry) tree) (content : Text.Bytes) :
    let writing := (perform (.append place content) >>= fun _ => sync place) tree
    ChangedAt before place (some (entry.extended content)) (tree.applyAll writing.changes) ∧
      writing.result =
        if entry.extended content = .device then .error .notKept else .ok () := by
  have written : ChangedAt before place (some (entry.extended content))
      (tree.apply (.append place content)) :=
    changed.trans (ChangedAt.revise below changed.there _)
  constructor
  · simpa [sync_eq, Tree.applyAll] using written
  · simp [sync_eq, written.there]

namespace Replacement

private theorem writeTemporary_opened {entry : Entry} {change : Change}
    (opened : Opened tree replacement.temporary place entry change) :
    ∃ written, Entry.Takes replacement.content (replacement.mode.getD (tree.modeAnew place)) written ∧
      ChangedAt tree place (some written)
        (tree.applyAll (replacement.writeTemporary tree).changes) ∧
      (replacement.writeTemporary tree).result =
        if written = .device then .error .notKept else .ok () := by
  have below := Tree.ne_nil_of_outside opened.outside
  cases bits : replacement.mode with
  | none =>
    have written := Action.append_sync below opened.changed replacement.content
    refine ⟨_, opened.takes.extended _, ?_⟩
    rw [writeTemporary, Action.bind_ok _ opened.result, bits]
    exact written
  | some mode =>
    have marked : ChangedAt tree place (some (entry.withMode mode))
        ((tree.apply change).apply (.setMode place mode)) :=
      opened.changed.trans (ChangedAt.revise below opened.changed.there _)
    have written := Action.append_sync below marked replacement.content
    refine ⟨_, (opened.takes.withMode mode).extended _, ?_⟩
    rw [writeTemporary, Action.bind_ok _ opened.result, bits]
    exact written

theorem attempt_error {changes : List Change} {fault : Fault}
    (writing : replacement.writeTemporary tree = ⟨changes, .error fault⟩) :
    replacement.attempt tree = ⟨changes, .error fault⟩ :=
  Action.bind_error _ writing

private theorem attempt_ok {changes : List Change}
    (writing : replacement.writeTemporary tree = ⟨changes, .ok ()⟩) :
    replacement.attempt tree =
      ⟨changes ++ (Action.rename replacement.temporary replacement.target
          (tree.applyAll changes)).changes,
        (Action.rename replacement.temporary replacement.target (tree.applyAll changes)).result⟩ :=
  Action.bind_ok _ writing

private theorem carryOut_ok {changes : List Change}
    (done : replacement.attempt tree = ⟨changes, .ok ()⟩) :
    replacement.carryOut tree = ⟨changes, .ok ()⟩ := by
  rw [carryOut, Action.orUndo, done]

theorem carryOut_error {changes : List Change} {fault : Fault}
    (failed : replacement.attempt tree = ⟨changes, .error fault⟩) :
    replacement.carryOut tree =
      ⟨changes ++ (Action.removeFile replacement.temporary (tree.applyAll changes)).changes,
        .error fault⟩ := by
  rw [carryOut, Action.orUndo, failed]

theorem carryOut_undone {hole : Place} {entry : Entry} {fault : Fault} {changes : List Change}
    (failed : replacement.attempt tree = ⟨changes, .error fault⟩)
    (slot : (tree.applyAll changes).slot replacement.temporary = .ok (hole, false))
    (there : (tree.applyAll changes).find? hole = some entry)
    (still : (tree.applyAll changes).isDirectory hole = false) :
    replacement.carryOut tree = ⟨changes ++ [.remove hole], .error fault⟩ := by
  rw [carryOut_error failed, Action.removeFile_entry slot there still]

/-- What is changed once the temporary file is open: it is written, and what has the temporary
file's name is removed after a fault, or gets the target's name. `hole` is where that name stands;
the opened file is elsewhere if there is a link. -/
theorem carryOut_changes {hole : Place} {entry : Entry} {change : Change}
    (opened : Opened tree replacement.temporary place entry change)
    (kept : ∀ bits written after, Entry.Takes replacement.content bits written →
      ChangedAt tree place (some written) after →
      after.slot replacement.temporary = .ok (hole, false) ∧ after.isDirectory hole = false ∧
        ∃ there, after.find? hole = some there) :
    let early := (replacement.writeTemporary tree).changes
    ∃ written, Entry.Takes replacement.content (replacement.mode.getD (tree.modeAnew place))
        written ∧ ChangedAt tree place (some written) (tree.applyAll early) ∧
      ((∃ fault, replacement.carryOut tree = ⟨early ++ [.remove hole], .error fault⟩) ∨
        written ≠ .device ∧ ∃ goal,
          (tree.applyAll early).slot replacement.target = .ok (goal, false) ∧
          (tree.applyAll early).isDirectory goal = false ∧
          replacement.carryOut tree =
            ⟨early ++ if hole = goal then [] else [.move hole goal], .ok ()⟩) := by
  obtain ⟨written, takes, changed, ended⟩ := writeTemporary_opened opened
  obtain ⟨slot, still, there, found⟩ := kept _ _ _ takes changed
  generalize writing : replacement.writeTemporary tree = deed at *
  obtain ⟨changes, result⟩ := deed
  dsimp only at *
  refine ⟨written, takes, changed, ?_⟩
  by_cases device : written = .device
  · rw [if_pos device] at ended
    subst ended
    exact .inl ⟨.notKept, carryOut_undone (attempt_error writing) slot found still⟩
  · rw [if_neg device] at ended
    subst ended
    have moved := attempt_ok writing
    rcases Action.rename_cases slot found with ⟨fault, failed⟩ | ⟨goal, aimed, closed, renamed⟩
    · rw [failed, List.append_nil] at moved
      exact .inl ⟨fault, carryOut_undone moved slot found still⟩
    · rw [renamed] at moved
      exact .inr ⟨device, goal, aimed, closed, carryOut_ok moved⟩

theorem carryOut_opened {hole : Place} {entry : Entry} {change : Change}
    (opened : Opened tree replacement.temporary place entry change)
    (kept : ∀ bits written after, Entry.Takes replacement.content bits written →
      ChangedAt tree place (some written) after →
      after.slot replacement.temporary = .ok (hole, false) ∧ after.isDirectory hole = false ∧
        ∃ there, after.find? hole = some there) :
    ∃ written after, Entry.Takes replacement.content (replacement.mode.getD (tree.modeAnew place))
        written ∧ ChangedAt tree place (some written) after ∧
      ((∃ fault, (replacement.carryOut tree).result = .error fault ∧
          tree.applyAll (replacement.carryOut tree).changes = after.apply (.remove hole)) ∨
        written ≠ .device ∧ ∃ goal, after.slot replacement.target = .ok (goal, false) ∧
          after.isDirectory goal = false ∧ (replacement.carryOut tree).result = .ok () ∧
          tree.applyAll (replacement.carryOut tree).changes =
            if hole = goal then after else after.apply (.move hole goal)) := by
  obtain ⟨written, takes, changed, ⟨fault, undone⟩ | ⟨lasting, goal, aimed, closed, moved⟩⟩ :=
    carryOut_changes opened kept
  · refine ⟨written, _, takes, changed, .inl ⟨fault, ?_⟩⟩
    rw [undone, Tree.applyAll_append]
    exact ⟨rfl, rfl⟩
  · refine ⟨written, _, takes, changed, .inr ⟨lasting, goal, aimed, closed, ?_⟩⟩
    rw [moved, Tree.applyAll_append]
    refine ⟨rfl, ?_⟩
    split <;> rfl

/-- What carrying a replacement out comes to: a failure that leaves the tree alone or nothing at
the temporary file's place, or the written file where the target's name stands. -/
theorem carryOut_cases (names : Path.Names replacement.temporary way name [])
    (unlinked : tree.Unlinked replacement.temporary) :
    (∃ fault, replacement.carryOut tree = ⟨[], .error fault⟩ ∧ tree.Barred replacement.temporary) ∨
      ∃ hole, tree.slot replacement.temporary = .ok (hole, false) ∧
        tree.isDirectory hole = false ∧
        ((∃ fault, (replacement.carryOut tree).result = .error fault ∧
            ChangedAt tree hole none (tree.applyAll (replacement.carryOut tree).changes)) ∨
          ∃ written goal, ChangedAt tree hole (some (.file replacement.content
              (replacement.mode.getD (tree.modeAnew hole)))) written ∧
            written.slot replacement.target = .ok (goal, false) ∧
            written.isDirectory goal = false ∧
            (replacement.carryOut tree).result = .ok () ∧
            tree.applyAll (replacement.carryOut tree).changes =
              if hole = goal then written else written.apply (.move hole goal)) := by
  rcases Action.openFile_cases names unlinked with ⟨fault, failed, nothing, barred⟩ |
    ⟨hole, entry, change, slot, opened⟩
  · left
    have first : replacement.attempt tree = ⟨[], .error fault⟩ :=
      attempt_error (Action.bind_error _ failed)
    refine ⟨fault, ?_, barred⟩
    rw [carryOut_error first, List.nil_append]
    change (⟨(Action.removeFile replacement.temporary tree).changes, _⟩ : Deed Unit) = _
    rw [nothing]
  · right
    have outside := opened.outside
    refine ⟨hole, slot, outside, ?_⟩
    obtain ⟨written, after, takes, changed, ⟨fault, failed, result⟩ | ⟨lasting, goal, moved⟩⟩ :=
      carryOut_opened opened fun bits written after takes changed =>
        have still := changed.isDirectory_eq takes
        ⟨unlinked.slot_changed names slot outside changed still, still, written, changed.there⟩
    · refine .inl ⟨fault, failed, ?_⟩
      rw [result]
      exact changed.trans (ChangedAt.remove (Tree.ne_nil_of_outside outside))
    · cases takes with
      | device => exact (lasting rfl).elim
      | file => exact .inr ⟨after, goal, changed, moved⟩

end Replacement

/-- No symbolic link stands under the name of the temporary file of a save to a path: that of
the file which the path leads to, or of the path itself if it leads to nothing, and `.tmp`. -/
def Tree.TemporaryUnlinked (tree : Tree) (path : String) : Prop :=
  ∀ target temporary, Replacement.targetOf tree path = .ok target →
    Path.sibling? target temporarySuffix = some temporary → tree.Unlinked temporary

theorem Replacement.plan_eq_ok {content : Text.Bytes}
    (planned : Replacement.plan path content tree = .ok replacement) :
    Replacement.targetOf tree path = .ok replacement.target ∧
      Path.sibling? replacement.target temporarySuffix = some replacement.temporary ∧
      replacement.mode = tree.mode? replacement.target ∧ replacement.content = content := by
  rw [Replacement.plan] at planned
  cases aim : Replacement.targetOf tree path with
  | error fault => simp [aim, bind, Except.bind] at planned
  | ok target =>
    cases beside : Path.sibling? target temporarySuffix with
    | none => simp [aim, beside, bind, Except.bind] at planned
    | some temporary =>
      simp only [aim, beside, bind, Except.bind, pure, Except.pure, Except.ok.injEq] at planned
      subst planned
      exact ⟨rfl, beside, rfl, rfl⟩

theorem ChangedAt.slot_before {written : Tree} {hole : Place} {entry : Entry} {bytes : Text.Bytes}
    (changed : ChangedAt tree hole (some entry) written) (takes : Entry.Takes bytes mode entry)
    (outside : tree.isDirectory hole = false) (names : Path.Names path above name [])
    (slot : written.slot path = .ok (place, false)) : tree.slot path = .ok (place, false) := by
  apply (changed.alike outside (changed.isDirectory_eq takes)).symm.slot_past _ names slot
  intro text linked
  rw [changed.there] at linked
  have plain := takes.plain
  rw [Option.some.inj linked] at plain
  cases plain

/-- Where the temporary file of a save to a path stands, or would if it could be made. -/
def Tree.TemporaryPlace (tree : Tree) (path : String) (hole : Place) : Prop :=
  ∃ target temporary slashed, Replacement.targetOf tree path = .ok target ∧
    Path.sibling? target temporarySuffix = some temporary ∧
    tree.slot temporary = .ok (hole, slashed)

theorem Replacement.plan_of_sibling {target temporary : String} {content : Text.Bytes}
    (aim : targetOf tree path = .ok target)
    (beside : Path.sibling? target temporarySuffix = some temporary) :
    plan path content tree = .ok { target, temporary, mode := tree.mode? target, content } := by
  simp [plan, aim, beside, bind, Except.bind, pure, Except.pure]

/-- Where a save to a path has its temporary file. -/
structure TemporaryAt (tree : Tree) (path target temporary : String) (hole : Place) : Prop where
  aim : Replacement.targetOf tree path = .ok target
  beside : Path.sibling? target temporarySuffix = some temporary
  slot : tree.slot temporary = .ok (hole, false)
  closed : tree.isDirectory hole = false
  unlinked : ∀ text, tree.find? hole ≠ some (.link text)

theorem Action.replaceFile_eq (planned : Replacement.plan path content tree = .ok replacement) :
    replaceFile path content tree = replacement.carryOut tree := by
  rw [replaceFile, ask_bind, planned]

theorem Action.replaceFile_cases (clear : tree.TemporaryUnlinked path) (content : Text.Bytes) :
    (∃ fault, replaceFile path content tree = ⟨[], .error fault⟩ ∧
        ∀ hole, tree.TemporaryPlace path hole → tree.isDirectory hole) ∨
      ∃ target temporary hole, TemporaryAt tree path target temporary hole ∧
        ((∃ fault, (replaceFile path content tree).result = .error fault ∧
            ChangedAt tree hole none (tree.applyAll (replaceFile path content tree).changes)) ∨
          ∃ goal, tree.slot target = .ok (goal, false) ∧
            (replaceFile path content tree).result = .ok () ∧
            Replaced tree hole goal content ((tree.mode? target).getD (tree.modeAnew hole))
              (tree.applyAll (replaceFile path content tree).changes)) := by
  cases planned : Replacement.plan path content tree with
  | error fault =>
    refine .inl ⟨fault, by rw [replaceFile, ask_bind, planned], ?_⟩
    intro hole aside
    obtain ⟨target, temporary, _, aim, beside, _⟩ := aside
    rw [Replacement.plan_of_sibling aim beside] at planned
    cases planned
  | ok replacement =>
    obtain ⟨aim, beside, bits, rfl⟩ := Replacement.plan_eq_ok planned
    have unlinked := clear _ _ aim beside
    have stands (hole : Place) (slot : tree.slot replacement.temporary = .ok (hole, false))
        (closed : tree.isDirectory hole = false) :
        TemporaryAt tree path replacement.target replacement.temporary hole :=
      ⟨aim, beside, slot, closed, unlinked hole false slot⟩
    obtain ⟨way, name, names⟩ := Path.names_of_sibling? beside
    rw [replaceFile_eq planned]
    rcases Replacement.carryOut_cases names unlinked with ⟨fault, failed, barred⟩ |
      ⟨hole, slot, outside, failed | ⟨written, goal, changed, aimed, shut, ended, result⟩⟩
    · refine .inl ⟨fault, failed, ?_⟩
      intro hole aside
      obtain ⟨target, temporary, slashed, also, next, slot⟩ := aside
      cases aim.symm.trans also
      cases beside.symm.trans next
      exact barred hole slashed slot
    · exact .inr ⟨_, _, hole, stands hole slot outside, .inl failed⟩
    · obtain ⟨above, last, targetNames⟩ := Tree.names_of_slot aimed
      have first := changed.slot_before .file outside targetNames aimed
      obtain ⟨_, _, _, _, _, directory, _, _, rfl⟩ := (Tree.slot_eq_ok_iff targetNames).mp first
      obtain ⟨_, _, _, _, _, beneath, _, _, below⟩ := (Tree.slot_eq_ok_iff names).mp slot
      have apart := Tree.slot_sibling_ne targetNames beside slot directory
      rw [if_neg apart] at result
      refine .inr ⟨_, _, hole, stands hole slot outside, .inr ⟨_, first, ended, ?_⟩⟩
      rw [result, ← bits]
      exact changed.replaced outside shut (by simp [below]) (by simp) apart

end PropertyStore.Files
