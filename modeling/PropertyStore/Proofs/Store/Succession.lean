import PropertyStore.Proofs.Store.Version

namespace PropertyStore.Sharing

open Files (Progress)

/-- The file at the path is that of the last save that was done, or there was none and nothing has
happened to it. -/
structure Stands (path : String) (run : Nat → Sharing) (moment : Nat) : Prop where
  untouched : version run moment = none → ∀ goal, (run 0).tree.Goal path goal →
    (run moment).tree.find? goal = (run 0).tree.find? goal
  saved : ∀ save, version run moment = some save → save.Made run ∧ save.placed ≤ moment ∧
    Saved (run moment).tree path (run save.taken).store.properties

/-- What there is when no save is writing: the next one can begin. -/
structure Resting (path : String) (run : Nat → Sharing) (moment : Nat) : Prop extends
    Stands path run moment where
  wellFormed : (run moment).tree.WellFormed
  unlinked : (run moment).tree.TemporaryUnlinked path
  aimed : version run moment = none → ∀ goal, (run 0).tree.Goal path goal →
    (run moment).tree.Goal path goal

/-- What there is while a caller is writing: so far the tree is changed by its save alone, which
began with the snapshot at `taken`. -/
structure Writing (path : String) (run : Nat → Sharing) (caller taken : Nat)
    (pending : List Files.Change) (result : Except Fault Unit) (moment : Nat) : Prop where
  snapshot : last run caller .locked moment = taken
  locked : (run taken).stage caller = .locked
  begun : last run caller .ready moment < taken
  later : taken < moment
  resting : Resting path run taken
  progress : ∃ (time : Calendar) (sizes : List Nat),
    let saving := (run taken).store.saveTo (run taken).tree path time.stamp
    Progress.run ⟨(run taken).tree, saving.changes⟩ sizes = ⟨(run moment).tree, pending⟩ ∧
      saving.value = result
  unplaced : ¬ (pending = [] ∧ result = .ok ()) → version run moment = version run taken
  placed : pending = [] ∧ result = .ok () → ∃ placed, taken < placed ∧ placed ≤ moment ∧
    (run placed).stage caller = .writing [] (.ok ()) ∧
    version run moment =
      some { caller, called := last run caller .ready moment, taken, placed }

/-- What holds at every moment. -/
structure Sound (path : String) (run : Nat → Sharing) (moment : Nat) : Prop where
  exclusive : (run moment).Exclusive
  resting : (∀ caller pending result, (run moment).stage caller ≠ .writing pending result) →
    Resting path run moment
  writing : ∀ caller pending result, (run moment).stage caller = .writing pending result →
    ∃ taken, Writing path run caller taken pending result moment

variable {path : String} {run : Nat → Sharing} {caller taken moment : Nat}
  {pending : List Files.Change} {result : Except Fault Unit}

theorem Resting.next (resting : Resting path run moment)
    (tree : (run (moment + 1)).tree = (run moment).tree)
    (version : version run (moment + 1) = version run moment) : Resting path run (moment + 1) where
  untouched none goal aimed := by
    rw [tree]
    exact resting.untouched (version ▸ none) goal aimed
  saved save some := by
    obtain ⟨made, order, saved⟩ := resting.saved save (version ▸ some)
    exact ⟨made, Nat.le_succ_of_le order, tree ▸ saved⟩
  wellFormed := tree ▸ resting.wellFormed
  unlinked := tree ▸ resting.unlinked
  aimed none goal aimed := by
    rw [tree]
    exact resting.aimed (version ▸ none) goal aimed

namespace Writing

variable (writing : Writing path run caller taken pending result moment)

include writing

theorem next (still : (run (moment + 1)).stage caller = .writing pending result)
    (tree : (run (moment + 1)).tree = (run moment).tree)
    (version : version run (moment + 1) = version run moment) :
    Writing path run caller taken pending result (moment + 1) := by
  have ready : last run caller .ready (moment + 1) = last run caller .ready moment :=
    last_succ (by simp [still])
  constructor
  case snapshot => rw [last_succ (by simp [still]), writing.snapshot]
  case locked => exact writing.locked
  case begun => rw [ready]; exact writing.begun
  case later => exact Nat.lt_succ_of_lt writing.later
  case resting => exact writing.resting
  case progress => rw [tree]; exact writing.progress
  case unplaced => rw [version]; exact writing.unplaced
  case placed =>
    intro done
    obtain ⟨placed, after, order, written, is⟩ := writing.placed done
    exact ⟨placed, after, Nat.le_succ_of_le order, written, by rw [version, ready, is]⟩

/-- While a save writes, the file is the one that was there before, until it is its own. -/
theorem stands (initially : (run 0).stage caller = .ready) : Stands path run moment := by
  have wellFormed := writing.resting.wellFormed
  have unlinked := writing.resting.unlinked
  obtain ⟨time, sizes, progress, ended⟩ := writing.progress
  have underway := (run taken).store.saveTo_underway wellFormed unlinked time.stamp sizes
  simp only [progress, ended] at underway
  rcases underway with ⟨aside, unfinished⟩ |
    ⟨finished, succeeded, hole, goal, _, _, leads, replaced⟩
  · have same := writing.unplaced (by
      rintro ⟨finished, succeeded⟩
      obtain ⟨fault, failed⟩ := unfinished finished
      cases succeeded.symm.trans failed)
    constructor
    · intro none goal aimed
      rw [same] at none
      rw [aside.find?_goal wellFormed (writing.resting.aimed none goal aimed)]
      exact writing.resting.untouched none goal aimed
    · intro save some
      rw [same] at some
      obtain ⟨made, order, saved⟩ := writing.resting.saved save some
      exact ⟨made, order.trans writing.later.le, aside.saved wellFormed unlinked saved⟩
  · obtain ⟨placed, after, order, written, is⟩ := writing.placed ⟨finished, succeeded⟩
    constructor
    · intro none
      cases is.symm.trans none
    · intro save some
      cases is.symm.trans some
      refine ⟨?_, order, replaced.saved leads⟩
      exact {
        ready := stage_last (Nat.zero_le moment) initially
        begun := writing.begun
        locked := writing.locked
        ended := after
        written
        busy := fun between later within => stage_after_last later (within.trans order) }

end Writing

/-- The file stays, or it becomes one whose snapshot is later than the file before. -/
def Advances (run : Nat → Sharing) (moment : Nat) : Prop :=
  version run (moment + 1) = version run moment ∨
    ∃ save, version run (moment + 1) = some save ∧
      ∀ old, version run moment = some old → old.placed ≤ save.taken

theorem Writing.sound (writing : Writing path run caller taken pending result moment)
    (exclusive : (run moment).Exclusive)
    (stage : (run moment).stage caller = .writing pending result) : Sound path run moment where
  exclusive
  resting none := (none caller pending result stage).elim
  writing other further ending also := by
    have same : other = caller := exclusive.unique (by rw [stage]; rfl) (by rw [also]; rfl)
    rw [same, stage] at also
    cases also
    exact same ▸ ⟨taken, writing⟩

namespace Sound

variable (sound : Sound path run moment)

include sound

private theorem resting_of_locked (locked : (run moment).stage caller = .locked) :
    Resting path run moment := by
  apply sound.resting
  intro other pending result writing
  have same : other = caller :=
    sound.exclusive.unique (by rw [locked]; rfl) (by rw [writing]; rfl)
  rw [same, locked] at writing
  cases writing

private theorem aside (exclusive : (run (moment + 1)).Exclusive)
    (tree : (run (moment + 1)).tree = (run moment).tree)
    (same : ∀ caller pending result, (run (moment + 1)).stage caller = .writing pending result ↔
      (run moment).stage caller = .writing pending result) :
    Sound path run (moment + 1) ∧ Advances run moment := by
  have version := version_succ fun caller => (same caller [] (.ok ())).mp
  refine ⟨⟨exclusive, ?_, ?_⟩, .inl version⟩
  · intro none
    refine (sound.resting ?_).next tree version
    intro caller pending result writing
    exact none caller pending result ((same caller pending result).mpr writing)
  · intro caller pending result stage
    obtain ⟨taken, writing⟩ := sound.writing caller pending result ((same _ _ _).mp stage)
    exact ⟨taken, writing.next stage tree version⟩

end Sound

/-- A step of the writing, the snapshot among them. If nothing is left to do after it, the new file
stands in place of the one before the snapshot. -/
theorem Resting.write (resting : Resting path run taken) (exclusive : (run (moment + 1)).Exclusive)
    (stage : (run (moment + 1)).stage caller = .writing pending result)
    (fresh : (run moment).stage caller ≠ .writing [] (.ok ()))
    (others : ∀ other, other ≠ caller →
      (run (moment + 1)).stage other = (run moment).stage other)
    (snapshot : last run caller .locked moment = taken)
    (locked : (run taken).stage caller = .locked) (begun : last run caller .ready moment < taken)
    (order : taken ≤ moment) (same : version run moment = version run taken)
    (progress : ∃ (time : Calendar) (sizes : List Nat),
      let saving := (run taken).store.saveTo (run taken).tree path time.stamp
      Progress.run ⟨(run taken).tree, saving.changes⟩ sizes = ⟨(run (moment + 1)).tree, pending⟩ ∧
        saving.value = result) :
    Sound path run (moment + 1) ∧ Advances run moment := by
  have ready : last run caller .ready (moment + 1) = last run caller .ready moment :=
    last_succ (by simp [stage])
  have still : last run caller .locked (moment + 1) = taken := by
    rw [last_succ (by simp [stage]), snapshot]
  by_cases done : pending = [] ∧ result = .ok ()
  · obtain ⟨rfl, rfl⟩ := done
    have version := version_done exclusive stage fresh
    rw [snapshot] at version
    have writing : Writing path run caller taken [] (.ok ()) (moment + 1) := {
      snapshot := still
      locked
      begun := ready ▸ begun
      later := Nat.lt_succ_of_le order
      resting
      progress
      unplaced := fun other => (other ⟨rfl, rfl⟩).elim
      placed := fun _ =>
        ⟨moment + 1, Nat.lt_succ_of_le order, Nat.le_refl _, stage, ready ▸ version⟩ }
    refine ⟨writing.sound exclusive stage, .inr ⟨_, version, fun old some => ?_⟩⟩
    exact (resting.saved old (same ▸ some)).2.1
  · have version : version run (moment + 1) = version run moment := by
      apply version_succ
      intro other written
      by_cases self : other = caller
      · rw [self, stage] at written
        cases written
        exact (done ⟨rfl, rfl⟩).elim
      · rwa [others other self] at written
    have writing : Writing path run caller taken pending result (moment + 1) := {
      snapshot := still
      locked
      begun := ready ▸ begun
      later := Nat.lt_succ_of_le order
      resting
      progress
      unplaced := fun _ => version.trans same
      placed := fun also => (done also).elim }
    exact ⟨writing.sound exclusive stage, .inl version⟩

theorem Writing.release (writing : Writing path run caller taken [] result moment)
    (initially : (run 0).stage caller = .ready)
    (tree : (run (moment + 1)).tree = (run moment).tree)
    (version : version run (moment + 1) = version run moment) : Resting path run (moment + 1) := by
  have stands := writing.stands initially
  obtain ⟨time, sizes, progress, ended⟩ := writing.progress
  have finished := congrArg Progress.pending progress
  have all := Progress.run_finished finished
  obtain ⟨wellFormed, unlinked, aimed⟩ := (run taken).store.saveTo_again
    writing.resting.wellFormed writing.resting.unlinked time.stamp
  rw [← all, progress] at wellFormed unlinked aimed
  have resting : Resting path run moment := by
    refine ⟨stands, wellFormed, unlinked, ?_⟩
    intro none goal goes
    by_cases succeeded : result = .ok ()
    · obtain ⟨placed, _, _, _, is⟩ := writing.placed ⟨rfl, succeeded⟩
      cases is.symm.trans none
    · rw [writing.unplaced fun done => succeeded done.2] at none
      exact aimed (fun ok => succeeded (ended.symm.trans ok)) goal
        (writing.resting.aimed none goal goes)
  exact resting.next tree version

/-- Every step keeps this. -/
theorem Sound.step {made : List Operation} (sound : Sound path run moment)
    (initially : ∀ caller, (run 0).stage caller = .ready)
    (step : Step path (run moment) (run (moment + 1)) made) :
    Sound path run (moment + 1) ∧ Advances run moment := by
  have exclusive := sound.exclusive.step step
  generalize next : run (moment + 1) = after at step
  cases step with
  | idle =>
    apply sound.aside exclusive
    · rw [next]
    · intro caller pending result
      rw [next]
  | operated operation =>
    apply sound.aside exclusive
    · rw [next]
    · intro caller pending result
      rw [next]
  | @called caller ready =>
    apply sound.aside exclusive
    · rw [next]
      rfl
    · intro other pending result
      by_cases self : other = caller <;> simp [next, self, ready]
  | @locked caller waiting free =>
    apply sound.aside exclusive
    · rw [next]
      rfl
    · intro other pending result
      by_cases self : other = caller <;> simp [next, self, waiting]
  | @taken caller time locked =>
    have unready : last run caller .ready moment ≠ moment := by
      intro same
      have ready := stage_last (Nat.zero_le moment) (initially caller)
      rw [same, locked] at ready
      cases ready
    have stage := congrArg (fun sharing => sharing.stage caller) next
    rw [stage_enter, if_pos rfl] at stage
    apply (sound.resting_of_locked locked).write exclusive stage
    case fresh => simp [locked]
    case others => intro other apart; rw [next]; exact if_neg apart
    case snapshot => exact last_self locked
    case locked => exact locked
    case begun => exact Nat.lt_of_le_of_ne last_le unready
    case order => exact Nat.le_refl _
    case same => rfl
    case progress => exact ⟨time, [], by rw [next]; rfl, rfl⟩
  | @wrote caller pending result size writing further =>
    obtain ⟨taken, writes⟩ := sound.writing caller pending result writing
    obtain ⟨time, sizes, progress, ended⟩ := writes.progress
    have stage := congrArg (fun sharing => sharing.stage caller) next
    rw [stage_enter, if_pos rfl] at stage
    apply writes.resting.write exclusive stage
    case fresh => simp [writing, further]
    case others => intro other apart; rw [next]; exact if_neg apart
    case snapshot => exact writes.snapshot
    case locked => exact writes.locked
    case begun => exact writes.begun
    case order => exact writes.later.le
    case same => exact writes.unplaced fun done => further done.1
    case progress =>
      refine ⟨time, sizes ++ [size], ?_, ended⟩
      rw [Progress.run_concat, progress, next]
  | @released caller result finished =>
    obtain ⟨taken, writing⟩ := sound.writing caller [] result finished
    have idle (other : Nat) (pending : List Files.Change) (ending : Except Fault Unit) :
        (run (moment + 1)).stage other ≠ .writing pending ending := by
      intro also
      have holds : ((run (moment + 1)).stage other).holds := by rw [also]; rfl
      rw [next] at holds
      by_cases self : other = caller
      · simp [self, Stage.holds] at holds
      · have mine : ((run moment).stage caller).holds := by rw [finished]; rfl
        exact self (sound.exclusive.unique mine (by simpa [self] using holds))
    have version := version_succ fun other written => (idle other _ _ written).elim
    refine ⟨⟨exclusive, fun _ => ?_, fun _ _ _ also => (idle _ _ _ also).elim⟩, .inl version⟩
    exact writing.release (initially caller) (by rw [next]; rfl) version

structure Idle (sharing : Sharing) : Prop where
  ready : ∀ caller, sharing.stage caller = .ready
  free : sharing.holder = none

private theorem sound_start (idle : (run 0).Idle) (wellFormed : (run 0).tree.WellFormed)
    (unlinked : (run 0).tree.TemporaryUnlinked path) : Sound path run 0 where
  exclusive caller := by simp [idle.ready caller, idle.free, Stage.holds]
  resting _ := {
    untouched := fun _ _ _ => rfl
    saved := fun _ some => by cases some
    wellFormed
    unlinked
    aimed := fun _ _ => id }
  writing caller pending result stage := by
    rw [idle.ready caller] at stage
    cases stage

section Run

variable (steps : ∀ moment, ∃ made, Step path (run moment) (run (moment + 1)) made)
  (idle : (run 0).Idle) (wellFormed : (run 0).tree.WellFormed)
  (unlinked : (run 0).tree.TemporaryUnlinked path)

include steps idle wellFormed unlinked

theorem sound_run (moment : Nat) : Sound path run moment := by
  induction moment with
  | zero => exact sound_start idle wellFormed unlinked
  | succ moment ih =>
    obtain ⟨made, step⟩ := steps moment
    exact (ih.step idle.ready step).1

theorem stands_run (moment : Nat) : Stands path run moment := by
  have sound := sound_run steps idle wellFormed unlinked moment
  by_cases writes : ∃ caller pending result, (run moment).stage caller = .writing pending result
  · obtain ⟨caller, pending, result, stage⟩ := writes
    obtain ⟨taken, writing⟩ := sound.writing caller pending result stage
    exact writing.stands (idle.ready caller)
  · exact (sound.resting (by simpa using writes)).toStands

theorem version_later {later : Nat} {save : Save} (order : moment ≤ later)
    (some : version run moment = some save) :
    ∃ next, version run later = .some next ∧ (next = save ∨ save.placed ≤ next.taken) := by
  induction order with
  | refl => exact ⟨save, some, .inl rfl⟩
  | @step later _ ih =>
    obtain ⟨middle, there, since⟩ := ih
    obtain ⟨made, step⟩ := steps later
    rcases ((sound_run steps idle wellFormed unlinked later).step idle.ready step).2 with
      same | ⟨next, new, advances⟩
    · exact ⟨middle, same.trans there, since⟩
    · refine ⟨next, new, .inr ?_⟩
      have further := advances middle there
      rcases since with rfl | before
      · exact further
      · have ended := ((stands_run steps idle wellFormed unlinked later).saved middle there).1.ended
        omega

end Run

end PropertyStore.Sharing
