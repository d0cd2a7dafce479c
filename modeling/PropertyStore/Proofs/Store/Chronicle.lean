import PropertyStore.Proofs.Store.Succession

/-! The file of a shared store over time. Whoever saves and however their steps fall between those
of others, it never goes back to an earlier state of the store. -/

namespace PropertyStore.Sharing

/-- What stands at the path from moment to moment: what was there, until a save is done, and then
always the file of one save, read as the store at the moment of its snapshot. -/
structure Chronicle (path : String) (run : Nat → Sharing) (version : Nat → Option Save) : Prop where
  untouched : ∀ moment, version moment = none → ∀ goal, (run 0).tree.Goal path goal →
    (run moment).tree.find? goal = (run 0).tree.find? goal
  saved : ∀ moment save, version moment = some save → save.Made run ∧ save.placed ≤ moment ∧
    Saved (run moment).tree path (run save.taken).store.properties
  forward : ∀ moment later save, moment ≤ later → version moment = some save →
    ∃ next, version later = some next ∧ (next = save ∨ save.placed ≤ next.taken)

/-- A save that a caller has called for after a moment, and that has succeeded by another. -/
structure Succeeds (run : Nat → Sharing) (caller called moment : Nat) : Prop where
  order : called ≤ moment
  ready : (run called).stage caller = .ready
  busy : ∀ between, called < between → between ≤ moment → (run between).stage caller ≠ .ready
  ended : (run moment).stage caller = .writing [] (.ok ())

variable {path : String} {run : Nat → Sharing} {caller called moment : Nat}

theorem Sound.version_of_succeeds (sound : Sound path run moment)
    (succeeds : Succeeds run caller called moment) :
    ∃ taken placed, called < taken ∧
      version run moment = some { caller, called, taken, placed } := by
  obtain ⟨taken, writing⟩ := sound.writing caller _ _ succeeds.ended
  obtain ⟨placed, _, _, _, is⟩ := writing.placed ⟨rfl, rfl⟩
  have same := last_unique succeeds.order succeeds.ready succeeds.busy
  rw [same] at is
  exact ⟨taken, placed, same ▸ writing.begun, is⟩

/-- However callers' steps follow each other, the files that come to stand at the path are the
store at one moment of the save that wrote them, each at a later moment than the one before. So
from when a save has succeeded the file has in it all operations made before that save was
called for. -/
theorem saves_never_go_back (schedule : Nat → Event) (start : Sharing) (idle : start.Idle)
    (wellFormed : start.tree.WellFormed) (unlinked : start.tree.TemporaryUnlinked path) :
    let moments := Sharing.run path schedule start
    (∃ version, Chronicle path moments version ∧
      ∀ caller called moment, Succeeds moments caller called moment →
        ∃ taken placed, version moment = some { caller, called, taken, placed }) ∧
    ∀ caller called moment later, Succeeds moments caller called moment → moment ≤ later →
      ∃ taken, called < taken ∧
        operations path schedule start called <+: operations path schedule start taken ∧
        Saved (moments later).tree path
          (start.store.performAll (operations path schedule start taken)).properties := by
  intro moments
  have steps (moment : Nat) : ∃ made, Step path (moments moment) (moments (moment + 1)) made :=
    ⟨_, step_event path (moments moment) (schedule moment)⟩
  have sound := sound_run steps idle wellFormed unlinked
  have stands := stands_run steps idle wellFormed unlinked
  have forward (moment later : Nat) (save : Save) (order : moment ≤ later)
      (some : version moments moment = some save) :=
    version_later steps idle wellFormed unlinked order some
  constructor
  · refine ⟨version moments, ⟨fun moment => (stands moment).untouched,
      fun moment => (stands moment).saved, forward⟩, ?_⟩
    intro caller called moment succeeds
    obtain ⟨taken, placed, _, is⟩ := (sound moment).version_of_succeeds succeeds
    exact ⟨taken, placed, is⟩
  · intro caller called moment later succeeds order
    obtain ⟨taken, placed, begun, is⟩ := (sound moment).version_of_succeeds succeeds
    obtain ⟨next, there, since⟩ := forward moment later _ order is
    obtain ⟨_, _, saved⟩ := (stands later).saved next there
    have after : called < next.taken := by
      rcases since with rfl | before
      · exact begun
      · have made := ((stands moment).saved _ is).1
        exact Nat.lt_of_lt_of_le (Nat.lt_trans begun made.ended) before
    refine ⟨next.taken, after, operations_prefix path schedule start after.le, ?_⟩
    rw [← run_store]
    exact saved

/-- One caller saves while another sets a property before, during and after the snapshot. -/
def overlapping (moment : Nat) : Event :=
  [.operate 0 (.set "k" "v"), .call 1, .proceed 1 Store.epoch 0, .operate 0 (.set "k" "w"),
    .proceed 1 Store.epoch 0, .operate 0 (.remove "k")].getD moment (.proceed 1 Store.epoch 4096)

theorem saves_never_go_back_overlapping :
    let start : Sharing := { store := {}, tree := linkedTree }
    let moments := Sharing.run "p" overlapping start
    start.Idle ∧ linkedTree.WellFormed ∧ linkedTree.TemporaryUnlinked "p" ∧
      Succeeds moments 1 1 10 ∧
      ∃ taken, 1 < taken ∧ [.set "k" "v"] <+: operations "p" overlapping start taken ∧
        Saved (moments 12).tree "p"
          (start.store.performAll (operations "p" overlapping start taken)).properties := by
  intro start moments
  have idle : start.Idle := ⟨fun _ => rfl, rfl⟩
  have unlinked := Store.linkedTree_temporaryFree.clear.unlinked
  have busy : ∀ between ≤ 10, 1 < between → (moments between).stage 1 ≠ .ready := by
    decide +kernel
  have succeeds : Succeeds moments 1 1 10 := by
    refine ⟨by decide, by decide +kernel, fun between after within => busy between within after, ?_⟩
    decide +kernel
  have kept := (saves_never_go_back overlapping start idle linkedTree_wellFormed unlinked).2
  exact ⟨idle, linkedTree_wellFormed, unlinked, succeeds, kept 1 1 10 12 succeeds (by decide)⟩

end PropertyStore.Sharing
