import PropertyStore.Proofs.Store.Interruption
import PropertyStore.Proofs.Store.Sharing

namespace PropertyStore

/-- A save that has put its file in place: the last moment before it was called for, the moment of
its snapshot and the first one with the new file. -/
structure Save where
  caller : Nat
  called : Nat
  taken : Nat
  placed : Nat

/-- The moments of a save are those of a run. -/
structure Save.Made (run : Nat → Sharing) (save : Save) : Prop where
  ready : (run save.called).stage save.caller = .ready
  begun : save.called < save.taken
  locked : (run save.taken).stage save.caller = .locked
  ended : save.taken < save.placed
  written : (run save.placed).stage save.caller = .writing [] (.ok ())
  busy : ∀ moment, save.called < moment → moment ≤ save.placed →
    (run moment).stage save.caller ≠ .ready

namespace Sharing

/-- The last moment, `moment` or earlier, at which a caller was at a stage. -/
def last (run : Nat → Sharing) (caller : Nat) (stage : Stage) (moment : Nat) : Nat :=
  Nat.findGreatest (fun earlier => (run earlier).stage caller = stage) moment

/-- The save whose file stands at the path at a moment, if there has been one. -/
def version (run : Nat → Sharing) : Nat → Option Save
  | 0 => none
  | moment + 1 =>
    match (run (moment + 1)).holder with
    | none => version run moment
    | some caller =>
      if (run (moment + 1)).stage caller = .writing [] (.ok ()) ∧
          (run moment).stage caller ≠ .writing [] (.ok ()) then
        some {
          caller
          called := last run caller .ready moment
          taken := last run caller .locked moment
          placed := moment + 1 }
      else version run moment

variable {path : String} {run : Nat → Sharing} {caller moment earlier : Nat} {stage : Stage}
  {pending : List Files.Change} {result : Except Fault Unit}

theorem last_le : last run caller stage moment ≤ moment :=
  Nat.findGreatest_le moment

theorem stage_last (order : earlier ≤ moment) (was : (run earlier).stage caller = stage) :
    (run (last run caller stage moment)).stage caller = stage :=
  Nat.findGreatest_spec (P := fun earlier => (run earlier).stage caller = stage) order was

theorem stage_after_last (later : last run caller stage moment < earlier)
    (order : earlier ≤ moment) : (run earlier).stage caller ≠ stage :=
  Nat.findGreatest_is_greatest later order

theorem last_self (is : (run moment).stage caller = stage) :
    last run caller stage moment = moment :=
  Nat.findGreatest_eq (P := fun earlier => (run earlier).stage caller = stage) is

theorem last_succ (other : (run (moment + 1)).stage caller ≠ stage) :
    last run caller stage (moment + 1) = last run caller stage moment :=
  Nat.findGreatest_of_not (P := fun earlier => (run earlier).stage caller = stage) other

theorem last_unique (order : earlier ≤ moment) (was : (run earlier).stage caller = stage)
    (since : ∀ between, earlier < between → between ≤ moment → (run between).stage caller ≠ stage) :
    last run caller stage moment = earlier := by
  rcases Nat.lt_trichotomy earlier (last run caller stage moment) with before | same | after
  · exact (since _ before last_le (stage_last order was)).elim
  · exact same.symm
  · exact (stage_after_last after order was).elim

theorem version_succ (kept : ∀ caller, (run (moment + 1)).stage caller = .writing [] (.ok ()) →
    (run moment).stage caller = .writing [] (.ok ())) :
    version run (moment + 1) = version run moment := by
  rw [version]
  split
  · rfl
  · rename_i caller _
    rw [if_neg fun fresh => fresh.2 (kept caller fresh.1)]

/-- A save that gets done puts its file in place. -/
theorem version_done (exclusive : (run (moment + 1)).Exclusive)
    (done : (run (moment + 1)).stage caller = .writing [] (.ok ()))
    (fresh : (run moment).stage caller ≠ .writing [] (.ok ())) :
    version run (moment + 1) = some {
      caller
      called := last run caller .ready moment
      taken := last run caller .locked moment
      placed := moment + 1 } := by
  have held : (run (moment + 1)).holder = some caller :=
    (exclusive caller).mp (by rw [done]; rfl)
  rw [version, held]
  exact if_pos ⟨done, fresh⟩

end Sharing

end PropertyStore
