import Mathlib.Data.Nat.Find
import PropertyStore.Store.Sharing

namespace PropertyStore

deriving instance DecidableEq for Stage

namespace Sharing

variable {path : String} {before after : Sharing} {caller other : Nat} {stage : Stage}
  {made : List Operation}

@[simp] theorem stage_enter (sharing : Sharing) (caller other : Nat) (stage : Stage) :
    (sharing.enter caller stage).stage other =
      if other = caller then stage else sharing.stage other :=
  rfl

/-- What an event can come to, and the operation made by it. -/
inductive Step (path : String) (before : Sharing) : Sharing → List Operation → Prop where
  | idle : Step path before before []
  | operated (operation : Operation) :
      Step path before { before with store := before.store.perform operation } [operation]
  | called {caller : Nat} (ready : before.stage caller = .ready) :
      Step path before (before.enter caller .waiting) []
  | locked {caller : Nat} (waiting : before.stage caller = .waiting) (free : before.holder = none) :
      Step path before { before.enter caller .locked with holder := some caller } []
  | taken {caller : Nat} (time : Calendar) (locked : before.stage caller = .locked) :
      Step path before (before.enter caller
        (.writing (before.store.saveTo before.tree path time.stamp).changes
          (before.store.saveTo before.tree path time.stamp).value)) []
  | wrote {caller : Nat} {pending : List Files.Change} {result : Except Fault Unit} (size : Nat)
      (writing : before.stage caller = .writing pending result) (further : pending ≠ []) :
      Step path before
        { before.enter caller
            (.writing (Files.Progress.step ⟨before.tree, pending⟩ size).pending result) with
          tree := (Files.Progress.step ⟨before.tree, pending⟩ size).tree } []
  | released {caller : Nat} {result : Except Fault Unit}
      (finished : before.stage caller = .writing [] result) :
      Step path before { before.enter caller .ready with holder := none } []

private theorem step_proceed (path : String) (sharing : Sharing) (caller : Nat) (time : Calendar)
    (size : Nat) : Step path sharing (sharing.proceed path caller time size) [] := by
  cases stands : sharing.stage caller with
  | ready =>
    simp only [proceed, stands]
    exact .idle
  | waiting =>
    cases held : sharing.holder with
    | none =>
      simp only [proceed, stands, held]
      exact .locked stands held
    | some other =>
      simp only [proceed, stands, held]
      exact .idle
  | locked =>
    simp only [proceed, stands]
    exact .taken time stands
  | writing pending result =>
    cases pending with
    | nil =>
      simp only [proceed, stands]
      exact .released stands
    | cons change rest =>
      simp only [proceed, stands]
      exact .wrote size stands (List.cons_ne_nil change rest)

theorem step_event (path : String) (sharing : Sharing) (event : Event) :
    Step path sharing (sharing.step path event) (sharing.made event) := by
  cases event with
  | operate caller operation =>
    cases stands : sharing.stage caller with
    | ready =>
      simp only [step, made, stands]
      exact .operated operation
    | _ =>
      simp only [step, made, stands]
      exact .idle
  | call caller =>
    cases stands : sharing.stage caller with
    | ready =>
      simp only [step, made, stands]
      exact .called stands
    | _ =>
      simp only [step, made, stands]
      exact .idle
  | proceed caller time size => exact step_proceed path sharing caller time size

/-- Who is said to have the lock is who behaves so. -/
def Exclusive (sharing : Sharing) : Prop :=
  ∀ caller, (sharing.stage caller).holds ↔ sharing.holder = some caller

namespace Exclusive

theorem unique (exclusive : before.Exclusive) (first : (before.stage caller).holds)
    (second : (before.stage other).holds) : other = caller := by
  have one := (exclusive caller).mp first
  rw [(exclusive other).mp second] at one
  exact Option.some.inj one

/-- A caller that stays on the same side of the lock does not disturb this. -/
theorem enter (exclusive : before.Exclusive)
    (same : stage.holds = (before.stage caller).holds) : (before.enter caller stage).Exclusive := by
  intro other
  by_cases self : other = caller
  · rw [stage_enter, if_pos self, same, self]
    exact exclusive caller
  · rw [stage_enter, if_neg self]
    exact exclusive other

theorem step (exclusive : before.Exclusive) (step : Step path before after made) :
    after.Exclusive := by
  cases step with
  | idle => exact exclusive
  | operated operation => exact exclusive
  | called ready => exact exclusive.enter (by simp [ready, Stage.holds])
  | @locked caller waiting free =>
    intro other
    have none : (before.stage other).holds = false := by
      rw [← Bool.not_eq_true, exclusive other, free]
      simp
    by_cases self : other = caller
    · simp [self, Stage.holds]
    · simp [self, none, Ne.symm self]
  | taken time locked => exact exclusive.enter (by simp [locked, Stage.holds])
  | wrote size writing further => exact exclusive.enter (by simp [writing, Stage.holds])
  | @released caller result finished =>
    intro other
    by_cases self : other = caller
    · simp [self, Stage.holds]
    · have alone : (before.stage other).holds ≠ true := by
        intro holds
        exact self (exclusive.unique (by simp [finished, Stage.holds]) holds)
      simp [self, alone]

end Exclusive

theorem Step.store (step : Step path before after made) :
    after.store = before.store.performAll made := by
  cases step <;> rfl

/-- The store at a moment is what the operations made until then make of the first one. -/
theorem run_store (path : String) (schedule : Nat → Event) (start : Sharing) (moment : Nat) :
    (run path schedule start moment).store =
      start.store.performAll (operations path schedule start moment) := by
  induction moment with
  | zero => rfl
  | succ moment ih =>
    rw [run, (step_event path _ (schedule moment)).store, ih, operations, Store.performAll_append]

theorem operations_prefix (path : String) (schedule : Nat → Event) (start : Sharing)
    {earlier later : Nat} (order : earlier ≤ later) :
    operations path schedule start earlier <+: operations path schedule start later := by
  induction order with
  | refl => exact List.prefix_refl _
  | step _ ih => exact ih.trans (List.prefix_append _ _)

end Sharing

end PropertyStore
