import Mathlib.Order.Basic
import PropertyStore.Proofs.Log.FirstSetUp

/-! Calls for a log whose steps overlap. What is remembered is looked up by one step and stored by
another, so several calls can be past the look-up before the first of them stores anything. Each of
them stores its own end over what stands there. That is all that can change it: once something is
stored, no call gets past the look-up any more. So a call that begins later is told what was stored
last, and that is a failure if one of those that overlapped has failed since. -/

namespace PropertyStore.Log

deriving instance DecidableEq for Call.Stage

def Call.CannotOpen (call : Call) (fault : SetupFault) : Prop :=
  ∃ path cause, call.config.openFile? = some path ∧ fault = .cannotOpen path cause

namespace Callers

variable {calls : Nat → Call} {schedule : Nat → Nat} {before : Callers} {caller other : Nat}
  {moment : Nat}

@[simp] theorem stage_enter (callers : Callers) (caller other : Nat) (stage : Call.Stage) :
    (callers.enter caller stage).stage other =
      if other = caller then stage else callers.stage other :=
  rfl

/-- What a caller's step can come to. -/
inductive Step (calls : Nat → Call) (before : Callers) (caller : Nat) : Callers → Prop where
  | told {result : Except String Unit} (waiting : before.stage caller = .waiting)
      (settled : before.log.settled = some result) :
      Step calls before caller (before.enter caller
        (.answered ((calls caller).answer (result.mapError SetupFault.failedBefore))))
  | begun (waiting : before.stage caller = .waiting) (fresh : before.log.settled = none) :
      Step calls before caller (before.enter caller .begun)
  | ended {log : State} {ending : Except SetupFault Unit} (begun : before.stage caller = .begun)
      (same : log.settled = before.log.settled)
      (openable : ∀ fault, ending = .error fault → (calls caller).CannotOpen fault) :
      Step calls before caller { before.enter caller (.ended ending) with log }
  | answered {ending : Except SetupFault Unit} (ended : before.stage caller = .ended ending) :
      Step calls before caller
        { before.enter caller (.answered ((calls caller).answer ending)) with
          log := before.log.remember ending }
  | idle {answer : Except SetupFault System} (answered : before.stage caller = .answered answer) :
      Step calls before caller before

private theorem settled_install (state : State) (config : Config) (directives : String)
    (tree : Files.Tree) :
    (state.install config directives tree).1.settled = state.settled := by
  rw [State.install]
  cases (State.openSink config tree).value <;> rfl

private theorem step_step (calls : Nat → Call) (before : Callers) (caller : Nat) :
    Step calls before caller (before.step calls caller) := by
  rw [step]
  cases stands : before.stage caller with
  | waiting =>
    cases settled : before.log.settled with
    | none =>
      simp only [State.remembered?, settled, Option.map_none]
      exact .begun stands settled
    | some result =>
      simp only [State.remembered?, settled, Option.map_some]
      exact .told stands settled
  | begun => exact .ended stands (settled_install _ _ _ _) fun fault => State.install_fault
  | ended ending => exact .answered stands
  | answered answer => exact .idle stands

theorem step_run (calls : Nat → Call) (schedule : Nat → Nat) (moment : Nat) :
    Step calls (run calls schedule {} moment) (schedule moment)
      (run calls schedule {} (moment + 1)) :=
  step_step calls _ _

/-- A call whose steps are taken without others between is a whole set-up. -/
theorem step_alone (calls : Nat → Call) (waiting : before.stage caller = .waiting) :
    let done := before.log.serve (calls caller)
    let after := ((before.step calls caller).step calls caller).step calls caller
    after.log = done.1 ∧ after.stage caller = .answered done.2.value := by
  intro done after
  cases settled : before.log.settled with
  | none =>
    simp only [after, done, step, waiting, State.serve, State.setUp, State.remembered?, settled,
      Option.map_none, stage_enter, if_true]
    exact ⟨rfl, rfl⟩
  | some result =>
    simp only [after, done, step, waiting, State.serve, State.setUp, State.remembered?, settled,
      Option.map_some, stage_enter, if_true]
    exact ⟨rfl, rfl⟩

/-- The call at a moment stores its end. -/
def Stores (calls : Nat → Call) (schedule : Nat → Nat) (moment : Nat)
    (ending : Except SetupFault Unit) : Prop :=
  (run calls schedule {} moment).stage (schedule moment) = .ended ending

/-- The end that was stored last before a moment. -/
def LastStored (calls : Nat → Call) (schedule : Nat → Nat) (moment : Nat)
    (ending : Except SetupFault Unit) : Prop :=
  ∃ earlier < moment, Stores calls schedule earlier ending ∧
    ∀ between, earlier < between → between < moment → ∀ other,
      ¬ Stores calls schedule between other

private theorem settled_of_stores {ending : Except SetupFault Unit}
    (stores : Stores calls schedule moment ending) :
    (run calls schedule {} (moment + 1)).log.settled =
      some (ending.mapError SetupFault.message) := by
  rw [run, step, show (run calls schedule {} moment).stage (schedule moment) = _ from stores]
  rfl

private theorem settled_of_not_stores (unstored : ∀ ending, ¬ Stores calls schedule moment ending) :
    (run calls schedule {} (moment + 1)).log.settled =
      (run calls schedule {} moment).log.settled := by
  have stepped := step_run calls schedule moment
  generalize run calls schedule {} (moment + 1) = after at stepped ⊢
  cases stepped with
  | told waiting settled => rfl
  | begun waiting fresh => rfl
  | ended begun same openable => exact same
  | answered ended => exact (unstored _ ended).elim
  | idle answered => rfl

private theorem lastStored_of_stores {ending other : Except SetupFault Unit}
    (stores : Stores calls schedule moment ending) :
    LastStored calls schedule (moment + 1) other ↔ ending = other := by
  constructor
  · rintro ⟨earlier, early, also, quiet⟩
    rcases Nat.lt_succ_iff_lt_or_eq.mp early with before | rfl
    · exact (quiet moment before (Nat.lt_succ_self moment) ending stores).elim
    · cases stores.symm.trans also
      rfl
  · rintro rfl
    refine ⟨moment, Nat.lt_succ_self moment, stores, ?_⟩
    intro between late early
    omega

private theorem lastStored_of_not_stores
    (unstored : ∀ ending, ¬ Stores calls schedule moment ending)
    (ending : Except SetupFault Unit) :
    LastStored calls schedule (moment + 1) ending ↔ LastStored calls schedule moment ending := by
  constructor
  · rintro ⟨earlier, early, stores, quiet⟩
    rcases Nat.lt_succ_iff_lt_or_eq.mp early with before | rfl
    · exact ⟨earlier, before, stores, fun between late soon =>
        quiet between late (Nat.lt_succ_of_lt soon)⟩
    · exact (unstored ending stores).elim
  · rintro ⟨earlier, early, stores, quiet⟩
    refine ⟨earlier, Nat.lt_succ_of_lt early, stores, ?_⟩
    intro between late soon
    rcases Nat.lt_succ_iff_lt_or_eq.mp soon with before | rfl
    · exact quiet between late before
    · exact unstored

private theorem settled_eq_some_iff (calls : Nat → Call) (schedule : Nat → Nat) (moment : Nat)
    (result : Except String Unit) :
    (run calls schedule {} moment).log.settled = some result ↔
      ∃ ending, LastStored calls schedule moment ending ∧
        ending.mapError SetupFault.message = result := by
  induction moment with
  | zero =>
    refine iff_of_false (by rintro ⟨⟩) ?_
    rintro ⟨ending, ⟨earlier, early, _⟩, _⟩
    exact Nat.not_lt_zero earlier early
  | succ moment ih =>
    by_cases stored : ∃ ending, Stores calls schedule moment ending
    · obtain ⟨ending, stores⟩ := stored
      simp only [settled_of_stores stores, lastStored_of_stores stores, Option.some.injEq,
        exists_eq_left']
    · have unstored : ∀ ending, ¬ Stores calls schedule moment ending :=
        fun ending stores => stored ⟨ending, stores⟩
      simp only [settled_of_not_stores unstored, lastStored_of_not_stores unstored, ih]

namespace Step

variable {after : Callers} {answer : Except SetupFault System}

theorem elsewhere (step : Step calls before caller after) (apart : other ≠ caller) :
    after.stage other = before.stage other := by
  cases step <;> simp [apart]

private theorem settled (step : Step calls before caller after)
    (settled : before.log.settled ≠ none) :
    after.log.settled ≠ none := by
  cases step with
  | told waiting present => exact settled
  | begun waiting fresh => exact settled
  | ended begun same openable => exact same ▸ settled
  | answered ended => exact Option.some_ne_none _
  | idle answered => exact settled

private theorem keeps_answer (step : Step calls before caller after)
    (answered : before.stage other = .answered answer) : after.stage other = .answered answer := by
  by_cases apart : other = caller
  · subst apart
    cases step with
    | idle _ => exact answered
    | told now => cases now.symm.trans answered
    | begun now => cases now.symm.trans answered
    | ended now => cases now.symm.trans answered
    | answered now => cases now.symm.trans answered
  · rw [step.elsewhere apart, answered]

private theorem answers_settled (step : Step calls before caller after)
    (earlier : ∀ other answer, before.stage other = .answered answer → before.log.settled ≠ none)
    (other : Nat) (answer : Except SetupFault System)
    (answered : after.stage other = .answered answer) : after.log.settled ≠ none := by
  by_cases apart : other = caller
  · subst apart
    cases step with
    | told waiting settled => exact settled ▸ Option.some_ne_none _
    | begun waiting fresh => simp at answered
    | ended begun same openable => simp at answered
    | answered ended => exact Option.some_ne_none _
    | idle still => exact earlier _ _ still
  · rw [step.elsewhere apart] at answered
    exact step.settled (earlier other answer answered)

private theorem waits_or_answered (step : Step calls before caller after)
    (settled : before.log.settled ≠ none)
    (waits : before.stage other = .waiting ∨ ∃ answer, before.stage other = .answered answer) :
    after.stage other = .waiting ∨ ∃ answer, after.stage other = .answered answer := by
  by_cases apart : other = caller
  · subst apart
    cases step with
    | told waiting present => exact .inr ⟨_, if_pos rfl⟩
    | begun waiting fresh => exact (settled fresh).elim
    | ended begun same openable => simp [begun] at waits
    | answered ended => exact .inr ⟨_, if_pos rfl⟩
    | idle answered => exact waits
  · rwa [step.elsewhere apart]

private theorem cannotOpen (step : Step calls before caller after)
    (earlier : ∀ other fault, before.stage other = .ended (.error fault) →
      (calls other).CannotOpen fault) (other : Nat) (fault : SetupFault)
    (failed : after.stage other = .ended (.error fault)) : (calls other).CannotOpen fault := by
  by_cases apart : other = caller
  · subst apart
    cases step with
    | told waiting present => simp at failed
    | begun waiting fresh => simp at failed
    | ended begun same openable => exact openable fault (by simpa using failed)
    | answered ended => simp at failed
    | idle answered => exact earlier other fault failed
  · rw [step.elsewhere apart] at failed
    exact earlier other fault failed

end Step

private theorem cannotOpen_of_stores {fault : SetupFault}
    (stores : Stores calls schedule moment (.error fault)) :
    (calls (schedule moment)).CannotOpen fault := by
  have sound : ∀ moment other fault,
      (run calls schedule {} moment).stage other = .ended (.error fault) →
        (calls other).CannotOpen fault := by
    intro moment
    induction moment with
    | zero => rintro other fault ⟨⟩
    | succ moment ih => exact (step_run calls schedule moment).cannotOpen ih
  exact sound moment _ fault stores

private theorem settled_of_answered {answer : Except SetupFault System}
    (answered : (run calls schedule {} moment).stage other = .answered answer) :
    (run calls schedule {} moment).log.settled ≠ none := by
  induction moment generalizing other answer with
  | zero => cases answered
  | succ moment ih =>
    exact (step_run calls schedule moment).answers_settled (fun _ _ => ih) other answer answered

section Later

variable {earlier later : Nat} (order : earlier ≤ later)

include order

private theorem settled_later (settled : (run calls schedule {} earlier).log.settled ≠ none) :
    (run calls schedule {} later).log.settled ≠ none := by
  induction order with
  | refl => exact settled
  | step _ ih => exact (step_run calls schedule _).settled ih

private theorem answered_later {answer : Except SetupFault System}
    (answered : (run calls schedule {} earlier).stage other = .answered answer) :
    (run calls schedule {} later).stage other = .answered answer := by
  induction order with
  | refl => exact answered
  | step _ ih => exact (step_run calls schedule _).keeps_answer ih

private theorem waits_or_answered_later
    (settled : (run calls schedule {} earlier).log.settled ≠ none)
    (waiting : (run calls schedule {} earlier).stage other = .waiting) :
    (run calls schedule {} later).stage other = .waiting ∨
      ∃ answer, (run calls schedule {} later).stage other = .answered answer := by
  induction order with
  | refl => exact .inl waiting
  | step order ih =>
    exact (step_run calls schedule _).waits_or_answered (settled_later order settled) ih

private theorem not_stores_of_waiting (settled : (run calls schedule {} earlier).log.settled ≠ none)
    (waiting : (run calls schedule {} earlier).stage (schedule later) = .waiting)
    (ending : Except SetupFault Unit) : ¬ Stores calls schedule later ending := by
  intro stores
  rcases waits_or_answered_later order settled waiting with still | ⟨answer, answered⟩
  · cases still.symm.trans stores
  · cases answered.symm.trans stores

end Later

private theorem told_of_waiting {result : Except String Unit}
    (settled : (run calls schedule {} moment).log.settled = some result)
    (waiting : (run calls schedule {} moment).stage (schedule moment) = .waiting) :
    (run calls schedule {} (moment + 1)).stage (schedule moment) =
      .answered ((calls (schedule moment)).answer (result.mapError SetupFault.failedBefore)) := by
  rw [run, step, waiting, State.remembered?, settled]
  simp

private theorem settled_ok_iff (settled : (run calls schedule {} moment).log.settled ≠ none) :
    (run calls schedule {} moment).log.settled = some (.ok ()) ↔
      ¬ ∃ fault, LastStored calls schedule moment (.error fault) := by
  have stored := settled_eq_some_iff calls schedule moment
  constructor
  · rintro success ⟨fault, failed⟩
    cases success.symm.trans ((stored _).mpr ⟨_, failed, rfl⟩)
  · intro unfailed
    obtain ⟨result, present⟩ := Option.ne_none_iff_exists'.mp settled
    obtain ⟨ending, last, rfl⟩ := (stored result).mp present
    cases ending with
    | ok done => exact present
    | error fault => exact (unfailed ⟨fault, last⟩).elim

/-- After a call has succeeded, it stays remembered that the log is set up, and calls that begin
later succeed, if and only if no failure has been stored last. If one has, a call that begins then
fails for it. Only calls that were under way when the first one succeeded can store any more, and a
failure is stored by one that could not open its file. -/
theorem later_call_ok_iff (calls : Nat → Call) (schedule : Nat → Nat) {system : System}
    {early late moment beginning : Nat}
    (succeeded : (run calls schedule {} moment).stage early = .answered (.ok system))
    (later : moment ≤ beginning)
    (waiting : (run calls schedule {} beginning).stage late = .waiting)
    (begins : schedule beginning = late) :
    ((run calls schedule {} beginning).log.settled = some (.ok ()) ↔
        ¬ ∃ fault, LastStored calls schedule beginning (.error fault)) ∧
      (∃ answer, (∀ after, beginning < after →
          (run calls schedule {} after).stage late = .answered answer) ∧
        (answer = .ok ⟨(calls late).config⟩ ↔
          ¬ ∃ fault, LastStored calls schedule beginning (.error fault)) ∧
        ∀ fault, LastStored calls schedule beginning (.error fault) →
          answer = .error (.failedBefore fault.message)) ∧
      ∀ after ending, moment ≤ after → Stores calls schedule after ending →
        (run calls schedule {} moment).stage (schedule after) ≠ .waiting ∧
          ∀ fault, ending = .error fault → (calls (schedule after)).CannotOpen fault := by
  subst begins
  have settled := settled_of_answered succeeded
  have still := settled_later later settled
  obtain ⟨result, present⟩ := Option.ne_none_iff_exists'.mp still
  have told := told_of_waiting present waiting
  refine ⟨settled_ok_iff still, ⟨_, fun after behind => answered_later behind told, ?_, ?_⟩, ?_⟩
  · rw [← settled_ok_iff still, present]
    cases result with
    | error reason => exact iff_of_false (by rintro ⟨⟩) (by rintro ⟨⟩)
    | ok done => exact iff_of_true rfl rfl
  · intro fault stored
    have same := (settled_eq_some_iff calls schedule beginning _).mpr ⟨_, stored, rfl⟩
    cases present.symm.trans same
    rfl
  · intro after ending behind stores
    constructor
    · intro waits
      exact not_stores_of_waiting behind settled waits ending stores
    · rintro fault rfl
      exact cannotOpen_of_stores stores

/-- Callers of whom the first asks for a file that cannot be opened. -/
def overlapCalls (caller : Nat) : Call where
  config := if caller = 0 then { file := some "missing/log", console := false } else {}

/-- The second caller begins after the first and is answered before the first goes on. The third
begins when both are answered. -/
def overlapSchedule (moment : Nat) : Nat := [0, 1, 1, 1, 0, 0].getD moment 2

theorem later_call_ok_iff_overlap :
    let moments := run overlapCalls overlapSchedule {}
    (moments 4).stage 1 = .answered (.ok ⟨{}⟩) ∧ (moments 6).stage 2 = .waiting ∧
      (moments 7).stage 2 = .answered (.error (.failedBefore
        (SetupFault.cannotOpen "missing/log" .notFound).message)) := by
  intro moments
  have succeeded : (moments 4).stage 1 = .answered (.ok ⟨{}⟩) := by
    decide +kernel
  have waiting : (moments 6).stage 2 = .waiting := by
    decide +kernel
  have stored : LastStored overlapCalls overlapSchedule 6
      (.error (.cannotOpen "missing/log" .notFound)) := by
    have stores : (moments 5).stage 0 = .ended (.error (.cannotOpen "missing/log" .notFound)) := by
      decide +kernel
    refine ⟨5, by decide, stores, ?_⟩
    intro between late early
    omega
  obtain ⟨_, ⟨answer, answered, _, fails⟩, _⟩ :=
    later_call_ok_iff overlapCalls overlapSchedule succeeded (by decide) waiting rfl
  rw [← fails _ stored]
  exact ⟨succeeded, waiting, answered 7 (by decide)⟩

/-- A call that begins after another has succeeded can fail. -/
theorem later_call_fails :
    ¬ ∀ (calls : Nat → Call) (schedule : Nat → Nat) (system : System)
        (early late moment beginning : Nat),
      (run calls schedule {} moment).stage early = .answered (.ok system) → moment ≤ beginning →
      (run calls schedule {} beginning).stage late = .waiting → schedule beginning = late →
      ∃ system, (run calls schedule {} (beginning + 1)).stage late = .answered (.ok system) := by
  intro law
  obtain ⟨system, answered⟩ := law overlapCalls overlapSchedule ⟨{}⟩ 1 2 4 6 (by decide +kernel)
    (by decide) (by decide +kernel) rfl
  have failed : (run overlapCalls overlapSchedule {} 7).stage 2 = .answered (.error (.failedBefore
      (SetupFault.cannotOpen "missing/log" .notFound).message)) := by
    decide +kernel
  cases failed.symm.trans answered

end Callers

end PropertyStore.Log
