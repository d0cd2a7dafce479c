import PropertyStore.Log.Callers
import PropertyStore.Program

/-! Setting up a log again and again. The first set-up settles how all of them end; the later ones
look no further than what it has left, so they touch neither files nor what records go to. -/

namespace PropertyStore

theorem Log.SetupFault.message_failedBefore (reason : String) :
    (failedBefore reason).message = "日志系统之前初始化失败: " ++ reason :=
  rfl

namespace Log.State

variable {state : State} {result : Except String Unit} {config : Config} {directives : String}
  {tree : Files.Tree} {fault : SetupFault}

private theorem setUp_settled (settled : state.settled = some result) (config : Config)
    (directives : String) (tree : Files.Tree) :
    state.setUp config directives tree = (state, ⟨result.mapError SetupFault.failedBefore, []⟩) := by
  rw [setUp, remembered?, settled, Option.map_some]

private theorem setUp_fresh (fresh : state.settled = none) (config : Config) (directives : String)
    (tree : Files.Tree) :
    let installing := state.install config directives tree
    state.setUp config directives tree =
      (installing.1.remember installing.2.value, installing.2) := by
  rw [setUp, remembered?, fresh, Option.map_none]

theorem install_fault (failed : (state.install config directives tree).2.value = .error fault) :
    ∃ path cause, config.openFile? = some path ∧ fault = .cannotOpen path cause := by
  rw [install] at failed
  cases opening : (openSink config tree).value with
  | ok sink =>
    rw [opening] at failed
    cases failed
  | error other =>
    rw [opening] at failed
    cases failed
    rw [openSink] at opening
    split at opening
    · cases opening
    · rename_i path named
      dsimp only at opening
      split at opening
      · cases opening
      · cases opening
        exact ⟨path, _, named, rfl⟩

private theorem serve_settled (settled : state.settled = some result) (call : Call) :
    state.serve call =
      (state, ⟨call.answer (result.mapError SetupFault.failedBefore), []⟩) := by
  rw [serve, setUp_settled settled]
  rfl

private theorem serveAll_cons (state : State) (call : Call) (rest : List Call) :
    state.serveAll (call :: rest) =
      (((state.serve call).1.serveAll rest).1,
        (state.serve call).2 :: ((state.serve call).1.serveAll rest).2) :=
  rfl

private theorem serveAll_settled (settled : state.settled = some result) (calls : List Call) :
    state.serveAll calls = (state, calls.map fun call =>
      ⟨call.answer (result.mapError SetupFault.failedBefore), []⟩) := by
  induction calls with
  | nil => rfl
  | cons call rest ih => rw [serveAll_cons, serve_settled settled, ih, List.map_cons]

private theorem settled_serve (fresh : state.settled = none) (call : Call) :
    let done := state.serve call
    ∃ ending, done.1.settled = some (ending.mapError SetupFault.message) ∧
      done.2.value = call.answer ending ∧
      ending = (state.install call.config call.directives call.tree).2.value := by
  intro done
  have whole : done = _ := congrArg
    (fun done : State × Report (Except SetupFault Unit) => (done.1, done.2.map call.answer))
    (setUp_fresh fresh call.config call.directives call.tree)
  rw [whole]
  exact ⟨_, rfl, rfl, rfl⟩

end Log.State

theorem Session.setUpLog_settled {session : Session} {result : Except String Unit}
    (settled : session.log.settled = some result) (instant : String) (config : Log.Config)
    (directives : String) : (session.setUpLog instant config directives).1 = session := by
  rw [setUpLog, Log.State.setUp_settled settled]
  rfl

namespace Log.State

/-- However many callers set up the log one after the other, only the first call does anything. If it
succeeds, all of them do, each with the log that it asked for. If it fails, it is because its file
could not be opened, and all that come later fail and say so, none of them about another than the
first. -/
theorem first_setUp_decides (recorder : Option Recorder) (first : Call) (rest : List Call) :
    let start : State := { recorder }
    let after := (start.serve first).1
    let report := (start.serve first).2
    let later (call : Call) : Except SetupFault System :=
      match report.value with
      | .ok _ => .ok ⟨call.config⟩
      | .error fault => .error (.failedBefore fault.message)
    start.serveAll (first :: rest) =
        (after, report :: rest.map fun call => ⟨later call, []⟩) ∧
      (∀ system, report.value = .ok system → system = ⟨first.config⟩) ∧
      (∀ fault, report.value = .error fault →
        (∃ path cause, first.config.openFile? = some path ∧ fault = .cannotOpen path cause) ∧
          (SetupFault.failedBefore fault.message).message =
            "日志系统之前初始化失败: " ++ fault.message) ∧
      ∀ session : Session, session.log.settled = after.settled → ∀ instant config directives,
        (session.setUpLog instant config directives).1 = session := by
  intro start after report later
  obtain ⟨ending, settled, value, installed⟩ := settled_serve (show start.settled = none from rfl) first
  have told : ∀ call, later call =
      call.answer ((ending.mapError SetupFault.message).mapError SetupFault.failedBefore) := by
    intro call
    simp only [later, report, value]
    cases ending <;> rfl
  refine ⟨?_, ?_, ?_, ?_⟩
  · rw [serveAll_cons, serveAll_settled settled]
    simp only [told]
    rfl
  · intro system ended
    rw [value] at ended
    cases ending with
    | error fault => cases ended
    | ok done =>
      cases ended
      rfl
  · intro fault failed
    rw [value] at failed
    cases ending with
    | ok done => cases failed
    | error other =>
      cases failed
      exact ⟨install_fault installed.symm, SetupFault.message_failedBefore _⟩
  · intro session same instant config directives
    exact Session.setUpLog_settled (same.trans settled) instant config directives

end Log.State

end PropertyStore
