import PropertyStore.Log.Setup

/-! Calls that set up the log of one process. One after the other they are whole set-ups. Those at
the same time take the steps of a set-up between each other's: each looks up what is remembered, and
only if that was nothing does it do the set-up proper and remember its end. -/

namespace PropertyStore.Log

/-- The log as a caller has it who has set it up. -/
structure System where
  config : Config
  deriving Repr, DecidableEq

/-- A call for a set-up, with the directives and the files that it finds. -/
structure Call where
  config : Config
  directives : String := ""
  tree : Files.Tree := {}

namespace Call

/-- What the caller is told of a set-up's end. -/
def answer (call : Call) (ending : Except SetupFault Unit) : Except SetupFault System :=
  ending.map fun _ => ⟨call.config⟩

inductive Stage where
  | waiting
  /-- Has found nothing remembered. -/
  | begun
  /-- Has done the set-up proper and remembered nothing yet. -/
  | ended (ending : Except SetupFault Unit)
  | answered (answer : Except SetupFault System)

end Call

namespace State

def serve (state : State) (call : Call) : State × Report (Except SetupFault System) :=
  let (after, report) := state.setUp call.config call.directives call.tree
  (after, report.map call.answer)

/-- Sets up the log for callers who come one after the other. -/
def serveAll (state : State) : List Call → State × List (Report (Except SetupFault System))
  | [] => (state, [])
  | call :: rest =>
    let (after, report) := state.serve call
    let (last, reports) := after.serveAll rest
    (last, report :: reports)

end State

/-- The log of a process and how far the calls for it have come. -/
structure Callers where
  log : State := {}
  stage : Nat → Call.Stage := fun _ => .waiting

namespace Callers

def enter (callers : Callers) (caller : Nat) (stage : Call.Stage) : Callers :=
  { callers with stage := fun other => if other = caller then stage else callers.stage other }

def step (calls : Nat → Call) (callers : Callers) (caller : Nat) : Callers :=
  let call := calls caller
  match callers.stage caller with
  | .waiting =>
    match callers.log.remembered? with
    | some ending => callers.enter caller (.answered (call.answer ending))
    | none => callers.enter caller .begun
  | .begun =>
    let (log, report) := callers.log.install call.config call.directives call.tree
    { callers.enter caller (.ended report.value) with log }
  | .ended ending =>
    { callers.enter caller (.answered (call.answer ending)) with
      log := callers.log.remember ending }
  | .answered _ => callers

/-- The moments of a run: what there is after each number of steps. -/
def run (calls : Nat → Call) (schedule : Nat → Nat) (start : Callers := {}) : Nat → Callers
  | 0 => start
  | moment + 1 => (run calls schedule start moment).step calls (schedule moment)

end Callers

end PropertyStore.Log
