import PropertyStore.Proofs.Program

namespace PropertyStore

/-- One run of the program: its invocation and what it finds around it besides the files. -/
structure Run where
  invocation : Usage.Invocation
  home : Option String
  directives : String
  time : Calendar

namespace Run

def ending (run : Run) (tree : Files.Tree) : Program.Ending :=
  Program.run run.invocation run.home run.directives run.time.moment tree

def report (run : Run) (tree : Files.Tree) : Report (Except Failure Unit) :=
  Command.carryOut run.invocation tree run.time.stamp (Program.sharedStore run.home tree)

/-- The run works on the file at a path, which it names or which is its default file, and
keeps no log file. -/
structure OnFile (run : Run) (path : String) : Prop where
  fileless : run.invocation.logFile = none
  file : run.invocation.file = some path ∨
    run.invocation.file = none ∧ run.home.map Program.defaultPath = some path

/-- One step of the files and, beside them, of a map that only successful commands change. -/
def step (state : Files.Tree × Properties) (run : Run) : Files.Tree × Properties :=
  let ending := run.ending state.1
  (ending.session.tree,
    if ending.exitCode = 0 then Command.effect state.2 run.invocation.command else state.2)

/-- The files and the map after runs. -/
def steps (state : Files.Tree × Properties) (runs : List Run) : Files.Tree × Properties :=
  runs.foldl step state

/-- The run says and decides exactly what an answer does; the log's records stand among the
complaints. -/
structure Gives (run : Run) (tree : Files.Tree) (answer : Command.Answer) : Prop where
  exitCode : (run.ending tree).exitCode = if answer.result.isOk then 0 else 1
  output : (run.ending tree).session.output = outputText answer.lines
  complaints : Mixed run.time.instant
    (Log.Filter.complaints run.directives ++ answer.complaints ++
      Program.finalComplaints answer.result) (run.ending tree).session.complaints

variable {run : Run} {tree : Files.Tree} {path : String} {properties : Properties}

def performed (run : Run) (path : String) (state : Files.Tree × Properties) :
    Report Command.Outcome :=
  Command.perform (Command.Setting.ofInvocation run.invocation state.1 run.time.stamp)
    (Store.holding path state.2) run.invocation.command

/-- The file at a path holds the map, in a tree where it can be replaced. -/
structure Simulates (path : String) (state : Files.Tree × Properties) : Prop where
  ready : state.1.Ready path
  holds : Holds state.1 path state.2

variable {state : Files.Tree × Properties}

theorem OnFile.report_eq (onFile : run.OnFile path) (holds : Holds state.1 path state.2) :
    (run.report state.1).value = (run.performed path state).value.result ∧
      ∃ opening, Quiet opening ∧
        (run.report state.1).notices = opening ++ (run.performed path state).notices := by
  rcases onFile.file with named | ⟨unnamed, home⟩
  · obtain ⟨value, quiet⟩ := Store.openStrict_of_holds holds
    simp only [report, Command.carryOut, named, value]
    exact ⟨rfl, _, quiet, rfl⟩
  · obtain ⟨value, quiet⟩ := Store.openLenient_of_holds holds
    have shared : Program.sharedStore run.home state.1 = Store.openLenient state.1 path := by
      rw [Program.sharedStore, home]
      rfl
    simp only [report, Command.carryOut, unnamed, shared, Report.bind, Report.map, value]
    exact ⟨rfl, _, quiet, rfl⟩

theorem Simulates.ending (simulates : Simulates path state) (onFile : run.OnFile path) :
    (run.ending state.1).session.tree = state.1.applyAll (run.performed path state).changes ∧
      run.Gives state.1 ⟨(run.performed path state).value.result, (run.performed path state).output,
        (run.performed path state).complaints⟩ := by
  obtain ⟨value, opening, quiet, notices⟩ := onFile.report_eq simulates.holds
  obtain ⟨exitCode, files, output, complaints⟩ := Program.run_onConsole run.invocation run.home
    run.directives run.time.moment state.1 onFile.fileless
  change (run.ending state.1).exitCode = if (run.report state.1).value.isOk then 0 else 1 at exitCode
  change (run.ending state.1).session.tree = state.1.applyAll (run.report state.1).changes at files
  change (run.ending state.1).session.output = outputText (run.report state.1).output at output
  change Mixed _ (_ ++ (run.report state.1).complaints ++ Program.finalComplaints
    (run.report state.1).value) (run.ending state.1).session.complaints at complaints
  rw [value] at exitCode complaints
  rw [Report.changes_eq, notices, changesOf_append, quiet.changesOf_eq] at files
  rw [Report.output_eq, notices, linesOf_append, quiet.linesOf_eq] at output
  rw [Report.complaints_eq, notices, complaintsOf_append, quiet.complaintsOf_eq] at complaints
  exact ⟨files, exitCode, output, complaints⟩

theorem Simulates.step (simulates : Simulates path state) (onFile : run.OnFile path) :
    Simulates path (step state run) := by
  obtain ⟨files, gives⟩ := simulates.ending onFile
  obtain ⟨ready, holds⟩ := Command.perform_holds simulates.ready simulates.holds run.time
    run.invocation.isVerbose (run.invocation.logFormat = .json) run.invocation.command
  have chosen (success : Bool) (changed same : Properties) :
      (if (if success then 0 else 1) = 0 then changed else same) =
        if success then changed else same := by
    cases success <;> rfl
  constructor
  · rw [Run.step, files]
    exact ready
  · rw [Run.step, files, gives.exitCode, chosen]
    exact holds

theorem Simulates.steps (simulates : Simulates path state) (runs : List Run)
    (onFile : ∀ run ∈ runs, run.OnFile path) : Simulates path (steps state runs) := by
  induction runs generalizing state with
  | nil => exact simulates
  | cons run rest ih =>
    have next := simulates.step (onFile run List.mem_cons_self)
    exact ih next fun other later => onFile other (List.mem_cons_of_mem _ later)

theorem Simulates.answer (simulates : Simulates path state) (onFile : run.OnFile path)
    {answer : Command.Answer}
    (answered : Command.answer? path run.invocation.isVerbose state.2 run.invocation.command =
      some answer) : run.Gives state.1 answer := by
  obtain ⟨_, gives⟩ := simulates.ending onFile
  obtain ⟨result, said⟩ := Command.perform_holding
    (Command.Setting.ofInvocation run.invocation state.1 run.time.stamp) answered
  have lines : (run.performed path state).output = answer.lines := by
    rw [Report.output_eq, performed, said, linesOf_append, linesOf_lines, linesOf_complaints,
      List.append_nil]
  have complaints : (run.performed path state).complaints = answer.complaints := by
    rw [Report.complaints_eq, performed, said, complaintsOf_append, complaintsOf_lines,
      complaintsOf_complaints]
    rfl
  have result : (run.performed path state).value.result = answer.result := result
  rwa [lines, complaints, result] at gives

end Run

/-- Runs on one file do to what it holds what their commands do to a map: after any number of
them the file is absent and the map empty, or it loads as the map, which the commands that
succeeded have changed, each in its turn. A command that only asks is answered from the map, so
a value that was set is what a run prints that asks for it. -/
theorem runs_simulate_map {tree : Files.Tree} {path : String} {properties : Properties}
    (wellFormed : tree.WellFormed) (unlinked : tree.TemporaryUnlinked path)
    (holds : Holds tree path properties) (runs : List Run)
    (onFile : ∀ run ∈ runs, run.OnFile path) (count : Nat) :
    let state := Run.steps (tree, properties) (runs.take count)
    Holds state.1 path state.2 ∧
      (∀ run : Run, run.OnFile path → ∀ answer,
        Command.answer? path run.invocation.isVerbose state.2 run.invocation.command =
          some answer → run.Gives state.1 answer) ∧
      ∀ (setting getting : Run) (key value : String), setting.OnFile path → getting.OnFile path →
        '=' ∉ key.toList → setting.invocation.command = .set [key ++ "=" ++ value] →
        getting.invocation.command = .get key none .text →
        (setting.ending state.1).exitCode = 0 →
        let next := getting.ending (setting.ending state.1).session.tree
        next.exitCode = 0 ∧ next.session.output = value ++ "\n" := by
  intro state
  have start : Run.Simulates path (tree, properties) :=
    ⟨⟨wellFormed, unlinked, holds.settled⟩, holds⟩
  have simulates : Run.Simulates path state :=
    start.steps (runs.take count) fun run member => onFile run (List.mem_of_mem_take member)
  refine ⟨simulates.holds, fun run asking answer answered => simulates.answer asking answered, ?_⟩
  intro setting getting key value settingOn gettingOn plain sets gets success
  have next := simulates.step settingOn
  have map : (Run.step state setting).2 = state.2.insert key value := by
    simp only [Run.step, success, sets, if_true]
    exact Command.effect_set state.2 key value plain
  have found : Command.answer? path getting.invocation.isVerbose (Run.step state setting).2
      getting.invocation.command = some { lines := [value] } := by
    rw [gets, map]
    simp [Command.answer?, Command.answerText]
  have gives := next.answer gettingOn found
  refine ⟨gives.exitCode, gives.output.trans ?_⟩
  simp [outputText, String.join_cons]

/-- A run on the file `p` in which nothing but the command matters. -/
def plainRun (command : Command) : Run where
  invocation := ⟨some "p", .warn, none, .text, false, command⟩
  home := none
  directives := ""
  time := ⟨1970, 1, 1, 4, 0, 0, 0, 0⟩

/-- Through the link a property is removed and one with a `=` in its value is set and read. -/
theorem runs_simulate_map_linked :
    let map := Properties.ofEntries [("a", "1")]
    let runs := [plainRun (.remove ["a"]), plainRun (.list .text)]
    let state := Run.steps (linkedTree, map) runs
    linkedTree.WellFormed ∧ linkedTree.TemporaryUnlinked "p" ∧ Holds linkedTree "p" map ∧
      (∀ run ∈ runs, run.OnFile "p") ∧ Holds state.1 "p" state.2 ∧
      ((plainRun (.get "k" none .text)).ending
        ((plainRun (.set ["k" ++ "=" ++ "v=w"])).ending state.1).session.tree).session.output =
          "v=w" ++ "\n" := by
  intro map runs
  have unlinked : linkedTree.TemporaryUnlinked "p" := by
    intro target temporary aim beside place slashed slot
    have target_eq : Files.Replacement.targetOf linkedTree "p" = .ok "/d/real" := by
      decide +kernel
    cases aim.symm.trans target_eq
    have temporary_eq : Files.Path.sibling? "/d/real" Files.temporarySuffix =
        some "/d/real.tmp" := by
      decide +kernel
    cases beside.symm.trans temporary_eq
    have slot_eq : linkedTree.slot "/d/real.tmp" = .ok (["d", "real.tmp"], false) := by
      decide +kernel
    cases slot.symm.trans slot_eq
    have free : linkedTree.find? ["d", "real.tmp"] = none := by
      decide +kernel
    simp [free]
  have holds : Holds linkedTree "p" map := .inr ⟨[("a", "1")], by decide +kernel, rfl⟩
  have plain (command : Command) : (plainRun command).OnFile "p" := ⟨rfl, .inl rfl⟩
  have onFile : ∀ run ∈ runs, run.OnFile "p" := by
    intro run member
    simp only [runs, List.mem_cons, List.not_mem_nil, or_false] at member
    rcases member with rfl | rfl <;> exact plain _
  have simulated := runs_simulate_map linkedTree_wellFormed unlinked holds runs onFile 2
  have all : runs.take 2 = runs := rfl
  have success : ((plainRun (.set ["k" ++ "=" ++ "v=w"])).ending
      (Run.steps (linkedTree, map) runs).1).exitCode = 0 := by
    decide +kernel
  rw [all] at simulated
  generalize Run.steps (linkedTree, map) runs = reached at simulated success ⊢
  obtain ⟨held, _, sets⟩ := simulated
  have read := sets _ (plainRun (.get "k" none .text)) "k" "v=w" (plain _) (plain _) (by decide)
    rfl rfl success
  exact ⟨linkedTree_wellFormed, unlinked, holds, onFile, held, read.2⟩

end PropertyStore
