import PropertyStore.Proofs.Command.Failing
import PropertyStore.Proofs.Session

/-! Processes that end in a failure, or whose command only reads. However far they get, from the
words of the command line to the last step of a save, they leave all files as they were but that of
the log. -/

namespace PropertyStore

variable {tree begun : Files.Tree} {places : List Files.Place} {about : String → Prop}
  {access : Access} {home : Option String}

/-- Changes that were in vain in a tree to which files were added elsewhere leave it as it is, and
those files alone. -/
theorem InVain.elsewhere {stamp : String} {changes : List Files.Change}
    (vain : InVain begun stamp about changes) (wellFormed : tree.WellFormed)
    (grown : Files.Grown places tree begun)
    (free : ∀ path, about path → tree.TemporaryFree path)
    (apart : ∀ path, about path → tree.Apart path places) :
    Files.AlikeBut places begun (begun.applyAll changes) ∧
      ∀ change ∈ changes, ∀ place ∈ change.places, place ∉ places := by
  obtain ⟨start, same, aside⟩ := vain.undone (grown.wellFormed wellFormed) fun path named =>
    grown.temporaryFree (apart path named) (free path named)
  constructor
  · refine ⟨start, fun place _ => same place, ?_⟩
    intro place listed
    have closed := (grown.alike.closed place listed).2
    exact ⟨closed, by rwa [Files.Tree.isDirectory, same]⟩
  · intro change member place touched listed
    obtain ⟨path, hole, named, beside, only⟩ := aside change member
    rw [only, List.mem_singleton] at touched
    subst touched
    exact (apart path named).aside place listed (grown.temporaryPlace (apart path named) beside)

namespace Session

variable {instant : String}

private theorem grown_started {config : Log.Config} {directives : String} {prepared : Session}
    {result : Except Log.SetupFault Unit} (wellFormed : tree.WellFormed)
    (done : setUpLog { tree } instant config directives = (prepared, result)) (event : Log.Event) :
    let started := prepared.present instant (.event event)
    Confined tree (config.places tree) started ∧
      Files.Grown (config.places tree) tree started.tree := by
  intro started
  have confined := confined_setUpLog tree instant config directives
  rw [done] at confined
  have onward := confined.present instant (within_event event)
  refine ⟨onward, onward.alike, ?_, ?_, config.rooted_places wellFormed⟩
  · intro place listed
    have solid := solid_setUpLog wellFormed instant config directives listed
    rw [done] at solid
    exact solid_writeEvent solid instant event
  · exact fun place listed => (config.solid_places tree place listed).2 wellFormed

theorem Confined.closing_inVain {session : Session} {report : Report (Except Failure Unit)}
    {stamp : String} (confined : Confined tree places session) (wellFormed : tree.WellFormed)
    (grown : Files.Grown places tree session.tree)
    (vain : InVain session.tree stamp about report.changes)
    (free : ∀ path, about path → tree.TemporaryFree path)
    (apart : ∀ path, about path → tree.Apart path places) (instant : String) :
    Files.AlikeBut places tree (session.presentAll instant
      (report.notices ++ Program.closingNotices report.value)).tree := by
  obtain ⟨unchanged, elsewhere⟩ := vain.elsewhere wellFormed grown free apart
  rw [← Program.changesOf_closing report] at unchanged elsewhere
  have shown := confined.onward.presentAll_elsewhere instant elsewhere
  exact confined.alike.trans (unchanged.trans shown.alike)

end Session

namespace Program

variable {invocation : Usage.Invocation} {words : List String}
  {environment : List (String × String)}

private theorem failed_of_exitCode {result : Except Failure Unit}
    (exitCode : (if result.isOk then 0 else 1) ≠ 0) : ∃ failure, result = .error failure := by
  cases result with
  | ok _ => exact (exitCode rfl).elim
  | error failure => exact ⟨failure, rfl⟩

/-- A run that fails, or whose command only reads, leaves the tree alike but for the log's file. -/
theorem run_alike (wellFormed : tree.WellFormed)
    (free : ∀ path, invocation.IsAbout home path → tree.TemporaryFree path)
    (apart : ∀ path, invocation.IsAbout home path →
      tree.Apart path (invocation.logConfig.places tree))
    (directives : String) (moment : Moment) :
    let ending := run invocation home directives moment tree access
    (ending.exitCode ≠ 0 ∨ ¬ invocation.command.Saves) →
      Files.AlikeBut (invocation.logConfig.places tree) tree ending.session.tree := by
  intro ending spared
  cases done : Session.setUpLog { tree } moment.instant invocation.logConfig directives with
  | mk prepared result =>
    cases result with
    | error fault =>
      have whole : ending = _ := run_unready done home access
      have confined :=
        Session.confined_setUpLog tree moment.instant invocation.logConfig directives
      rw [done] at confined
      rw [whole]
      exact (confined.present moment.instant (Session.within_complaint _)).alike
    | ok _ =>
      have whole : ending = _ := run_eq done
      obtain ⟨confined, grown⟩ :=
        Session.grown_started wellFormed done (.started Command.programVersion)
      rw [whole] at spared ⊢
      have vain := Command.carryOut_inVain invocation home _ moment.stamp access
        (spared.imp_left failed_of_exitCode)
      exact confined.closing_inVain wellFormed grown vain free apart moment.instant

def Saves (words : List String) (environment : List (String × String)) : Prop :=
  ∃ invocation, Usage.Invocation.ofWords words environment = .ok invocation ∧
    invocation.command.Saves

def IsAbout (words : List String) (environment : List (String × String)) (home : Option String)
    (path : String) : Prop :=
  ∃ invocation, Usage.Invocation.ofWords words environment = .ok invocation ∧
    invocation.IsAbout home path

/-- The place of the log's file, if the words of a command line ask for one. -/
def logPlaces (words : List String) (environment : List (String × String)) (tree : Files.Tree) :
    List Files.Place :=
  match Usage.Invocation.ofWords words environment with
  | .error _ => []
  | .ok invocation => invocation.logConfig.places tree

/-- A process that fails, or whose command only reads, leaves all files as they were but that of the
log, if nothing has the name of the temporary file and the log is not where the file goes. -/
theorem start_unchanged (wellFormed : tree.WellFormed)
    (free : ∀ path, IsAbout words environment home path → tree.TemporaryFree path)
    (apart : ∀ path, IsAbout words environment home path →
      tree.Apart path (logPlaces words environment tree))
    (directives : String) (moment : Moment) (access : Access) :
    let ending := start words environment home directives moment tree access
    (ending.exitCode ≠ 0 ∨ ¬ Saves words environment) →
      ending.session.tree.workingDirectory = tree.workingDirectory ∧
        ∀ place, place ∉ logPlaces words environment tree →
          ending.session.tree.find? place = tree.find? place := by
  intro ending spared
  cases asked : Usage.Invocation.ofWords words environment with
  | error refusal =>
    have whole : ending = turnAway refusal tree := by
      simp only [ending, start, asked]
    have untouched : ending.session.tree = tree := by
      rw [whole, turnAway]
      dsimp only
      split <;> rfl
    rw [untouched]
    exact ⟨rfl, fun _ _ => rfl⟩
  | ok invocation =>
    have whole : ending = run invocation home directives moment tree access := by
      simp only [ending, start, asked]
    have listed : logPlaces words environment tree = invocation.logConfig.places tree := by
      rw [logPlaces, asked]
    rw [whole] at spared
    rw [listed] at apart
    have alike := run_alike wellFormed (fun path about => free path ⟨invocation, asked, about⟩)
      (fun path about => apart path ⟨invocation, asked, about⟩) directives moment
      (spared.imp_right fun reads saves => reads ⟨invocation, asked, saves⟩)
    rw [whole, listed]
    exact ⟨alike.start, alike.same⟩

/-- A save whose file would have to be a directory fails when the temporary file is written and gets
its name. It is removed, and of all that only the log's file stays. -/
theorem start_unchanged_slashed :
    let words := ["--file", "x/", "--log-file", "log", "set", "k=v"]
    let ending := start words [] none "" ⟨"now", "now"⟩ Store.plainTree .granted
    Store.plainTree.WellFormed ∧
      (∀ path, IsAbout words [] none path → Store.plainTree.TemporaryFree path) ∧
      (∀ path, IsAbout words [] none path →
        Store.plainTree.Apart path (logPlaces words [] Store.plainTree)) ∧
      ending.exitCode = 1 ∧
      ∀ place ≠ ["log"], ending.session.tree.find? place = Store.plainTree.find? place := by
  intro words
  let invocation : Usage.Invocation := ⟨some "x/", .warn, some "log", .text, false, .set ["k=v"]⟩
  have asked : Usage.Invocation.ofWords words [] = .ok invocation := by
    decide +kernel
  have about (path : String) (named : IsAbout words [] none path) : path = "x/" := by
    obtain ⟨other, also, file | ⟨unnamed, _⟩⟩ := named
    · cases asked.symm.trans also
      cases file
      rfl
    · cases asked.symm.trans also
      cases unnamed
  have aside : Store.plainTree.TemporaryPlace "x/" ["x.tmp"] :=
    ⟨"x/", "x.tmp", false, by decide +kernel, by decide +kernel, by decide +kernel⟩
  have free (path : String) (named : IsAbout words [] none path) :
      Store.plainTree.TemporaryFree path := by
    rw [about path named]
    exact aside.free (by decide +kernel)
  have places : logPlaces words [] Store.plainTree = [["log"]] := by
    decide +kernel
  have apart (path : String) (named : IsAbout words [] none path) :
      Store.plainTree.Apart path (logPlaces words [] Store.plainTree) := by
    rw [about path named, places]
    refine ⟨by decide +kernel, ?_⟩
    intro place listed beside
    rw [List.mem_singleton.mp listed] at beside
    simpa using aside.unique beside
  have exitCode :
      (start words [] none "" ⟨"now", "now"⟩ Store.plainTree .granted).exitCode = 1 := by
    decide +kernel
  obtain ⟨_, same⟩ := start_unchanged Store.plainTree_wellFormed free apart "" ⟨"now", "now"⟩
    .granted (.inl (by simp [exitCode]))
  refine ⟨Store.plainTree_wellFormed, free, apart, exitCode, ?_⟩
  intro place other
  exact same place (by simpa [places] using other)

end Program

end PropertyStore
