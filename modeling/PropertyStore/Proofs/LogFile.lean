import PropertyStore.Program
import PropertyStore.Proofs.Files.Action
import PropertyStore.Proofs.Files.Change
import PropertyStore.Proofs.Report

/-! Sessions whose log may go to a file. Where nothing else changes files, all of them but that one
stay as they were, and so does what a path leads to that does not lead there. -/

namespace PropertyStore

/-- The places that a log writes to: that of the file it opens, if it opens one. -/
def Log.Config.places (config : Log.Config) (tree : Files.Tree) : List Files.Place :=
  match config.openFile? with
  | none => []
  | some path =>
    match (Files.Action.openFile path false tree).result with
    | .ok place => [place]
    | .error _ => []

theorem Log.Config.openSink_of_mem {config : Config} {tree : Files.Tree} {place : Files.Place}
    (listed : place ∈ config.places tree) :
    ∃ path, (tree.locate .create path = .ok (.free place) ∧
        State.openSink config tree = ⟨.ok (.file (some place)), [.change (.create place)]⟩) ∨
      (tree.locate .create path = .ok (.existing place) ∧ tree.isDirectory place = false ∧
        State.openSink config tree = ⟨.ok (.file (some place)), []⟩) := by
  rw [places] at listed
  split at listed
  · cases listed
  · rename_i path file
    refine ⟨path, ?_⟩
    rcases Files.Action.openFile_kept tree path with ⟨fault, failed⟩ | ⟨other, free, made⟩ |
      ⟨other, located, outside, opened⟩
    · simp [failed] at listed
    · simp only [made, List.mem_singleton] at listed
      subst listed
      exact .inl ⟨free, by simp [State.openSink, file, made]⟩
    · simp only [opened, List.mem_singleton] at listed
      subst listed
      exact .inr ⟨located, outside, by simp [State.openSink, file, opened]⟩

theorem Log.Config.solid_places (config : Log.Config) (tree : Files.Tree) (place : Files.Place)
    (listed : place ∈ config.places tree) :
    tree.isDirectory place = false ∧
      (tree.WellFormed → ∀ text, tree.find? place ≠ some (.link text)) := by
  obtain ⟨path, ⟨located, _⟩ | ⟨located, outside, _⟩⟩ := openSink_of_mem listed
  · simp [Files.Tree.isDirectory, Files.Tree.free_of_locate located]
  · exact ⟨outside, fun wellFormed => (wellFormed.solid_of_locate located).not_link⟩

namespace Log.State

variable {config : Config} {tree : Files.Tree}

private theorem setUp_error (directives : String)
    (opening : (openSink config tree).value = .error fault) :
    setUp {} config directives tree =
      ({ settled := some (.error fault.message) }, ⟨.error fault,
        (Filter.complaints directives).map .complaint ++ (openSink config tree).notices⟩) := by
  simp [setUp, remembered?, install, opening, remember, Except.mapError]

theorem setUp_ok (directives : String) (opening : (openSink config tree).value = .ok sink) :
    setUp {} config directives tree =
      ({ settled := some (.ok ())
         recorder := some { filter := .withDefault directives config.level
                            asObjects := config.asObjects, sink } },
        ⟨.ok (), (Filter.complaints directives).map .complaint ++ (openSink config tree).notices ++
          [.event .bridged]⟩) := by
  simp [setUp, remembered?, install, opening, remember, Except.mapError]

end Log.State

namespace Session

variable {tree : Files.Tree} {session : Session} {places : List Files.Place}

/-- A session that has left the files of a tree as they were but at some places, where there are no
directories. If its log goes to a file, that is at one of those places. -/
structure Confined (tree : Files.Tree) (places : List Files.Place) (session : Session) : Prop where
  alike : Files.AlikeBut places tree session.tree
  sink : ∀ recorder place, session.log.recorder = some recorder →
    recorder.sink = .file (some place) → place ∈ places

/-- A notice that changes no file, or only makes one at one of the places. -/
def Within (places : List Files.Place) (notice : Notice) : Prop :=
  ∀ change, notice = .change change → ∃ place ∈ places, change = .create place

theorem within_of_unchanging (unchanging : changesOf notices = []) :
    ∀ notice ∈ notices, Within places notice := by
  rintro notice member change rfl
  have listed : change ∈ changesOf notices := List.mem_filterMap.mpr ⟨_, member, rfl⟩
  rw [unchanging] at listed
  cases listed

theorem within_event (event : Log.Event) : Within places (.event event) :=
  within_of_unchanging (quiet_event event).changesOf_eq _ (List.mem_singleton_self _)

theorem within_complaint (text : String) : Within places (.complaint text) :=
  within_of_unchanging (changesOf_complaints [text]) _ (List.mem_singleton_self _)

theorem Confined.writeEvent (confined : Confined tree places session) (instant : String)
    (event : Log.Event) : Confined tree places (session.writeEvent instant event) := by
  rw [Session.writeEvent]
  split
  · exact confined
  · rename_i recorder present
    split
    · cases sink : recorder.sink with
      | complaints => exact ⟨confined.alike, confined.sink⟩
      | file opened =>
        cases opened with
        | none => exact confined
        | some place =>
          have listed := confined.sink recorder place present sink
          exact ⟨confined.alike.append listed _, confined.sink⟩
    · exact confined

theorem Confined.create (confined : Confined tree places session) (listed : place ∈ places) :
    Confined tree places (session.change (.create place)) := by
  refine ⟨confined.alike.create listed, ?_⟩
  intro recorder other present sink
  cases earlier : session.log.recorder with
  | none => simp [Session.change, earlier] at present
  | some before =>
    simp only [Session.change, earlier, Option.map_some, Option.some.injEq] at present
    have same : before.sink.follow (.create place) = before.sink := by
      cases before.sink with
      | complaints => rfl
      | file opened => cases opened <;> rfl
    rw [← present, same] at sink
    exact confined.sink before other earlier sink

theorem Confined.present (confined : Confined tree places session) (instant : String)
    (within : Within places notice) : Confined tree places (session.present instant notice) := by
  cases notice with
  | line text => exact ⟨confined.alike, confined.sink⟩
  | complaint text => exact ⟨confined.alike, confined.sink⟩
  | event event => exact confined.writeEvent instant event
  | change change =>
    obtain ⟨place, listed, rfl⟩ := within change rfl
    exact confined.create listed

theorem Confined.presentAll (confined : Confined tree places session) (instant : String)
    (within : ∀ notice ∈ notices, Within places notice) :
    Confined tree places (session.presentAll instant notices) := by
  induction notices generalizing session with
  | nil => exact confined
  | cons notice rest ih =>
    have first := confined.present instant (within notice List.mem_cons_self)
    exact ih first fun other member => within other (List.mem_cons_of_mem _ member)

private theorem within_openSink (config : Log.Config) (tree : Files.Tree) :
    ∀ notice ∈ (Log.State.openSink config tree).notices, Within (config.places tree) notice := by
  cases file : config.openFile? with
  | none => simp [Log.State.openSink, file]
  | some path =>
    rcases Files.Action.openFile_kept tree path with ⟨fault, failed⟩ | ⟨place, _, made⟩ |
      ⟨place, _, _, opened⟩
    · simp [Log.State.openSink, file, failed]
    · simp [Log.State.openSink, file, made, Within, Log.Config.places]
    · simp [Log.State.openSink, file, opened]

private theorem mem_places_of_openSink {config : Log.Config}
    (opened : (Log.State.openSink config tree).value = .ok (.file (some place))) :
    place ∈ config.places tree := by
  cases file : config.openFile? with
  | none => simp [Log.State.openSink, file] at opened
  | some path =>
    cases result : (Files.Action.openFile path false tree).result with
    | error fault => simp [Log.State.openSink, file, result] at opened
    | ok other =>
      simp only [Log.State.openSink, file, result, Except.ok.injEq, Log.Sink.file.injEq,
        Option.some.injEq] at opened
      simp [Log.Config.places, file, result, opened]

private theorem within_setUp (config : Log.Config) (directives : String) (tree : Files.Tree) :
    let done := Log.State.setUp {} config directives tree
    (∀ notice ∈ done.2.notices, Within (config.places tree) notice) ∧
      ∀ recorder place, done.1.recorder = some recorder → recorder.sink = .file (some place) →
        place ∈ config.places tree := by
  have before : ∀ notice ∈ (Log.Filter.complaints directives).map Notice.complaint ++
      (Log.State.openSink config tree).notices, Within (config.places tree) notice := by
    intro notice member
    rcases List.mem_append.mp member with passedOver | opens
    · exact within_of_unchanging (changesOf_complaints _) notice passedOver
    · exact within_openSink config tree notice opens
  cases opening : (Log.State.openSink config tree).value with
  | error fault =>
    rw [Log.State.setUp_error directives opening]
    exact ⟨before, by simp⟩
  | ok sink =>
    rw [Log.State.setUp_ok directives opening]
    constructor
    · intro notice member
      rcases List.mem_append.mp member with early | last
      · exact before notice early
      · rw [List.mem_singleton.mp last]
        exact within_event _
    · intro recorder place present toFile
      cases present
      exact mem_places_of_openSink (opening.trans (congrArg _ toFile))

/-- Setting up the log of a process leaves all files but the log's as they are. -/
theorem confined_setUpLog (tree : Files.Tree) (instant : String) (config : Log.Config)
    (directives : String) :
    Confined tree (config.places tree) (setUpLog { tree } instant config directives).1 := by
  obtain ⟨within, sink⟩ := within_setUp config directives tree
  have start : Confined tree (config.places tree)
      { tree, log := (Log.State.setUp {} config directives tree).1 } :=
    ⟨.refl fun place listed => (config.solid_places tree place listed).1, sink⟩
  exact start.presentAll instant within

end Session

end PropertyStore
