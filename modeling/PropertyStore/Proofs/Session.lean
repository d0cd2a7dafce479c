import PropertyStore.Proofs.Files.Frame
import PropertyStore.Proofs.Files.Grown
import PropertyStore.Proofs.Program

/-! Sessions whose log has its file. The records go there whatever else is done to the files, and
all else is done as if there were no records. -/

namespace PropertyStore

variable {tree : Files.Tree} {session : Session} {places : List Files.Place} {place : Files.Place}
  {notices : List Notice}

theorem Log.Config.rooted_places (config : Log.Config) (wellFormed : tree.WellFormed)
    (directory : Files.Place) (name : String) (listed : directory ++ [name] ∈ config.places tree) :
    tree.isDirectory directory ∧ Files.IsName name := by
  obtain ⟨path, ⟨located, _⟩ | ⟨located, _, _⟩⟩ := openSink_of_mem listed
  · obtain ⟨above, last, same, inside, named⟩ := Files.Tree.rooted_of_locate located
    obtain ⟨rfl, rfl⟩ : directory = above ∧ name = last := by
      simpa using List.append_inj' same rfl
    exact ⟨inside, named⟩
  · obtain ⟨entry, found, _⟩ := wellFormed.solid_of_locate located
    exact wellFormed directory name entry found

theorem Files.Tree.Solid.append (solid : tree.Solid place) (spot : Files.Place)
    (bytes : Text.Bytes) : (tree.apply (.append spot bytes)).Solid place := by
  obtain ⟨entry, found, plain⟩ := solid
  by_cases same : place = spot
  · subst same
    by_cases root : place = []
    · subst root
      exact ⟨_, rfl, rfl⟩
    · have changed := Files.ChangedAt.revise root found (Files.Entry.extended bytes)
      refine ⟨_, changed.there, ?_⟩
      cases entry with
      | link text => cases plain
      | _ => rfl
  · have away : place ∉ (Files.Change.append spot bytes).places := by
      simpa [Files.Change.places] using same
    exact ⟨entry, (tree.find?_apply away).trans found, plain⟩

theorem Log.Sink.follow_elsewhere {change : Files.Change} (away : place ∉ change.places) :
    (Log.Sink.file (some place)).follow change = .file (some place) := by
  cases change with
  | move source target =>
    simp only [Files.Change.places, List.mem_cons, List.not_mem_nil, or_false, not_or] at away
    simp [follow, away.1, away.2]
  | remove removed =>
    have other : place ≠ removed := by simpa [Files.Change.places] using away
    simp [follow, other]
  | _ => rfl

namespace Session

theorem solid_writeEvent (solid : session.tree.Solid place) (instant : String) (event : Log.Event) :
    (session.writeEvent instant event).tree.Solid place := by
  rw [writeEvent]
  split
  · exact solid
  · rename_i recorder _
    split
    · cases sink : recorder.sink with
      | complaints => exact solid
      | file opened =>
        cases opened with
        | none => exact solid
        | some spot => exact solid.append spot _
    · exact solid

private theorem solid_presentAll (solid : session.tree.Solid place) (instant : String)
    (unchanging : changesOf notices = []) :
    (session.presentAll instant notices).tree.Solid place := by
  induction notices generalizing session with
  | nil => exact solid
  | cons notice rest ih =>
    cases notice with
    | line text => exact ih solid unchanging
    | complaint text => exact ih solid unchanging
    | event event => exact ih (solid_writeEvent solid instant event) unchanging
    | change change => cases unchanging

theorem solid_setUpLog (wellFormed : tree.WellFormed) (instant : String) (config : Log.Config)
    (directives : String) (listed : place ∈ config.places tree) :
    (setUpLog { tree } instant config directives).1.tree.Solid place := by
  obtain ⟨path, ⟨located, opening⟩ | ⟨located, _, opening⟩⟩ := Log.Config.openSink_of_mem listed
  · have below : place ≠ [] := by
      rintro rfl
      cases Files.Tree.free_of_locate located
    rw [setUpLog, Log.State.setUp_ok directives (congrArg Report.value opening), opening]
    simp only [presentAll_append]
    apply solid_presentAll _ _ rfl
    exact ⟨_, (Files.ChangedAt.put below).there, rfl⟩
  · rw [setUpLog, Log.State.setUp_ok directives (congrArg Report.value opening), opening]
    apply solid_presentAll (wellFormed.solid_of_locate located)
    rw [changesOf_append, changesOf_append, changesOf_complaints]
    rfl

/-- A session whose log has been set up is to be seen as confined to changes from here on. -/
theorem Confined.onward (confined : Confined tree places session) :
    Confined session.tree places session :=
  ⟨.refl fun place listed => (confined.alike.closed place listed).2, confined.sink⟩

theorem Confined.elsewhere {change : Files.Change} (confined : Confined tree places session)
    (elsewhere : ∀ place ∈ change.places, place ∉ places) :
    Confined (tree.apply change) places (session.change change) := by
  refine ⟨confined.alike.apply elsewhere, ?_⟩
  intro recorder place present sink
  cases earlier : session.log.recorder with
  | none => simp [Session.change, earlier] at present
  | some before =>
    simp only [Session.change, earlier, Option.map_some, Option.some.injEq] at present
    subst present
    cases former : before.sink with
    | complaints =>
      rw [former] at sink
      cases change <;> cases sink
    | file opened =>
      cases opened with
      | none =>
        rw [former] at sink
        cases change <;> cases sink
      | some spot =>
        have listed := confined.sink before spot earlier former
        have away : spot ∉ change.places := fun about => elsewhere spot about listed
        rw [former, Log.Sink.follow_elsewhere away] at sink
        cases sink
        exact listed

/-- Notices whose changes are elsewhere do to the files what these changes do. -/
theorem Confined.presentAll_elsewhere (confined : Confined tree places session) (instant : String)
    (elsewhere : ∀ change ∈ changesOf notices, ∀ place ∈ change.places, place ∉ places) :
    Confined (tree.applyAll (changesOf notices)) places (session.presentAll instant notices) := by
  induction notices generalizing tree session with
  | nil => exact confined
  | cons notice rest ih =>
    cases notice with
    | line text => exact ih ⟨confined.alike, confined.sink⟩ elsewhere
    | complaint text => exact ih ⟨confined.alike, confined.sink⟩ elsewhere
    | event event => exact ih (confined.writeEvent instant event) elsewhere
    | change change =>
      have first := confined.elsewhere (elsewhere change List.mem_cons_self)
      exact ih first fun other member => elsewhere other (List.mem_cons_of_mem _ member)

end Session

end PropertyStore
