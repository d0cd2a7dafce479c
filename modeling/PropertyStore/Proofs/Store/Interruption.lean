import PropertyStore.Proofs.Files.Progress
import PropertyStore.Proofs.Store.Saved
import PropertyStore.Proofs.Text.Utf8

/-! Saves seen from outside before they are done, or cut short. The file that is saved to is the old
one until it is the new one, and what is written of the new one elsewhere has the old one's
permission bits. -/

namespace PropertyStore

open Files (Tree Place Progress)

theorem Files.Aside.saved {tree after : Tree} {path : String} {content : Text.Bytes}
    {properties : Properties} (aside : Files.Aside tree path content after)
    (wellFormed : tree.WellFormed) (unlinked : tree.TemporaryUnlinked path)
    (saved : Saved tree path properties) : Saved after path properties := by
  cases aside with
  | same unchanged => rwa [unchanged]
  | @touched hole entry spot outside changed partly =>
    obtain ⟨place, bytes, mode, resolved, found, read⟩ := saved
    obtain ⟨alike, _⟩ := changed.alike_of_partly outside partly
    have apart : place ≠ hole := (spot.apart wellFormed (.inl resolved)).symm
    refine ⟨place, bytes, mode, ?_, (changed.elsewhere place apart).trans found, read⟩
    exact alike.resolve (by simpa using unlinked.not_link spot) resolved (by simpa using apart)

namespace Store

variable {tree state : Tree} {path : String} {store : Store} {stamp : String}

/-- What can be seen of a save: nothing is touched but the temporary file's place, or the save has
succeeded and the store's file stands at the goal. -/
theorem saveTo_underway (store : Store) (wellFormed : tree.WellFormed)
    (unlinked : tree.TemporaryUnlinked path) (stamp : String) (sizes : List Nat) :
    let saving := store.saveTo tree path stamp
    let progress := Progress.run ⟨tree, saving.changes⟩ sizes
    (Files.Aside tree path (store.fileContent stamp) progress.tree ∧
        (progress.pending = [] → ∃ fault, saving.value = .error fault)) ∨
      progress.pending = [] ∧ saving.value = .ok () ∧
        ∃ hole goal, tree.TemporaryPlace path hole ∧ tree.Goal path goal ∧
          progress.tree.resolve .find path = .ok (.existing goal) ∧
          Files.Replaced tree hole goal (store.fileContent stamp)
            (savedMode tree goal (tree.modeAnew hole)) progress.tree := by
  by_cases empty : path = ""
  · subst empty
    have failed : store.saveTo tree "" stamp = ⟨.error .emptyPath, []⟩ := rfl
    simp only [failed]
    refine .inl ⟨.same ?_, fun _ => ⟨_, rfl⟩⟩
    rw [show (⟨.error .emptyPath, []⟩ : Report (Except Fault Unit)).changes = [] from rfl,
      Progress.run_nothing]
  · obtain ⟨value, changes⟩ := store.saveTo_eq tree empty stamp
    simp only [value, changes]
    rcases Files.Action.replaceFile_underway wellFormed unlinked (store.fileContent stamp)
      sizes with ⟨aside, unfinished⟩ | ⟨finished, ended, replaced⟩
    · refine .inl ⟨aside, fun done => ?_⟩
      obtain ⟨cause, failed⟩ := unfinished done
      exact ⟨_, by rw [failed]; rfl⟩
    · exact .inr ⟨finished, by rw [ended]; rfl, replaced⟩

/-- The trees that can be seen while a store is saved: between two changes, or in the middle of a
write, and after a fault at such a moment, when the temporary file has been removed. -/
inductive Seen (store : Store) (tree : Tree) (path stamp : String) : Tree → Prop where
  | passing (sizes : List Nat) :
      Seen store tree path stamp
        (Progress.run ⟨tree, (store.saveTo tree path stamp).changes⟩ sizes).tree
  | cleared {hole : Place} (sizes : List Nat) (aside : tree.TemporaryPlace path hole)
      (outside : tree.isDirectory hole = false)
      (unfinished :
        (Progress.run ⟨tree, (store.saveTo tree path stamp).changes⟩ sizes).pending ≠ []) :
      Seen store tree path stamp
        ((Progress.run ⟨tree, (store.saveTo tree path stamp).changes⟩ sizes).tree.apply
          (.remove hole))

theorem Seen.cases (seen : store.Seen tree path stamp state) (wellFormed : tree.WellFormed)
    (unlinked : tree.TemporaryUnlinked path) :
    Files.Aside tree path (store.fileContent stamp) state ∨
      ∃ hole goal, tree.TemporaryPlace path hole ∧ tree.Goal path goal ∧
        state.resolve .find path = .ok (.existing goal) ∧
        Files.Replaced tree hole goal (store.fileContent stamp)
          (savedMode tree goal (tree.modeAnew hole)) state := by
  cases seen with
  | passing sizes =>
    rcases store.saveTo_underway wellFormed unlinked stamp sizes with ⟨aside, _⟩ | ⟨_, _, replaced⟩
    · exact .inl aside
    · exact .inr replaced
  | cleared sizes spot outside unfinished =>
    rcases store.saveTo_underway wellFormed unlinked stamp sizes with ⟨aside, _⟩ | ⟨finished, _⟩
    · exact .inl (aside.remove spot outside)
    · exact (unfinished finished).elim

private theorem fileContent_ne_nil (store : Store) (stamp : String) :
    store.fileContent stamp ≠ [] := by
  intro empty
  have size := Text.Utf8.length_encode (Document.print store.properties (some savedComment) stamp)
  rw [← fileContent, empty, List.length_nil, eq_comm, String.utf8ByteSize_eq_zero_iff] at size
  have text := congrArg String.toList size
  simp [Document.print, Document.header, Document.headerLine] at text

/-- At the goal of a save stands what stood there, or the whole new file. -/
def GoalWhole (store : Store) (tree : Tree) (path stamp : String) (state : Tree) : Prop :=
  ∀ goal, tree.Goal path goal → state.find? goal = tree.find? goal ∨
    ∃ mode, state.find? goal = some (.file (store.fileContent stamp) mode)

/-- The path reads as it read before, or as the whole new file. -/
def ReadsWhole (store : Store) (tree : Tree) (path stamp : String) (state : Tree) : Prop :=
  state.content? path = tree.content? path ∨ state.content? path = some (store.fileContent stamp)

/-- If there is a file to be replaced, whatever holds any of the new text has that file's permission
bits. -/
def BitsKept (tree : Tree) (path : String) (state : Tree) : Prop :=
  ∀ goal bits, tree.Goal path goal → (tree.find? goal).bind Files.Entry.mode? = some bits →
    ∀ place part mode, state.find? place = some (.file part mode) →
      state.find? place = tree.find? place ∨ part = [] ∨ mode = bits

theorem Seen.goalWhole (seen : store.Seen tree path stamp state) (wellFormed : tree.WellFormed)
    (unlinked : tree.TemporaryUnlinked path) : store.GoalWhole tree path stamp state := by
  intro goal aimed
  rcases seen.cases wellFormed unlinked with aside | ⟨hole, other, _, also, _, replaced⟩
  · exact .inl (aside.find?_goal wellFormed aimed)
  · cases also.unique aimed
    exact .inr ⟨_, replaced.there⟩

theorem Seen.bitsKept (seen : store.Seen tree path stamp state) (wellFormed : tree.WellFormed)
    (unlinked : tree.TemporaryUnlinked path) : BitsKept tree path state := by
  intro goal bits aimed found place part mode there
  rcases seen.cases wellFormed unlinked with aside | ⟨hole, other, _, also, _, replaced⟩
  · exact aside.mode aimed found there
  · cases also.unique aimed
    by_cases moved : place = goal
    · rw [moved, replaced.there] at there
      cases there
      exact .inr (.inr (by simp [savedMode, found]))
    · refine .inl (replaced.elsewhere place ?_ moved)
      rintro rfl
      cases replaced.gone.symm.trans there

theorem Seen.readsWhole (seen : store.Seen tree path stamp state) (wellFormed : tree.WellFormed)
    (unlinked : tree.TemporaryUnlinked path) (covered : ¬ tree.Exposed path) :
    store.ReadsWhole tree path stamp state := by
  rcases seen.cases wellFormed unlinked with aside | ⟨hole, goal, _, _, leads, replaced⟩
  · exact .inl (aside.content? wellFormed unlinked covered)
  · have clean := ((state.resolve_eq_existing_iff path).mp leads).1
    by_cases short : path.utf8ByteSize < Files.pathLimit
    · exact .inr (Tree.content_of_resolve ⟨clean, short⟩ leads replaced.there)
    · have long := Nat.not_lt.mp short
      exact .inl ((content_of_long state long).trans (content_of_long tree long).symm)

/-- As soon as the temporary file is there, an exposed path reads as that file, which is empty at
first. -/
theorem exists_torn (store : Store) (wellFormed : tree.WellFormed) (exposed : tree.Exposed path)
    (stamp : String) : ∃ state, store.Seen tree path stamp state ∧
      ¬ store.ReadsWhole tree path stamp state := by
  obtain ⟨absent, _⟩ := exposed.dangling wellFormed
  obtain ⟨hole, aside, free, located⟩ := exposed
  have full : path ≠ "" := by
    rintro rfl
    exact temporaryPlace_empty tree hole aside
  obtain ⟨rest, first⟩ := Files.Action.replaceFile_creates aside free (store.fileContent stamp)
  rw [← (store.saveTo_eq tree full stamp).2] at first
  have seen : store.Seen tree path stamp (tree.apply (.create hole)) := by
    have passing : store.Seen tree path stamp _ := .passing [0]
    rwa [first] at passing
  refine ⟨_, seen, ?_⟩
  have outside : tree.isDirectory hole = false := by
    simp [Tree.isDirectory, free]
  have below := Tree.ne_nil_of_outside outside
  have empty : (tree.apply (.create hole)).content? path = some [] :=
    (Tree.content?_eq_some_iff _ path []).mpr
      ⟨hole, Files.newFileMode, located, (Files.ChangedAt.put below).there⟩
  rintro (same | whole)
  · obtain ⟨_, place, _, resolved, _⟩ := Tree.resolve_of_content (same.symm.trans empty)
    exact absent place resolved
  · exact store.fileContent_ne_nil stamp (Option.some.inj (whole.symm.trans empty))

/-- A save is never seen half done at its goal, and what it has written elsewhere by then has the
permission bits of what is there. So its path reads as the old file or the new one, unless it is a
link, to nothing, that leads to the temporary file's name: then it reads as neither at some moment. -/
theorem saveTo_never_torn_iff (store : Store) (wellFormed : tree.WellFormed)
    (unlinked : tree.TemporaryUnlinked path) (stamp : String) :
    (∀ state, store.Seen tree path stamp state →
        store.GoalWhole tree path stamp state ∧ BitsKept tree path state) ∧
      ((∀ state, store.Seen tree path stamp state → store.ReadsWhole tree path stamp state) ↔
        ¬ tree.Exposed path) ∧
      (tree.Exposed path → tree.Dangling path) := by
  refine ⟨?_, ⟨?_, ?_⟩, fun exposed => exposed.dangling wellFormed⟩
  · exact fun state seen => ⟨seen.goalWhole wellFormed unlinked, seen.bitsKept wellFormed unlinked⟩
  · intro whole exposed
    obtain ⟨state, seen, torn⟩ := store.exists_torn wellFormed exposed stamp
    exact torn (whole state seen)
  · exact fun covered state seen => seen.readsWhole wellFormed unlinked covered

/-- Ten bytes of the new text are in the temporary file, which none but the owner may read. -/
theorem saveTo_never_torn_iff_midway :
    let state := (Progress.run ⟨linkedTree, (oneProperty.saveTo linkedTree "p" "now").changes⟩
      [0, 0, 10]).tree
    oneProperty.Seen linkedTree "p" "now" state ∧ linkedTree.WellFormed ∧
      linkedTree.TemporaryUnlinked "p" ∧
      state.find? ["d", "real.tmp"] =
        some (.file ((oneProperty.fileContent "now").take 10) 0o600) ∧
      ¬ linkedTree.Exposed "p" ∧ oneProperty.ReadsWhole linkedTree "p" "now" state := by
  intro state
  have seen : oneProperty.Seen linkedTree "p" "now" state := .passing [0, 0, 10]
  have unlinked := linkedTree_temporaryFree.clear.unlinked
  obtain ⟨_, whole, dangles⟩ :=
    oneProperty.saveTo_never_torn_iff linkedTree_wellFormed unlinked "now"
  have covered : ¬ linkedTree.Exposed "p" := fun exposed =>
    (dangles exposed).1 ["d", "real"] (by decide +kernel)
  exact ⟨seen, linkedTree_wellFormed, unlinked, by decide +kernel, covered,
    whole.mpr covered state seen⟩

/-- A link to the name that its own temporary file will have. -/
def exposedTree : Tree := ({} : Tree).put ([] ++ ["p"]) (.link "p.tmp")

/-- The path reads as the first ten bytes of the new text while they are all there is. -/
theorem saveTo_torn :
    let state := (Progress.run ⟨exposedTree, (oneProperty.saveTo exposedTree "p" "now").changes⟩
      [0, 10]).tree
    exposedTree.WellFormed ∧ exposedTree.TemporaryUnlinked "p" ∧
      oneProperty.Seen exposedTree "p" "now" state ∧ exposedTree.content? "p" = none ∧
      state.content? "p" = some ((oneProperty.fileContent "now").take 10) ∧
      ¬ oneProperty.ReadsWhole exposedTree "p" "now" state := by
  intro state
  have wellFormed : exposedTree.WellFormed :=
    Tree.wellFormed_empty.put (by decide) (isName_of "p" (by decide)) (by decide) _
  have aside : exposedTree.TemporaryPlace "p" ["p.tmp"] :=
    ⟨"p", "p.tmp", false, by decide +kernel, by decide +kernel, by decide +kernel⟩
  have free := aside.free (by decide +kernel)
  have nothing : exposedTree.content? "p" = none := by
    decide +kernel
  have part : state.content? "p" = some ((oneProperty.fileContent "now").take 10) := by
    decide +kernel
  refine ⟨wellFormed, free.clear.unlinked, .passing [0, 10], nothing, part, ?_⟩
  rintro (same | whole)
  · cases part.symm.trans (same.trans nothing)
  · have shorter : (oneProperty.fileContent "now").take 10 ≠ oneProperty.fileContent "now" := by
      decide +kernel
    exact shorter (Option.some.inj (part.symm.trans whole))

end Store

end PropertyStore
