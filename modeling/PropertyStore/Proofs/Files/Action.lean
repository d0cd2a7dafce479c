import PropertyStore.Proofs.Files.WellFormed

namespace PropertyStore.Files.Action

variable {tree : Tree} {place : Place}

theorem bind_error {first : Action α} (next : α → Action β)
    (failed : first tree = ⟨changes, .error fault⟩) :
    (first >>= next) tree = ⟨changes, .error fault⟩ := by
  change andThen first next tree = _
  rw [andThen, failed]

theorem bind_ok {first : Action α} (next : α → Action β) (did : first tree = ⟨changes, .ok value⟩) :
    (first >>= next) tree = ⟨changes ++ (next value (tree.applyAll changes)).changes,
      (next value (tree.applyAll changes)).result⟩ := by
  change andThen first next tree = _
  rw [andThen, did]

@[simp] theorem ask_bind (question : Tree → Except Fault α) (next : α → Action β) (tree : Tree) :
    (ask question >>= next) tree =
      match question tree with
      | .error fault => ⟨[], .error fault⟩
      | .ok value => next value tree := by
  change andThen (ask question) next tree = _
  simp only [andThen, ask]
  cases question tree <;> rfl

@[simp] theorem perform_bind (change : Change) (next : Unit → Action β) (tree : Tree) :
    (perform change >>= next) tree =
      ⟨change :: (next () (tree.apply change)).changes, (next () (tree.apply change)).result⟩ :=
  rfl

@[simp] theorem pure_bind (value : α) (next : α → Action β) (tree : Tree) :
    ((pure value : Action α) >>= next) tree = next value tree :=
  rfl

@[simp] theorem pure_apply (value : α) (tree : Tree) : (pure value : Action α) tree = ⟨[], .ok value⟩ :=
  rfl

@[simp] theorem done_apply (value : α) (tree : Tree) : done value tree = ⟨[], .ok value⟩ :=
  rfl

@[simp] theorem fail_apply (fault : Fault) (tree : Tree) :
    (fail fault : Action α) tree = ⟨[], .error fault⟩ :=
  rfl

@[simp] theorem perform_apply (change : Change) (tree : Tree) :
    perform change tree = ⟨[change], .ok ()⟩ :=
  rfl

theorem openFile_error (located : tree.locate .create path = .error fault) :
    openFile path anew tree = ⟨[], .error fault⟩ := by
  simp [openFile, located]

theorem openFile_free (located : tree.locate .create path = .ok (.free place)) :
    openFile path anew tree = ⟨[.create place], .ok place⟩ := by
  simp [openFile, located]

theorem openFile_directory (located : tree.locate .create path = .ok (.existing place))
    (inside : tree.isDirectory place) : openFile path anew tree = ⟨[], .error .isDirectory⟩ := by
  simp [openFile, located, inside]

theorem openFile_anew (located : tree.locate .create path = .ok (.existing place))
    (outside : tree.isDirectory place = false) :
    openFile path true tree = ⟨[.truncate place], .ok place⟩ := by
  simp [openFile, located, outside]

theorem openFile_kept (tree : Tree) (path : String) :
    (∃ fault, openFile path false tree = ⟨[], .error fault⟩) ∨
      (∃ place, tree.locate .create path = .ok (.free place) ∧
        openFile path false tree = ⟨[.create place], .ok place⟩) ∨
      ∃ place, tree.locate .create path = .ok (.existing place) ∧
        tree.isDirectory place = false ∧ openFile path false tree = ⟨[], .ok place⟩ := by
  cases located : tree.locate .create path with
  | error fault => exact .inl ⟨fault, openFile_error located⟩
  | ok destination =>
    cases destination with
    | free place => exact .inr (.inl ⟨place, rfl, openFile_free located⟩)
    | existing place =>
      cases inside : tree.isDirectory place with
      | true => exact .inl ⟨_, openFile_directory located inside⟩
      | false => exact .inr (.inr ⟨place, rfl, inside, by simp [openFile, located, inside]⟩)

theorem sync_eq (place : Place) (tree : Tree) :
    sync place tree =
      ⟨[], if tree.find? place = some .device then .error .notKept else .ok ()⟩ := by
  rw [sync, ask_bind]
  cases tree.find? place with
  | none => rfl
  | some entry => cases entry <;> rfl

theorem removeFile_error (slot : tree.slot path = .error fault) :
    removeFile path tree = ⟨[], .error fault⟩ := by
  simp [removeFile, slot]

theorem removeFile_directory (slot : tree.slot path = .ok (place, slashed))
    (inside : tree.isDirectory place) : (removeFile path tree).changes = [] := by
  obtain ⟨mode, found⟩ := (tree.isDirectory_iff place).mp inside
  simp [removeFile, slot, found]

theorem removeFile_entry (slot : tree.slot path = .ok (place, false))
    (found : tree.find? place = some entry) (outside : tree.isDirectory place = false) :
    removeFile path tree = ⟨[.remove place], .ok ()⟩ := by
  cases entry with
  | directory mode => simp [Tree.isDirectory, found] at outside
  | _ => simp [removeFile, slot, found]

theorem rename_cases {target : String} (slot : tree.slot source = .ok (place, slashed))
    (found : tree.find? place = some entry) :
    (∃ fault, rename source target tree = ⟨[], .error fault⟩) ∨
      ∃ goal, tree.slot target = .ok (goal, false) ∧ tree.isDirectory goal = false ∧
        rename source target tree = ⟨if place = goal then [] else [.move place goal], .ok ()⟩ := by
  cases aimed : tree.slot target with
  | error fault => exact .inl ⟨fault, by simp [rename, slot, aimed]⟩
  | ok result =>
    obtain ⟨goal, behind⟩ := result
    cases behind with
    | true => exact .inl ⟨.notDirectory, by simp [rename, slot, aimed, found]⟩
    | false =>
      cases inside : tree.isDirectory goal with
      | true => exact .inl ⟨.isDirectory, by simp [rename, slot, aimed, found, inside]⟩
      | false =>
        refine .inr ⟨goal, rfl, inside, ?_⟩
        by_cases same : place = goal
        · subst same
          simp [rename, slot, aimed, found, inside]
        · simp [rename, slot, aimed, found, inside, same]

end PropertyStore.Files.Action
