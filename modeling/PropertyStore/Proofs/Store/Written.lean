import PropertyStore.Proofs.Files.Placed
import PropertyStore.Proofs.Store.Saved

/-! When a save has written its file. A save that succeeds has written the store's text and put what
has the temporary file's name in the place of the path, in every tree. That is the file which was
written, unless the name is that of a link: then the link stands there instead. -/

namespace PropertyStore.Store

open Files (Tree)

variable {tree : Tree} {path stamp : String} {changes : List Files.Change}

/-- Changes of a tree write a store's text for a path. -/
structure Written (store : Store) (tree : Tree) (path stamp : String)
    (changes : List Files.Change) : Prop where
  /-- They end with the text being written through the temporary file's name, and what has that name
  taking the place of the path. -/
  placed : Files.Placed tree path (store.fileContent stamp) changes
  /-- What the path reads as afterwards is nothing but that text. -/
  read : ∀ bytes, (tree.applyAll changes).content? path = some bytes →
    bytes = store.fileContent stamp
  /-- And the path leads to a file of that text, unless a link had the temporary file's name. -/
  there : tree.TemporaryUnlinked path → ∃ place mode,
    (tree.applyAll changes).resolve .find path = .ok (.existing place) ∧
      (tree.applyAll changes).find? place = some (.file (store.fileContent stamp) mode)

/-- Changes of a tree write a store's file at a path: they write its text, and at the goal of the save
stands a regular file of that text afterwards, to which the path leads. -/
structure Stands (store : Store) (tree : Tree) (path stamp : String)
    (changes : List Files.Change) : Prop where
  written : store.Written tree path stamp changes
  goal : ∃ goal mode, tree.Goal path goal ∧
    (tree.applyAll changes).resolve .find path = .ok (.existing goal) ∧
      (tree.applyAll changes).find? goal = some (.file (store.fileContent stamp) mode)

theorem not_written_nil (store : Store) (tree : Tree) (path stamp : String) :
    ¬ store.Written tree path stamp [] :=
  fun written => Files.not_placed_of_last (by simp) written.placed

private theorem saveTo_placed_iff (store : Store) (wellFormed : tree.WellFormed)
    (path stamp : String) :
    let saving := store.saveTo tree path stamp
    saving.value = .ok () ↔ Files.Placed tree path (store.fileContent stamp) saving.changes := by
  intro saving
  by_cases full : path = ""
  · subst full
    have failed : saving = ⟨.error .emptyPath, []⟩ := rfl
    rw [failed]
    exact iff_of_false (by rintro ⟨⟩) (Files.not_placed_of_last (by simp [Report.changes]))
  · obtain ⟨value, changes⟩ := store.saveTo_eq tree full stamp
    rw [show saving.value = _ from value, show saving.changes = _ from changes, mapError_eq_ok_iff]
    exact Files.Action.replaceFile_placed_iff wellFormed path (store.fileContent stamp)

/-- A save succeeds if and only if it has written its text. -/
theorem saveTo_written_iff (store : Store) (wellFormed : tree.WellFormed) (path stamp : String) :
    let saving := store.saveTo tree path stamp
    saving.value = .ok () ↔ store.Written tree path stamp saving.changes := by
  intro saving
  have placed := store.saveTo_placed_iff wellFormed path stamp
  refine ⟨fun ended => ⟨placed.mp ended, ?_, ?_⟩, fun written => placed.mpr written.placed⟩
  · intro bytes held
    exact store.content_after_saveTo wellFormed stamp ended held
  · intro unlinked
    rcases store.saveTo_cases wellFormed unlinked stamp with ⟨⟨fault, failed, _⟩, _⟩ |
      ⟨hole, goal, _, _, _, leads, replaced⟩
    · cases ended.symm.trans failed
    · exact ⟨goal, _, leads, replaced.there⟩

/-- After a save that succeeds, a link that had the temporary file's name stands at the goal. -/
theorem linked_after_saveTo (store : Store) (wellFormed : tree.WellFormed) (path stamp : String)
    (linked : ¬ tree.TemporaryUnlinked path) (ended : (store.saveTo tree path stamp).value = .ok ()) :
    ∃ goal text, tree.Goal path goal ∧
      (tree.applyAll (store.saveTo tree path stamp).changes).find? goal = some (.link text) := by
  obtain ⟨done, changes⟩ := store.replaceFile_of_saveTo ended
  obtain ⟨_, _, _, goal, _, text, aim, beside, _, aimed, _, _, shadowed⟩ :=
    Files.Action.replaceFile_shadowed wellFormed linked done
  rw [changes]
  exact ⟨goal, text, wellFormed.goal_of_slot aim beside aimed, shadowed.moved⟩

/-- A file, and a link to it under the name of its temporary file. -/
def mirroredTree : Tree := plainTree.put ([] ++ ["f.tmp"]) (.link "f")

theorem mirroredTree_wellFormed : mirroredTree.WellFormed :=
  plainTree_wellFormed.put (by decide) (isName_of "f.tmp" (by decide)) (by decide) _

/-- A save has written its file if and only if it succeeds and no link had the temporary file's
name. -/
theorem saveTo_stands_iff (store : Store) (wellFormed : tree.WellFormed)
    (path stamp : String) :
    let saving := store.saveTo tree path stamp
    store.Stands tree path stamp saving.changes ↔
      saving.value = .ok () ∧ tree.TemporaryUnlinked path := by
  intro saving
  have written := store.saveTo_written_iff wellFormed path stamp
  constructor
  · intro whole
    have ended := written.mpr whole.written
    refine ⟨ended, ?_⟩
    by_contra linked
    obtain ⟨goal, text, aimed, link⟩ := store.linked_after_saveTo wellFormed path stamp linked ended
    obtain ⟨other, _, also, _, found⟩ := whole.goal
    cases aimed.unique also
    cases link.symm.trans found
  · rintro ⟨ended, unlinked⟩
    refine ⟨written.mp ended, ?_⟩
    rcases store.saveTo_cases wellFormed unlinked stamp with ⟨⟨fault, failed, _⟩, _⟩ |
      ⟨hole, goal, _, aimed, _, leads, replaced⟩
    · cases ended.symm.trans failed
    · exact ⟨goal, _, aimed, leads, replaced.there⟩

end PropertyStore.Store
