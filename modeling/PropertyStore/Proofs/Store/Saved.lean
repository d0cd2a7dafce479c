import PropertyStore.Proofs.Files.Link
import PropertyStore.Proofs.Files.Shadowed
import PropertyStore.Proofs.Store.Saving

namespace PropertyStore

open Files (Tree Place)

variable {tree after : Tree} {path text : String} {hole goal place : Place}

/-- A path leads to a regular file that reads as exactly the given properties, in key order. -/
def Saved (tree : Tree) (path : String) (properties : Properties) : Prop :=
  ∃ place content mode, tree.resolve .find path = .ok (.existing place) ∧
    tree.find? place = some (.file content mode) ∧
    Document.ofBytes content = ⟨.ok properties.toList, []⟩

theorem Files.Replaced.saved {store : Store} {time : Calendar} {mode : Nat}
    (replaced : Files.Replaced tree hole goal (store.fileContent time.stamp) mode after)
    (leads : after.resolve .find path = .ok (.existing goal)) : Saved after path store.properties :=
  ⟨goal, _, mode, leads, replaced.there, Document.ofBytes_fileContent store time⟩

theorem Files.Tree.NamesLink.ofName {name : String} (start : tree.workingDirectory = [])
    (named : Files.IsName name) (linked : tree.find? [name] = some (.link text)) :
    tree.NamesLink name [name] text := by
  have spelled : "/".intercalate [name] = name := String.intercalate_singleton
  have parts : Files.Path.segments name = [] ++ [name] := by
    conv_lhs => rw [← spelled]
    exact Files.Path.segments_intercalate [name] (by simp) (by simpa using named.plain)
  have relative : Files.Path.isAbsolute name = false := by
    have full : name ≠ "" := Files.Path.ne_of_isIdle named.step.moves rfl
    rw [Files.Path.isAbsolute_of_segments parts (.inl full)]
    simp [full]
  refine ⟨⟨[], name, 0, [], ⟨parts, named.step.moves, named.step.down, by simp⟩, ?_, rfl⟩, linked⟩
  rw [Tree.origin, relative, start]
  exact .here

/-- A save replaces a link that leads to nothing. -/
theorem Files.Tree.NamesLink.goal_of_absent (link : tree.NamesLink path place text)
    (absent : tree.Absent path) (aimed : tree.Goal path goal) : goal = place := by
  rcases aimed with resolved | ⟨_, slot⟩
  · exact (absent goal resolved).elim
  · exact link.place_of_slot slot

namespace Store

/-- After a save one more can be made, and if it failed, with the same goal as before. -/
theorem saveTo_again (store : Store) (wellFormed : tree.WellFormed)
    (unlinked : tree.TemporaryUnlinked path) (stamp : String) :
    let saving := store.saveTo tree path stamp
    let after := tree.applyAll saving.changes
    after.WellFormed ∧ after.TemporaryUnlinked path ∧
      (saving.value ≠ .ok () → ∀ goal, tree.Goal path goal → after.Goal path goal) := by
  intro saving after
  rcases store.saveTo_cases wellFormed unlinked stamp with
    ⟨_, ⟨same, _⟩ | ⟨hole, aside, outside, changed⟩⟩ |
    ⟨hole, goal, aside, aimed, ended, _, replaced⟩
  · rw [show after = tree from same]
    exact ⟨wellFormed, unlinked, fun _ _ => id⟩
  · obtain ⟨target, temporary, stands⟩ := aside.stands unlinked outside
    exact ⟨Files.wellFormed_of_failed stands changed wellFormed,
      Files.unlinked_of_failed stands changed wellFormed,
      fun _ _ aimed => aimed.of_failed stands changed wellFormed⟩
  · obtain ⟨target, temporary, stands⟩ := aside.stands unlinked replaced.closed.1
    have slot := stands.slot_of_goal wellFormed aimed
    exact ⟨Files.wellFormed_of_replaced slot replaced wellFormed,
      Files.unlinked_of_replaced stands slot replaced wellFormed,
      fun failed => (failed ended).elim⟩

/-- If anything can be read at a path after a successful save, it is the store's file, whatever
stood under the name of the temporary file. -/
theorem content_after_saveTo {bytes : Text.Bytes} (store : Store) (wellFormed : tree.WellFormed)
    (stamp : String) (ended : (store.saveTo tree path stamp).value = .ok ())
    (held : (tree.applyAll (store.saveTo tree path stamp).changes).content? path = some bytes) :
    bytes = store.fileContent stamp := by
  obtain ⟨done, changes⟩ := store.replaceFile_of_saveTo ended
  rw [changes] at held
  exact Files.Action.replaceFile_content wellFormed (store.fileContent stamp) done held

/-- A save by whichever name it is asked for. -/
def SavesTo (store : Store) (tree : Tree) (path stamp : String)
    (saving : Report (Except Fault Unit)) : Prop :=
  saving = store.saveTo tree path stamp ∨
    store.defaultPath = some path ∧ saving = store.saveDefault tree stamp

theorem SavesTo.eq {store : Store} {stamp : String} {saving : Report (Except Fault Unit)}
    (saves : store.SavesTo tree path stamp saving) : saving = store.saveTo tree path stamp := by
  rcases saves with same | ⟨default, same⟩
  · exact same
  · rw [same, saveDefault, default]

/-- A save through a link leaves the link and puts the store's file where it leads if and only if it
leads to something: a link that leads to nothing is replaced itself. -/
theorem saveTo_keeps_link_iff (store : Store) (time : Calendar) (wellFormed : tree.WellFormed)
    (unlinked : tree.TemporaryUnlinked path) (link : tree.NamesLink path place text)
    {saving : Report (Except Fault Unit)} (saves : store.SavesTo tree path time.stamp saving)
    (ended : saving.value = .ok ()) :
    (tree.applyAll saving.changes).NamesLink path place text ∧
        Saved (tree.applyAll saving.changes) path store.properties ↔
      ¬ tree.Absent path := by
  cases saves.eq
  rcases store.saveTo_cases wellFormed unlinked time.stamp with ⟨⟨fault, failed, _⟩, _⟩ |
    ⟨hole, goal, aside, aimed, _, leads, replaced⟩
  · cases ended.symm.trans failed
  · constructor
    · intro kept absent
      have linked := kept.1.linked
      rw [← link.goal_of_absent absent aimed, replaced.there] at linked
      cases linked
    · intro there
      obtain ⟨solid, resolved⟩ := Tree.exists_of_not_absent there
      cases aimed.unique (.inl resolved)
      obtain ⟨entry, found, plain⟩ := wellFormed.solid_of_resolve resolved
      refine ⟨link.alike wellFormed replaced.alike ?_, replaced.saved leads⟩
      intro other listed text linked
      rw [List.mem_cons, List.mem_singleton] at listed
      rcases listed with rfl | rfl
      · exact unlinked.not_link aside text linked
      · cases found.symm.trans linked
        cases plain

private theorem linkedTree_namesLink : linkedTree.NamesLink "p" ["p"] "d/real" :=
  .ofName rfl (isName_of "p" (by decide)) (by decide +kernel)

theorem saveTo_keeps_link_iff_linked :
    let store := (ofPath "p").set "k" "v"
    let saving := store.saveDefault linkedTree epoch.stamp
    let after := linkedTree.applyAll saving.changes
    linkedTree.WellFormed ∧ linkedTree.TemporaryUnlinked "p" ∧ saving.value = .ok () ∧
      after.NamesLink "p" ["p"] "d/real" ∧ Saved after "p" store.properties := by
  intro store saving after
  have unlinked := linkedTree_temporaryFree.clear.unlinked
  have ended : saving.value = .ok () := by
    decide +kernel
  have kept := (store.saveTo_keeps_link_iff epoch linkedTree_wellFormed unlinked
    linkedTree_namesLink (.inr ⟨rfl, rfl⟩) ended).mpr
  refine ⟨linkedTree_wellFormed, unlinked, ended, kept ?_⟩
  intro absent
  exact absent ["d", "real"] (by decide +kernel)

/-- A link to a name that nothing has. -/
def danglingTree : Tree := ({} : Tree).put ([] ++ ["p"]) (.link "d")

/-- The link is gone, and what it leads to is still not there. -/
theorem saveTo_dangling :
    let saving := oneProperty.saveTo danglingTree "p" epoch.stamp
    let after := danglingTree.applyAll saving.changes
    danglingTree.NamesLink "p" ["p"] "d" ∧ danglingTree.TemporaryUnlinked "p" ∧
      saving.value = .ok () ∧ ¬ after.NamesLink "p" ["p"] "d" ∧ after.find? ["d"] = none ∧
      after.find? ["p"] = some (.file (oneProperty.fileContent epoch.stamp) 0o644) := by
  intro saving after
  have link : danglingTree.NamesLink "p" ["p"] "d" :=
    .ofName rfl (isName_of "p" (by decide)) (by decide +kernel)
  have aside : danglingTree.TemporaryPlace "p" ["p.tmp"] :=
    ⟨"p", "p.tmp", false, by decide +kernel, by decide +kernel, by decide +kernel⟩
  have free := aside.free (by decide +kernel)
  have replaced : after.find? ["p"] =
      some (.file (oneProperty.fileContent epoch.stamp) 0o644) := by
    decide +kernel
  refine ⟨link, free.clear.unlinked, by decide +kernel, ?_, by decide +kernel, replaced⟩
  intro kept
  cases kept.linked.symm.trans replaced

end Store

end PropertyStore
