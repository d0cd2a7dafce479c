import PropertyStore.Proofs.Files.Goal

/-! What a replacement does to a link that has the temporary file's name. The link is followed
when the temporary file is opened, but its own name is what is moved or removed in the end: the
link is gone whatever comes of the replacement. -/

namespace PropertyStore.Files

variable {tree : Tree} {path target temporary text : String} {hole place : Place} {replacement : Replacement}
  {content : Text.Bytes}

theorem Action.openFile_opened (wellFormed : tree.WellFormed) (path : String) :
    (∃ fault, openFile path true tree = ⟨[], .error fault⟩) ∨
      ∃ place entry change, Opened tree path place entry change ∧
        ∀ text, tree.find? place ≠ some (.link text) := by
  cases located : tree.locate .create path with
  | error fault => exact .inl ⟨fault, openFile_error located⟩
  | ok destination =>
    cases destination with
    | free place =>
      have free := Tree.free_of_locate located
      exact .inr ⟨place, _, _, opened_free located free, by simp [free]⟩
    | existing place =>
      cases inside : tree.isDirectory place with
      | true => exact .inl ⟨_, openFile_directory located inside⟩
      | false =>
        obtain ⟨entry, found, plain⟩ := wellFormed.solid_of_locate located
        exact .inr ⟨place, _, _, opened_entry located found plain inside,
          (wellFormed.solid_of_locate located).not_link⟩

theorem Opened.keeps {written : Tree} {entry result : Entry} {change : Change} {bits : Nat}
    (opened : Opened tree path place entry change) (takes : Entry.Takes content bits result)
    (unlinked : ∀ text, tree.find? place ≠ some (.link text))
    (slot : tree.slot path = .ok (hole, false)) (linked : tree.find? hole = some (.link text))
    (changed : ChangedAt tree place (some result) written) :
    written.slot path = .ok (hole, false) ∧ written.isDirectory hole = false ∧
      ∃ there, written.find? hole = some there := by
  have apart : hole ≠ place := by
    rintro rfl
    exact unlinked text linked
  have there : written.find? hole = some (.link text) := (changed.elsewhere hole apart).trans linked
  obtain ⟨above, name, names⟩ := Tree.names_of_slot slot
  have still := changed.isDirectory_eq takes
  refine ⟨?_, by simp [Tree.isDirectory, there], _, there⟩
  exact (changed.alike opened.outside still).slot_past unlinked names slot

theorem Replacement.carryOut_linked (wellFormed : tree.WellFormed)
    (beside : Path.sibling? replacement.target temporarySuffix = some replacement.temporary)
    (slot : tree.slot replacement.temporary = .ok (hole, false))
    (linked : tree.find? hole = some (.link text)) :
    (tree.applyAll (replacement.carryOut tree).changes).find? hole = none := by
  have outside : tree.isDirectory hole = false := by
    simp [Tree.isDirectory, linked]
  have below := Tree.ne_nil_of_outside outside
  rcases Action.openFile_opened wellFormed replacement.temporary with ⟨fault, failed⟩ |
    ⟨place, entry, change, opened, unlinked⟩
  · have first : replacement.attempt tree = ⟨[], .error fault⟩ :=
      attempt_error (Action.bind_error _ failed)
    rw [carryOut_undone first slot linked outside]
    exact (ChangedAt.remove below).there
  · obtain ⟨written, after, takes, changed, ⟨fault, _, result⟩ | ⟨_, goal, aimed, _, _, result⟩⟩ :=
      carryOut_opened opened fun bits written after takes changed =>
        opened.keeps takes unlinked slot linked changed
    · rw [result]
      exact (ChangedAt.remove below).there
    · -- The link itself has taken the target's name.
      obtain ⟨slotted, _, there, found⟩ := opened.keeps takes unlinked slot linked changed
      obtain ⟨above, name, names⟩ := Tree.names_of_slot aimed
      obtain ⟨_, _, _, _, _, directory, _, _, rfl⟩ := (Tree.slot_eq_ok_iff names).mp aimed
      have apart := Tree.slot_sibling_ne names beside slotted directory
      rw [result, if_neg apart]
      exact Tree.find?_moved found below (by simp) apart

/-- There is one name for the temporary file at most, and if it is not that of no link, then it is
that of a link. -/
theorem Tree.linked_of_not_unlinked (linked : ¬ tree.TemporaryUnlinked path)
    (aim : Replacement.targetOf tree path = .ok target)
    (beside : Path.sibling? target temporarySuffix = some temporary) :
    ∃ hole, tree.slot temporary = .ok (hole, false) ∧
      ∃ text, tree.find? hole = some (.link text) := by
  by_contra plain
  apply linked
  intro other next also beyond hole slashed slot text found
  cases aim.symm.trans also
  cases beside.symm.trans beyond
  obtain ⟨way, name, names⟩ := Path.names_of_sibling? beside
  obtain ⟨_, _, rfl, _⟩ := (slot_eq_ok_iff names).mp slot
  exact plain ⟨hole, slot, text, found⟩

/-- Unless it is a directory's, the name of the temporary file is free after a replacement, whoever
had it and whatever comes of the replacement. -/
theorem Action.replaceFile_frees (wellFormed : tree.WellFormed) (aside : tree.TemporaryPlace path hole)
    (outside : tree.isDirectory hole = false) (content : Text.Bytes) :
    (tree.applyAll (replaceFile path content tree).changes).find? hole = none := by
  by_cases clear : tree.TemporaryUnlinked path
  · rcases replaceFile_goal wellFormed clear content with ⟨_, ⟨_, barred⟩ | ⟨other, also, _, changed⟩⟩ |
      ⟨other, goal, also, _, _, _, replaced⟩
    · simp [barred hole aside] at outside
    · exact aside.unique also ▸ changed.there
    · exact aside.unique also ▸ replaced.gone
  · obtain ⟨target, temporary, slashed, aim, beside, slot⟩ := aside
    obtain ⟨other, slotted, text, linked⟩ := Tree.linked_of_not_unlinked clear aim beside
    cases slot.symm.trans slotted
    rw [replaceFile_eq (Replacement.plan_of_sibling aim beside)]
    exact Replacement.carryOut_linked wellFormed beside slot linked

end PropertyStore.Files
