import PropertyStore.Proofs.Files.Target

namespace PropertyStore.Files

variable {tree after : Tree} {path target temporary : String} {hole goal place : Place}
  {content : Text.Bytes}

/-- Where a save to a path puts the file: where the path leads, links followed, or, if it leads to
nothing, at its own last name. -/
def Tree.Goal (tree : Tree) (path : String) (goal : Place) : Prop :=
  tree.resolve .find path = .ok (.existing goal) ∨
    tree.Absent path ∧ tree.slot path = .ok (goal, false)

/-- Nothing stands under the name of the temporary file of a save to a path. -/
def Tree.TemporaryFree (tree : Tree) (path : String) : Prop :=
  ∀ hole, tree.TemporaryPlace path hole → tree.find? hole = none

/-- Nothing but a directory stands under the name of the temporary file of a save to a path. -/
def Tree.TemporaryClear (tree : Tree) (path : String) : Prop :=
  ∀ hole, tree.TemporaryPlace path hole → tree.find? hole = none ∨ tree.isDirectory hole

theorem Tree.TemporaryFree.clear (free : tree.TemporaryFree path) : tree.TemporaryClear path :=
  fun hole aside => .inl (free hole aside)

theorem Tree.TemporaryClear.unlinked (clear : tree.TemporaryClear path) :
    tree.TemporaryUnlinked path := by
  intro target temporary aim beside hole slashed slot text linked
  rcases clear hole ⟨target, temporary, slashed, aim, beside, slot⟩ with free | inside
  · rw [linked] at free
    cases free
  · simp [isDirectory, linked] at inside

theorem Tree.TemporaryUnlinked.not_link (unlinked : tree.TemporaryUnlinked path)
    (aside : tree.TemporaryPlace path hole) (text : String) :
    tree.find? hole ≠ some (.link text) := by
  obtain ⟨target, temporary, slashed, aim, beside, slot⟩ := aside
  exact unlinked target temporary aim beside hole slashed slot text

theorem Tree.TemporaryClear.apart (clear : tree.TemporaryClear path)
    (aside : tree.TemporaryPlace path hole) (outside : tree.isDirectory hole = false)
    (found : tree.find? place = some entry) : place ≠ hole := by
  rintro rfl
  rcases clear place aside with free | inside
  · simp [free] at found
  · simp [outside] at inside

theorem Tree.Goal.unique (first : tree.Goal path goal) (second : tree.Goal path place) :
    goal = place := by
  rcases first with resolved | ⟨absent, slot⟩
  · rcases second with also | ⟨absent, _⟩
    · cases resolved.symm.trans also
      rfl
    · exact (absent goal resolved).elim
  · rcases second with resolved | ⟨_, also⟩
    · exact (absent place resolved).elim
    · cases slot.symm.trans also
      rfl

theorem Tree.TemporaryPlace.unique (first : tree.TemporaryPlace path hole)
    (second : tree.TemporaryPlace path place) : hole = place := by
  obtain ⟨_, _, _, aim, beside, slot⟩ := first
  obtain ⟨_, _, _, also, next, other⟩ := second
  cases aim.symm.trans also
  cases beside.symm.trans next
  cases slot.symm.trans other
  rfl

/-- There is one such place at most, so if it is free, the name is. -/
theorem Tree.TemporaryPlace.free (aside : tree.TemporaryPlace path hole)
    (free : tree.find? hole = none) : tree.TemporaryFree path :=
  fun _ other => aside.unique other ▸ free

theorem TemporaryAt.temporaryPlace (stands : TemporaryAt tree path target temporary hole) :
    tree.TemporaryPlace path hole :=
  ⟨target, temporary, false, stands.aim, stands.beside, stands.slot⟩

theorem Tree.TemporaryPlace.apart (wellFormed : tree.WellFormed)
    (aside : tree.TemporaryPlace path hole) (aimed : tree.Goal path goal) : hole ≠ goal := by
  obtain ⟨target, temporary, slashed, aim, beside, slot⟩ := aside
  rcases aimed with resolved | ⟨absent, slotted⟩
  · rw [Replacement.targetOf_existing resolved] at aim
    cases aim
    obtain ⟨entry, found, _⟩ := wellFormed.solid_of_resolve resolved
    rcases List.eq_nil_or_concat goal with rfl | ⟨directory, name, rfl⟩
    · -- The root has no file beside it.
      cases beside
    · rw [List.concat_eq_append] at *
      exact slot_sibling_ne (wellFormed.names found) beside slot directory
  · obtain ⟨rfl, _⟩ := Replacement.targetOf_absent absent aim
    obtain ⟨above, name, names⟩ := names_of_slot slotted
    obtain ⟨_, _, _, _, _, directory, _, _, rfl⟩ := (slot_eq_ok_iff names).mp slotted
    exact slot_sibling_ne names beside slot directory

theorem Tree.WellFormed.place_of_slot (wellFormed : tree.WellFormed)
    (resolved : tree.resolve .find path = .ok (.existing place))
    (aim : Replacement.targetOf tree path = .ok target)
    (beside : Path.sibling? target temporarySuffix = some temporary)
    (aimed : tree.slot target = .ok (goal, slashed)) : goal = place := by
  rw [Replacement.targetOf_existing resolved] at aim
  cases aim
  obtain ⟨entry, found, _⟩ := wellFormed.solid_of_resolve resolved
  rcases List.eq_nil_or_concat place with rfl | ⟨directory, name, rfl⟩
  · -- The root has no file beside it.
    cases beside
  · rw [List.concat_eq_append] at *
    exact wellFormed.slot found aimed

theorem Tree.WellFormed.goal_of_slot (wellFormed : tree.WellFormed)
    (aim : Replacement.targetOf tree path = .ok target)
    (beside : Path.sibling? target temporarySuffix = some temporary)
    (aimed : tree.slot target = .ok (goal, false)) : tree.Goal path goal := by
  by_cases absent : tree.Absent path
  · obtain ⟨rfl, _⟩ := Replacement.targetOf_absent absent aim
    exact .inr ⟨absent, aimed⟩
  · obtain ⟨place, resolved⟩ := Tree.exists_of_not_absent absent
    rw [wellFormed.place_of_slot resolved aim beside aimed]
    exact .inl resolved

theorem Tree.WellFormed.sibling? {directory : Place} {name : String} {entry : Entry}
    (wellFormed : tree.WellFormed) (present : tree.find? (directory ++ [name]) = some entry) :
    Path.sibling? (Path.ofPlace (directory ++ [name])) temporarySuffix =
      some (Path.ofPlace (directory ++ [name]) ++ temporarySuffix) := by
  have names := wellFormed.names present
  obtain ⟨temporary, way, idles, beside, next, absolute, whole, idle⟩ := names.sibling
  rw [Path.isAbsolute_ofPlace] at absolute
  -- The way to the temporary file loses nothing: no name in a tree is idle.
  have same : way = "" :: directory := by
    cases way with
    | nil =>
      have relative := Path.isAbsolute_of_segments next.whole (.inl next.ne_empty)
      simp [absolute, next.ne_empty] at relative
    | cons first rest =>
      obtain ⟨rfl, rfl⟩ := List.cons.inj whole
      cases idles with
      | nil => simp
      | cons other more =>
        have named : IsName other := wellFormed.isName present (by simp)
        have still := idle other List.mem_cons_self
        rw [named.step.moves] at still
        cases still
  have spelled : temporary = Path.ofPlace (directory ++ [name]) ++ temporarySuffix := by
    rw [← Path.intercalate_segments temporary, next.whole, same, Path.ofPlace_eq (by simp),
      ← List.cons_append, String.intercalate_append_of_ne_nil (by simp) (by simp),
      String.intercalate_append_of_ne_nil (by simp) (by simp)]
    simp [String.append_assoc]
  rw [beside, spelled]

/-- The goal is what the target's path stands for: that path is no longer than the temporary
file's. -/
theorem TemporaryAt.slot_of_goal (stands : TemporaryAt tree path target temporary hole)
    (wellFormed : tree.WellFormed) (aimed : tree.Goal path goal) :
    tree.slot target = .ok (goal, false) := by
  rcases aimed with resolved | ⟨absent, slot⟩
  · obtain ⟨entry, found, plain⟩ := wellFormed.solid_of_resolve resolved
    obtain ⟨rfl, _, directory, name, rfl, names⟩ := stands.names wellFormed resolved found
    have beside := stands.beside
    rw [wellFormed.sibling? found, Option.some.injEq] at beside
    have usable := Tree.usable_of_slot stands.slot
    rw [← beside] at usable
    have short := usable.short
    rw [String.utf8ByteSize_append] at short
    have clean := usable.clean
    rw [String.toList_append, List.mem_append, not_or] at clean
    obtain ⟨inside, named⟩ := wellFormed directory name entry found
    obtain ⟨mode, there⟩ := (tree.isDirectory_iff directory).mp inside
    have root : tree.isDirectory [] := by
      simp [Tree.isDirectory, Tree.find?]
    have brief := Nat.lt_of_le_of_lt (Nat.le_add_right _ _) short
    refine (Tree.slot_eq_ok_iff names).mpr ⟨⟨clean.1, brief⟩, named.step.short, rfl, 0,
      Nat.zero_le _, directory, ?_, inside, rfl⟩
    rw [Tree.origin, Path.isAbsolute_ofPlace, if_pos rfl]
    exact .idle root (by decide) (wellFormed.leads there rfl)
  · rwa [(Replacement.targetOf_absent absent stands.aim).1]

theorem Tree.mode?_of_locate (located : tree.locate .find path = .ok (.existing place)) :
    tree.mode? path = (tree.find? place).bind Entry.mode? := by
  cases found : tree.find? place <;>
    simp [mode?, lookup, located, found, bind, Except.bind, pure, Except.pure]

theorem Tree.mode?_of_free (located : ∀ place, tree.locate .find path ≠ .ok (.existing place)) :
    tree.mode? path = none := by
  cases found : tree.locate .find path with
  | error fault => simp [mode?, lookup, found, bind, Except.bind]
  | ok destination =>
    cases destination with
    | free place => simp [mode?, lookup, found, bind, Except.bind]
    | existing place => exact (located place found).elim

theorem Tree.TemporaryPlace.stands (aside : tree.TemporaryPlace path hole)
    (unlinked : tree.TemporaryUnlinked path) (outside : tree.isDirectory hole = false) :
    ∃ target temporary, TemporaryAt tree path target temporary hole := by
  obtain ⟨target, temporary, slashed, aim, beside, slot⟩ := aside
  obtain ⟨way, name, names⟩ := Path.names_of_sibling? beside
  obtain ⟨_, _, rfl, _⟩ := (slot_eq_ok_iff names).mp slot
  exact ⟨target, temporary, aim, beside, slot, outside, unlinked _ _ aim beside hole false slot⟩

theorem Tree.Goal.of_failed (aimed : tree.Goal path goal)
    (stands : TemporaryAt tree path target temporary hole) (changed : ChangedAt tree hole none after)
    (wellFormed : tree.WellFormed) : after.Goal path goal := by
  have apart := stands.temporaryPlace.apart wellFormed aimed
  rcases aimed with resolved | ⟨absent, slot⟩
  · exact .inl (resolve_of_failed stands changed apart resolved)
  · obtain ⟨above, name, names⟩ := names_of_slot slot
    have alike := changed.alike_of_failed stands
    exact .inr ⟨absent_of_failed stands changed absent, alike.slot_past stands.unlinked names slot⟩

theorem TemporaryAt.mode?_target (stands : TemporaryAt tree path target temporary hole)
    (wellFormed : tree.WellFormed) (aimed : tree.slot target = .ok (goal, false)) :
    tree.mode? target = (tree.find? goal).bind Entry.mode? := by
  obtain ⟨above, name, names⟩ := Tree.names_of_slot aimed
  cases found : tree.find? goal with
  | none =>
    apply Tree.mode?_of_free
    intro place located
    cases (Tree.locate_free names aimed found .find).symm.trans located
  | some entry =>
    cases linked : entry.link? with
    | none =>
      rw [Tree.mode?_of_locate (Tree.locate_entry names aimed found linked .find), found]
    | some text =>
      -- A link stands at the goal only if the path ends in that link and it leads to nothing.
      rcases wellFormed.goal_of_slot stands.aim stands.beside aimed with resolved | ⟨absent, _⟩
      · obtain ⟨other, also, plain⟩ := wellFormed.solid_of_resolve resolved
        cases found.symm.trans also
        rw [linked] at plain
        cases plain
      · obtain ⟨rfl, _⟩ := Replacement.targetOf_absent absent stands.aim
        have nowhere : tree.mode? target = none := by
          apply Tree.mode?_of_free
          intro place located
          rw [Tree.locate_of_usable (Tree.usable_of_slot aimed)] at located
          exact absent place located
        rw [(Entry.link?_eq_some entry text).mp linked]
        exact nowhere

/-- What replacing a file comes to: a failure after which nothing stands at the temporary file's
place unless a directory was there, or the new content at the goal. -/
theorem Action.replaceFile_goal (wellFormed : tree.WellFormed) (clear : tree.TemporaryUnlinked path)
    (content : Text.Bytes) :
    let deed := replaceFile path content tree
    let after := tree.applyAll deed.changes
    ((∃ fault, deed.result = .error fault) ∧
        ((after = tree ∧ ∀ hole, tree.TemporaryPlace path hole → tree.isDirectory hole) ∨
          ∃ hole, tree.TemporaryPlace path hole ∧ tree.isDirectory hole = false ∧
            ChangedAt tree hole none after)) ∨
      ∃ hole goal, tree.TemporaryPlace path hole ∧ tree.Goal path goal ∧ deed.result = .ok () ∧
        after.resolve .find path = .ok (.existing goal) ∧
        Replaced tree hole goal content
          (((tree.find? goal).bind Entry.mode?).getD (tree.modeAnew hole)) after := by
  intro deed after
  rcases replaceFile_cases clear content with ⟨fault, failed, barred⟩ |
    ⟨target, temporary, hole, stands, ⟨fault, failed, changed⟩ | ⟨goal, aimed, ended, replaced⟩⟩
  · refine .inl ⟨⟨fault, by rw [show deed = _ from failed]⟩, .inl ⟨?_, barred⟩⟩
    simp only [after, deed, failed]
    rfl
  · exact .inl ⟨⟨fault, failed⟩, .inr ⟨hole, stands.temporaryPlace, stands.closed, changed⟩⟩
  · have leads := resolve_of_replaced stands aimed replaced wellFormed
    rw [stands.mode?_target wellFormed aimed] at replaced
    have target := wellFormed.goal_of_slot stands.aim stands.beside aimed
    exact .inr ⟨hole, goal, stands.temporaryPlace, target, ended, leads, replaced⟩

end PropertyStore.Files
