import PropertyStore.Proofs.Files.Goal

namespace PropertyStore.Files

/-- A path ends in a name under which a link with the given text stands. -/
structure Tree.NamesLink (tree : Tree) (path : String) (place : Place) (text : String) : Prop where
  named : ∃ above name links directory, Path.Names path above name [] ∧
    Leads tree links (tree.origin path) above directory ∧ place = directory ++ [name]
  linked : tree.find? place = some (.link text)

/-- A path is a link that leads to nothing. -/
def Tree.Dangling (tree : Tree) (path : String) : Prop :=
  tree.Absent path ∧ ∃ place text, tree.NamesLink path place text

variable {tree before after : Tree} {path text : String} {hole place goal : Place}
  {places : List Place}

namespace Tree.NamesLink

theorem place_of_slot (link : tree.NamesLink path place text)
    (slot : tree.slot path = .ok (goal, false)) : goal = place := by
  obtain ⟨above, name, links, directory, names, leads, rfl⟩ := link.named
  obtain ⟨_, _, _, _, _, reached, also, _, rfl⟩ := (slot_eq_ok_iff names).mp slot
  rw [leads.unique also]

/-- A link keeps its name when other places change that have neither directory nor link. -/
theorem alike (link : before.NamesLink path place text) (wellFormed : before.WellFormed)
    (alike : AlikeBut places before after)
    (unlinked : ∀ hole ∈ places, ∀ text, before.find? hole ≠ some (.link text)) :
    after.NamesLink path place text := by
  obtain ⟨above, name, links, directory, names, leads, rfl⟩ := link.named
  have inside := (wellFormed directory name _ link.linked).1
  have past : ∀ hole ∈ places, Blocked before hole directory := fun hole listed =>
    blocked_of_directory (alike.closed hole listed).1 (unlinked hole listed) inside
  have other : directory ++ [name] ∉ places := fun listed => unlinked _ listed text link.linked
  refine ⟨⟨above, name, links, directory, names, ?_, rfl⟩, (alike.same _ other).trans link.linked⟩
  rw [alike.origin]
  exact alike.leads past leads

end Tree.NamesLink

theorem Tree.content?_of_free (nowhere : ∀ place, tree.locate .find path ≠ .ok (.existing place)) :
    tree.content? path = none := by
  cases held : tree.content? path with
  | none => rfl
  | some bytes =>
    obtain ⟨place, _, located, _⟩ := (tree.content?_eq_some_iff path bytes).mp held
    exact (nowhere place located).elim

section Aside

variable (alike : AlikeBut [hole] before after)
  (unlinked : ∀ text, before.find? hole ≠ some (.link text))
  (still : ∀ text, after.find? hole ≠ some (.link text))

include alike unlinked still

theorem AlikeBut.content? (apart : before.locate .find path ≠ .ok (.existing hole))
    (off : after.locate .find path ≠ .ok (.existing hole)) :
    after.content? path = before.content? path := by
  have same {first second : Tree} {place : Place} (alike : AlikeBut [hole] first second)
      (unlinked : ∀ text, first.find? hole ≠ some (.link text))
      (apart : first.locate .find path ≠ .ok (.existing hole))
      (located : first.locate .find path = .ok (.existing place)) :
      second.content? path = first.content? path := by
    have other : place ∉ [hole] := by
      intro listed
      rw [List.mem_singleton.mp listed] at located
      exact apart located
    have plain : ∀ spot ∈ [hole], ∀ text, first.find? spot ≠ some (.link text) := by
      simpa using unlinked
    rw [Tree.content?, Tree.content?, alike.lookup plain located other]
  by_cases early : ∃ place, before.locate .find path = .ok (.existing place)
  · obtain ⟨place, located⟩ := early
    exact same alike unlinked apart located
  · by_cases late : ∃ place, after.locate .find path = .ok (.existing place)
    · obtain ⟨place, located⟩ := late
      exact (same alike.symm still off located).symm
    · rw [Tree.content?_of_free (by simpa using late), Tree.content?_of_free (by simpa using early)]

omit unlinked in
theorem AlikeBut.resolve_hole (solid : before.Solid hole)
    (resolved : after.resolve .find path = .ok (.existing hole)) :
    before.resolve .find path = .ok (.existing hole) := by
  obtain ⟨entry, found, plain⟩ := solid
  obtain ⟨clean, full, links, covered, leads⟩ := (after.resolve_eq_existing_iff path).mp resolved
  refine (before.resolve_eq_existing_iff path).mpr ⟨clean, full, links, covered, ?_⟩
  rw [← alike.origin]
  apply leads.transfer
  · intro place inside
    rwa [← alike.isDirectory]
  · intro _ place segment _ other _ _ present
    by_cases there : place ++ [segment] = hole
    · rw [there] at present ⊢
      refine ⟨entry, found, plain.trans ?_⟩
      cases other with
      | link text => exact (still text present).elim
      | _ => rfl
    · exact ⟨other, (alike.same _ (by simpa using there)).symm.trans present, rfl⟩

/-- Whatever stands at the temporary file's place, the path does not lead there unless it is a link
that led to nothing. -/
theorem Tree.TemporaryPlace.not_reached (aside : before.TemporaryPlace path hole)
    (wellFormed : before.WellFormed) (sound : ¬ before.Dangling path) :
    after.resolve .find path ≠ .ok (.existing hole) := by
  intro resolved
  have closed := alike.closed hole (List.mem_singleton_self _)
  by_cases absent : before.Absent path
  · obtain ⟨target, temporary, slashed, aim, beside, slot⟩ := aside
    obtain ⟨rfl, _⟩ := Replacement.targetOf_absent absent aim
    obtain ⟨_, _, links, _, leads⟩ := (after.resolve_eq_existing_iff target).mp resolved
    rcases List.eq_nil_or_concat (Path.segments target) with none | ⟨above, name, whole⟩
    · exact Path.segments_ne_nil target none
    · rw [List.concat_eq_append] at whole
      rw [whole] at leads
      obtain ⟨early, _, middle, reached, late, _, onward⟩ := leads.split
      -- What the last segment of the path can be.
      cases onward with
      | idle inside _ further =>
        cases further
        simp [closed.2] at inside
      | up inside further =>
        cases further
        rw [alike.isDirectory] at inside
        rcases List.eq_nil_or_concat middle with rfl | ⟨way, last, rfl⟩
        · simp [inside] at closed
        · rw [List.concat_eq_append] at inside closed
          obtain ⟨mode, found⟩ := (before.isDirectory_iff _).mp inside
          rw [List.dropLast_concat] at closed
          simp [(wellFormed way last _ found).1] at closed
      | entry inside step found plain further =>
        cases further
        have names : Path.Names target above name [] := ⟨whole, step.moves, step.down, by simp⟩
        exact Tree.slot_sibling_ne names beside slot middle rfl
      | @link _ text _ _ _ _ inside step found _ =>
        have other : middle ++ [name] ≠ hole := fun same => still text (same ▸ found)
        have past : ∀ spot ∈ [hole], Blocked after spot middle := by
          simpa using blocked_of_directory closed.2 still inside
        have back := alike.symm.leads past reached
        rw [alike.origin] at back
        refine sound ⟨absent, middle ++ [name], text, ?_, ?_⟩
        · exact ⟨above, name, early, middle, ⟨whole, step.moves, step.down, by simp⟩, back, rfl⟩
        · exact (alike.same _ (by simpa using other)).symm.trans found
  · obtain ⟨goal, aimed⟩ := Tree.exists_of_not_absent absent
    have apart := aside.apart wellFormed (.inl aimed)
    have kept := alike.resolve (by simpa using unlinked) aimed (by simpa using apart.symm)
    cases resolved.symm.trans kept
    exact apart rfl

end Aside

end PropertyStore.Files
