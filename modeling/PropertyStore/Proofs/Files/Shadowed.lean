import PropertyStore.Proofs.Files.Linked

/-! What a path reads as after a replacement when the temporary file's name was that of a link.
The new content has gone through the link then, and the link has got the target's name, so
the path leads to the content through it, if it leads to a file at all. -/

namespace PropertyStore.Files

/-- What the text of a link in a directory leads to. -/
def Tree.LinkLeads (tree : Tree) (directory : Place) (text : String) (goal : Place) : Prop :=
  ∃ links, Leads tree links (if Path.isAbsolute text then [] else directory) (Path.segments text)
    goal

/-- A tree after something was written to a place to which the link at `hole` led, and that link
was moved to `goal`. -/
structure Shadowed (before : Tree) (hole goal place : Place) (text : String) (content : Text.Bytes)
    (after : Tree) : Prop where
  alike : AlikeBut [hole, goal, place] before after
  linked : before.find? hole = some (.link text)
  plain : ∀ text, before.find? place ≠ some (.link text)
  gone : after.find? hole = none
  moved : after.find? goal = some (.link text)
  written : place ≠ goal → ∃ mode, after.find? place = some (.file content mode)

variable {tree before after : Tree} {path target temporary text : String}
  {hole goal place reached directory : Place} {content bytes : Text.Bytes}

theorem Tree.walk_of_linked {destination : Destination} {purpose : Purpose}
    (slot : tree.slot path = .ok (hole, false)) (linked : tree.find? hole = some (.link text))
    (spot : hole = directory ++ [name]) (located : tree.locate purpose path = .ok destination) :
    ∃ budget, tree.walk purpose budget (if Path.isAbsolute text then [] else directory)
      (Path.segments text) = .ok destination := by
  obtain ⟨above, last, names⟩ := names_of_slot slot
  obtain ⟨budget, parent, inside, step, same, walks⟩ := locate_of_slot names slot purpose
  obtain ⟨rfl, rfl⟩ : parent = directory ∧ last = name := by
    simpa using List.append_inj' (same.symm.trans spot) rfl
  rw [walks] at located
  rw [same] at linked
  rcases walk_step_eq_ok inside step (by simp [isRefused]) located with ⟨free, _⟩ |
    ⟨target, less, found, _, walked⟩ | ⟨entry, found, plain, _⟩
  · cases linked.symm.trans free
  · cases linked.symm.trans found
    exact ⟨less, by simpa using walked⟩
  · cases linked.symm.trans found
    cases plain

namespace Shadowed

variable (shadowed : Shadowed before hole goal place text content after)

include shadowed

theorem ne_hole {entry : Entry} (found : after.find? reached = some entry) : reached ≠ hole := by
  rintro rfl
  cases shadowed.gone.symm.trans found

theorem kept (off : reached ≠ hole) (past : reached ≠ goal) (aside : reached ≠ place) :
    after.find? reached = before.find? reached :=
  shadowed.alike.same reached (by simp [off, past, aside])

/-- From where the link is now its text leads where it led before: it cannot lead back to the link,
as it would not come to an end then. -/
theorem reached_of_leads {destination : Destination} (spot : goal = directory ++ [name])
    (onward : after.LinkLeads directory text reached)
    (walked : before.walk .create budget (if Path.isAbsolute text then [] else directory)
      (Path.segments text) = .ok destination)
    (there : destination = .free place ∨ destination = .existing place) : reached = place := by
  by_contra other
  obtain ⟨links, leads⟩ := onward
  have back : Leads before links (if Path.isAbsolute text then [] else directory)
      (Path.segments text) reached := by
    apply leads.transfer_within
    · intro place inside
      rwa [shadowed.alike.isDirectory] at inside
    · intro fewer covered way segment rest entry step onward found
      have past : way ++ [segment] ≠ goal := by
        intro same
        have present := (congrArg after.find? same).trans shadowed.moved
        obtain ⟨rfl, rfl⟩ : way = directory ∧ segment = name := by
          simpa using List.append_inj' (same.trans spot) rfl
        obtain ⟨left, count, onward⟩ := onward.over_link step present
        obtain ⟨early, bound, _, again, _⟩ := onward.split
        have same := again.links_unique leads
        omega
      have aside : way ++ [segment] ≠ place := by
        intro same
        obtain ⟨mode, file⟩ := shadowed.written (same ▸ past)
        have closed : after.isDirectory place = false := by simp [Tree.isDirectory, file]
        exact blocked_of_end closed (by simp [file]) other way segment fewer rest step same onward
      have off := shadowed.ne_hole found
      exact ⟨entry, (shadowed.kept off past aside).symm.trans found, rfl⟩
  have found := Tree.walk_find_of_create _ _ _ walked
  rw [← List.append_nil (Path.segments text), back.walk_append (.inl rfl), Tree.walk_nil] at found
  split at found
  · cases found
    rcases there with free | existing
    · cases free
    · cases existing
      exact other rfl
  · cases found

private theorem leads_of_existing (wellFormed : before.WellFormed)
    (spot : goal = directory ++ [name])
    (closed : before.isDirectory goal = false)
    (resolved : before.resolve .find path = .ok (.existing goal))
    (late : after.resolve .find path = .ok (.existing reached)) (other : reached ≠ goal) :
    after.LinkLeads directory text reached := by
  obtain ⟨_, _, links, _, leads⟩ := (before.resolve_eq_existing_iff path).mp resolved
  obtain ⟨_, _, further, _, also⟩ := (after.resolve_eq_existing_iff path).mp late
  obtain ⟨former, there, solid⟩ := wellFormed.solid_of_resolve resolved
  rw [shadowed.alike.origin, ← List.append_nil (Path.segments path)] at also
  have parting : after.LinkLeads directory text reached ∨
      ∃ fewer, Leads after fewer goal [] reached := by
    apply leads.follow also
    intro links further way segment rest entry step onward behind found
    by_cases arrived : way ++ [segment] = goal
    · left
      obtain ⟨rfl, rfl⟩ : way = directory ∧ segment = name := by
        simpa using List.append_inj' (arrived.trans spot) rfl
      have ends : rest = [] := by
        rcases onward.down step with ⟨_, _, _, onward⟩ | ⟨_, _, also, _⟩
        · rw [arrived] at onward
          exact (onward.ends closed).1
        · rw [arrived, there] at also
          cases also
          cases solid
      subst ends
      obtain ⟨_, _, onward⟩ :=
        behind.over_link step ((congrArg after.find? arrived).trans shadowed.moved)
      exact ⟨_, by simpa using onward⟩
    · right
      intro later present
      have off := shadowed.ne_hole present
      have aside : way ++ [segment] ≠ place := by
        intro same
        have apart : goal ≠ place := fun equal => arrived (same.trans equal.symm)
        have outside := (shadowed.alike.closed place (by simp)).1
        exact blocked_of_end outside shadowed.plain apart way segment links rest step same onward
      rw [shadowed.kept off arrived aside, found] at present
      cases present
      rfl
  rcases parting with parted | ⟨fewer, onward⟩
  · exact parted
  · cases onward
    exact (other rfl).elim

private theorem leads_of_absent (absent : before.Absent path)
    (loopless : before.resolve .find path ≠ .error .linkLoop)
    (aimed : before.slot path = .ok (goal, false)) (spot : goal = directory ++ [name])
    (late : after.resolve .find path = .ok (.existing reached)) :
    after.LinkLeads directory text reached := by
  obtain ⟨above, last, ends⟩ := Tree.names_of_slot aimed
  obtain ⟨usable, short, _, links, covered, parent, leads, inside, same⟩ :=
    (Tree.slot_eq_ok_iff ends).mp aimed
  obtain ⟨rfl, rfl⟩ : parent = directory ∧ last = name := by
    simpa using List.append_inj' (same.symm.trans spot) rfl
  have nowhere := Tree.nowhere_of_absent absent loopless ends usable leads
  obtain ⟨_, _, further, _, also⟩ := (after.resolve_eq_existing_iff path).mp late
  rw [shadowed.alike.origin, ends.whole] at also
  have parting : False ∨ ∃ fewer, Leads after fewer parent [last] reached := by
    apply leads.follow also
    intro links further way segment rest entry step onward _ found
    right
    intro later present
    have off := shadowed.ne_hole present
    have past : way ++ [segment] ≠ goal := by
      intro same
      exact blocked_of_nowhere nowhere way segment links rest step (same.trans spot) onward
    have aside : way ++ [segment] ≠ place := by
      intro same
      have outside := (shadowed.alike.closed place (by simp)).1
      have blocked := blocked_of_directory outside shadowed.plain inside
      exact blocked way segment links rest step same onward
    rw [shadowed.kept off past aside, found] at present
    cases present
    rfl
  rcases parting with parted | ⟨fewer, onward⟩
  · exact parted.elim
  · have step : IsStep last := ⟨ends.moves, ends.down, short⟩
    obtain ⟨_, _, onward⟩ :=
      onward.over_link step ((congrArg after.find? spot.symm).trans shadowed.moved)
    exact ⟨_, by simpa using onward⟩

private theorem content_eq {mode : Nat} (wellFormed : before.WellFormed)
    (aim : Replacement.targetOf before path = .ok target)
    (beside : Path.sibling? target temporarySuffix = some temporary)
    (slot : before.slot temporary = .ok (hole, false))
    (aimed : before.slot target = .ok (goal, false))
    (closed : before.isDirectory goal = false) (opens : before.OpensAt temporary place)
    (late : after.resolve .find path = .ok (.existing reached))
    (found : after.find? reached = some (.file bytes mode)) : bytes = content := by
  have other : reached ≠ goal := by
    rintro rfl
    cases shadowed.moved.symm.trans found
  obtain ⟨above, name, names⟩ := Tree.names_of_slot aimed
  obtain ⟨_, _, _, _, _, directory, leads, _, spot⟩ := (Tree.slot_eq_ok_iff names).mp aimed
  have spotted := Tree.slot_sibling names beside leads slot
  have onward : after.LinkLeads directory text reached := by
    by_cases absent : before.Absent path
    · obtain ⟨rfl, loopless⟩ := Replacement.targetOf_absent absent aim
      exact shadowed.leads_of_absent absent loopless aimed spot late
    · obtain ⟨former, resolved⟩ := Tree.exists_of_not_absent absent
      cases wellFormed.place_of_slot resolved aim beside aimed
      exact shadowed.leads_of_existing wellFormed spot closed resolved late other
  obtain ⟨destination, located, there⟩ := opens.exists_destination
  obtain ⟨budget, walked⟩ := Tree.walk_of_linked slot shadowed.linked spotted located
  have same := shadowed.reached_of_leads spot onward walked there
  obtain ⟨mode, written⟩ := shadowed.written (same ▸ other)
  rw [same, written] at found
  cases found
  rfl

end Shadowed

theorem ChangedAt.shadowed {written : Tree} {mode : Nat}
    (changed : ChangedAt before place (some (.file content mode)) written)
    (outside : before.isDirectory place = false)
    (plain : ∀ text, before.find? place ≠ some (.link text))
    (linked : before.find? hole = some (.link text)) (open_ : before.isDirectory goal = false)
    (apart : hole ≠ goal) :
    Shadowed before hole goal place text content (written.apply (.move hole goal)) := by
  have closed : before.isDirectory hole = false := by simp [Tree.isDirectory, linked]
  have below := Tree.ne_nil_of_outside closed
  have under := Tree.ne_nil_of_outside open_
  have other : hole ≠ place := by
    rintro rfl
    exact plain text linked
  have there : written.find? hole = some (.link text) := (changed.elsewhere hole other).trans linked
  have moved : written.apply (.move hole goal) = (written.erase hole).put goal (.link text) := by
    rw [Tree.apply, there]
  have kept (spot : Place) (off : spot ≠ hole) (past : spot ≠ goal) :
      (written.apply (.move hole goal)).find? spot = written.find? spot := by
    simp [moved, below, under, off.symm, past.symm]
  have arrived : (written.apply (.move hole goal)).find? goal = some (.link text) := by
    simp [moved, under]
  have gone : (written.apply (.move hole goal)).find? hole = none := by
    simp [moved, under, below, apart.symm]
  refine ⟨⟨?_, ?_, ?_⟩, linked, plain, gone, arrived, ?_⟩
  · rw [moved]
    exact changed.start
  · intro spot away
    simp only [List.mem_cons, List.not_mem_nil, or_false, not_or] at away
    rw [kept spot away.1 away.2.1]
    exact changed.elsewhere spot away.2.2
  · intro spot listed
    simp only [List.mem_cons, List.not_mem_nil, or_false] at listed
    rcases listed with rfl | rfl | rfl
    · exact ⟨closed, by simp [Tree.isDirectory, gone]⟩
    · exact ⟨open_, by simp [Tree.isDirectory, arrived]⟩
    · refine ⟨outside, ?_⟩
      by_cases same : spot = goal
      · simp [Tree.isDirectory, same, arrived]
      · simp [Tree.isDirectory, kept spot other.symm same, changed.there]
  · intro past
    exact ⟨mode, (kept place other.symm past).trans changed.there⟩

theorem Replacement.carryOut_shadowed {replacement : Replacement} (wellFormed : tree.WellFormed)
    (beside : Path.sibling? replacement.target temporarySuffix = some replacement.temporary)
    (slot : tree.slot replacement.temporary = .ok (hole, false))
    (linked : tree.find? hole = some (.link text))
    (ended : (replacement.carryOut tree).result = .ok ()) :
    ∃ goal place, tree.slot replacement.target = .ok (goal, false) ∧
      tree.isDirectory goal = false ∧ tree.OpensAt replacement.temporary place ∧
      Shadowed tree hole goal place text replacement.content
        (tree.applyAll (replacement.carryOut tree).changes) := by
  rcases Action.openFile_opened wellFormed replacement.temporary with ⟨fault, failed⟩ |
    ⟨place, entry, change, opened, unlinked⟩
  · have first : replacement.attempt tree = ⟨[], .error fault⟩ :=
      attempt_error (Action.bind_error _ failed)
    rw [carryOut_error first] at ended
    cases ended
  · obtain ⟨result, written, takes, changed, ⟨fault, failed, _⟩ |
        ⟨lasting, goal, aimed, shut, _, left⟩⟩ :=
      carryOut_opened opened fun bits written after takes changed =>
        opened.keeps takes unlinked slot linked changed
    · cases ended.symm.trans failed
    · obtain ⟨slotted, _, _⟩ := opened.keeps takes unlinked slot linked changed
      obtain ⟨above, name, names⟩ := Tree.names_of_slot aimed
      obtain ⟨_, _, _, _, _, directory, _, _, rfl⟩ := (Tree.slot_eq_ok_iff names).mp aimed
      have apart := Tree.slot_sibling_ne names beside slotted directory
      have still := changed.isDirectory_eq takes
      rw [(changed.alike opened.outside still).isDirectory] at shut
      have early := changed.slot_before takes opened.outside names aimed
      refine ⟨_, place, early, shut, opened.opensAt, ?_⟩
      rw [left, if_neg apart]
      cases takes with
      | device => exact (lasting rfl).elim
      | file => exact changed.shadowed opened.outside unlinked linked shut apart

/-- A successful replacement, if a link had the temporary file's name. -/
theorem Action.replaceFile_shadowed (wellFormed : tree.WellFormed)
    (linked : ¬ tree.TemporaryUnlinked path)
    (ended : (replaceFile path content tree).result = .ok ()) :
    ∃ target temporary hole goal place text, Replacement.targetOf tree path = .ok target ∧
      Path.sibling? target temporarySuffix = some temporary ∧
      tree.slot temporary = .ok (hole, false) ∧ tree.slot target = .ok (goal, false) ∧
      tree.isDirectory goal = false ∧ tree.OpensAt temporary place ∧
      Shadowed tree hole goal place text content
        (tree.applyAll (replaceFile path content tree).changes) := by
  cases planned : Replacement.plan path content tree with
  | error fault =>
    rw [replaceFile, ask_bind, planned] at ended
    cases ended
  | ok replacement =>
    obtain ⟨aim, beside, _, rfl⟩ := Replacement.plan_eq_ok planned
    rw [replaceFile_eq planned] at ended ⊢
    obtain ⟨hole, slot, text, found⟩ := Tree.linked_of_not_unlinked linked aim beside
    obtain ⟨goal, place, aimed, shut, opens, shadowed⟩ :=
      Replacement.carryOut_shadowed wellFormed beside slot found ended
    exact ⟨_, _, hole, goal, place, text, aim, beside, slot, aimed, shut, opens, shadowed⟩

/-- What a path reads as after a successful replacement is the new content, whatever stood under the
name of the temporary file. -/
theorem Action.replaceFile_content (wellFormed : tree.WellFormed) (content : Text.Bytes)
    (ended : (replaceFile path content tree).result = .ok ())
    (held : (tree.applyAll (replaceFile path content tree).changes).content? path = some bytes) :
    bytes = content := by
  obtain ⟨_, reached, mode, late, found⟩ := Tree.resolve_of_content held
  by_cases unlinked : tree.TemporaryUnlinked path
  · rcases replaceFile_goal wellFormed unlinked content with ⟨⟨fault, failed⟩, _⟩ |
      ⟨hole, goal, _, _, _, leads, replaced⟩
    · cases ended.symm.trans failed
    · cases late.symm.trans leads
      cases replaced.there.symm.trans found
      rfl
  · obtain ⟨_, _, _, _, _, _, aim, beside, slot, aimed, shut, opens, shadowed⟩ :=
      replaceFile_shadowed wellFormed unlinked ended
    exact shadowed.content_eq wellFormed aim beside slot aimed shut opens late found

end PropertyStore.Files
