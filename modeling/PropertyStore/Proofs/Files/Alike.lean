import PropertyStore.Proofs.Files.Slot

namespace PropertyStore.Files

/-- Two trees that differ only at `places`, where neither has a directory. -/
structure AlikeBut (places : List Place) (before after : Tree) : Prop where
  start : after.workingDirectory = before.workingDirectory
  same : ∀ place, place ∉ places → after.find? place = before.find? place
  closed : ∀ place ∈ places, before.isDirectory place = false ∧ after.isDirectory place = false

/-- No way to `goal` steps down to `place`. -/
def Blocked (tree : Tree) (place goal : Place) : Prop :=
  ∀ directory name links rest, IsStep name → directory ++ [name] = place →
    ¬ Leads tree links directory (name :: rest) goal

variable {tree before after : Tree} {places : List Place} {place goal : Place}

/-- No way goes on behind what is neither directory nor link. -/
theorem blocked_of_end (closed : tree.isDirectory place = false)
    (unlinked : ∀ target, tree.find? place ≠ some (.link target)) (other : goal ≠ place) :
    Blocked tree place goal := by
  intro directory name links rest step same leads
  subst same
  rcases leads.down step with ⟨_, _, _, onward⟩ | ⟨target, _, found, _⟩
  · exact other (onward.ends closed).2
  · exact unlinked target found

theorem blocked_of_directory (closed : tree.isDirectory place = false)
    (unlinked : ∀ target, tree.find? place ≠ some (.link target)) (inside : tree.isDirectory goal) :
    Blocked tree place goal := by
  apply blocked_of_end closed unlinked
  intro same
  simp [same, closed] at inside

theorem blocked_of_nowhere {directory : Place}
    (nowhere : ∀ links reached, ¬ Leads tree links directory [name] reached) :
    Blocked tree (directory ++ [name]) goal := by
  intro other segment links rest _ same leads
  obtain ⟨rfl, rfl⟩ : other = directory ∧ segment = name := by
    simpa using List.append_inj' same rfl
  have onward : Leads tree links other ([segment] ++ rest) goal := leads
  obtain ⟨early, _, middle, reached, _⟩ := onward.split
  exact nowhere early middle reached

namespace AlikeBut

theorem isDirectory (alike : AlikeBut places before after) (place : Place) :
    after.isDirectory place = before.isDirectory place := by
  by_cases listed : place ∈ places
  · rw [(alike.closed place listed).1, (alike.closed place listed).2]
  · rw [Tree.isDirectory, Tree.isDirectory, alike.same place listed]

theorem refl (closed : ∀ place ∈ places, before.isDirectory place = false) :
    AlikeBut places before before where
  start := rfl
  same _ _ := rfl
  closed place listed := ⟨closed place listed, closed place listed⟩

theorem symm (alike : AlikeBut places before after) : AlikeBut places after before where
  start := alike.start.symm
  same place other := (alike.same place other).symm
  closed place listed := (alike.closed place listed).symm

theorem origin (alike : AlikeBut places before after) (path : String) :
    after.origin path = before.origin path := by
  rw [Tree.origin, Tree.origin, alike.start]

theorem leads (alike : AlikeBut places before after)
    (past : ∀ place ∈ places, Blocked before place goal)
    (leads : Leads before links place segments goal) : Leads after links place segments goal := by
  apply leads.transfer
  · intro place inside
    rwa [alike.isDirectory]
  · intro links place segment rest entry step onward found
    have other : place ++ [segment] ∉ places :=
      fun listed => past _ listed place segment links rest step rfl onward
    exact ⟨entry, (alike.same _ other).trans found, rfl⟩

/-- A path that ends in a name stands for the same place in both trees if the way to the
directory leads past the differences. -/
theorem slot (alike : AlikeBut places before after) (names : Path.Names path above name [])
    (past : ∀ hole ∈ places, ∀ directory, before.isDirectory directory →
      place = directory ++ [name] → Blocked before hole directory)
    (found : before.slot path = .ok (place, false)) : after.slot path = .ok (place, false) := by
  obtain ⟨usable, short, _, links, covered, directory, leads, inside, same⟩ :=
    (Tree.slot_eq_ok_iff names).mp found
  refine (Tree.slot_eq_ok_iff names).mpr ⟨usable, short, rfl, links, covered, directory, ?_, ?_, same⟩
  · rw [alike.origin]
    exact alike.leads (fun hole listed => past hole listed directory inside same) leads
  · rwa [alike.isDirectory]

theorem slot_past (alike : AlikeBut [hole] before after)
    (unlinked : ∀ target, before.find? hole ≠ some (.link target))
    (names : Path.Names path above name []) (found : before.slot path = .ok (place, false)) :
    after.slot path = .ok (place, false) := by
  apply alike.slot names _ found
  intro other listed directory inside _
  rw [List.mem_singleton.mp listed]
  exact blocked_of_directory (alike.closed hole (List.mem_singleton_self _)).1 unlinked inside

end AlikeBut

end PropertyStore.Files
