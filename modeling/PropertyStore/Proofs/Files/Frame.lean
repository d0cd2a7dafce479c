import PropertyStore.Proofs.Files.Change

/-! What changes leave alone. A change is about one place or two: it neither touches another one
nor looks at it, so trees that differ elsewhere differ there still, and nowhere else. -/

namespace PropertyStore.Files

def Change.places : Change → List Place
  | .create place | .truncate place | .setMode place _ | .append place _ | .remove place => [place]
  | .move source target => [source, target]

variable {tree before middle after : Tree} {place : Place} {change : Change}
  {changes : List Change} {places : List Place}

namespace Tree

theorem find?_put_of_ne (tree : Tree) (entry : Entry) {spot other : Place} (apart : spot ≠ other) :
    (tree.put spot entry).find? other = tree.find? other := by
  by_cases root : other = []
  · subst root
    rfl
  · simp [find?, put, root, Std.ExtTreeMap.getElem?_insert, apart]

private theorem find?_erase_of_ne (tree : Tree) {spot other : Place} (apart : spot ≠ other) :
    (tree.erase spot).find? other = tree.find? other := by
  by_cases root : other = []
  · subst root
    rfl
  · simp [find?, erase, root, Std.ExtTreeMap.getElem?_erase, apart]

private theorem find?_revise_of_ne (tree : Tree) (revision : Entry → Entry) {spot other : Place}
    (apart : spot ≠ other) : (tree.revise spot revision).find? other = tree.find? other := by
  rw [revise]
  split
  · rfl
  · exact tree.find?_put_of_ne _ apart

private theorem workingDirectory_apply (tree : Tree) (change : Change) :
    (tree.apply change).workingDirectory = tree.workingDirectory := by
  have revised (spot : Place) (revision : Entry → Entry) :
      (tree.revise spot revision).workingDirectory = tree.workingDirectory := by
    rw [revise]
    split <;> rfl
  cases change with
  | create spot => rfl
  | truncate spot => exact revised spot _
  | setMode spot mode => exact revised spot _
  | append spot bytes => exact revised spot _
  | move source target =>
    rw [apply]
    split <;> rfl
  | remove spot => rfl

theorem find?_apply (tree : Tree) (away : place ∉ change.places) :
    (tree.apply change).find? place = tree.find? place := by
  cases change with
  | create spot => exact tree.find?_put_of_ne _ (by simpa [Change.places, eq_comm] using away)
  | truncate spot => exact tree.find?_revise_of_ne _ (by simpa [Change.places, eq_comm] using away)
  | setMode spot mode =>
    exact tree.find?_revise_of_ne _ (by simpa [Change.places, eq_comm] using away)
  | append spot bytes =>
    exact tree.find?_revise_of_ne _ (by simpa [Change.places, eq_comm] using away)
  | move source target =>
    simp only [Change.places, List.mem_cons, List.not_mem_nil, or_false, not_or] at away
    rw [apply]
    split
    · rfl
    · rw [find?_put_of_ne _ _ (Ne.symm away.2), find?_erase_of_ne _ (Ne.symm away.1)]
  | remove spot => exact tree.find?_erase_of_ne (by simpa [Change.places, eq_comm] using away)

section Congruence

variable {first second : Tree} {spot : Place} (here : first.find? place = second.find? place)

include here

private theorem find?_put_congr (spot : Place) (entry : Entry) :
    (first.put spot entry).find? place = (second.put spot entry).find? place := by
  by_cases root : spot = []
  · by_cases same : spot = place
    · rw [← same, root]
      rfl
    · rw [find?_put_of_ne _ _ same, find?_put_of_ne _ _ same, here]
  · rw [find?_put _ _ _ _ root, find?_put _ _ _ _ root, here]

private theorem find?_erase_congr (spot : Place) :
    (first.erase spot).find? place = (second.erase spot).find? place := by
  by_cases root : spot = []
  · by_cases same : spot = place
    · rw [← same, root]
      rfl
    · rw [find?_erase_of_ne _ same, find?_erase_of_ne _ same, here]
  · rw [find?_erase _ _ _ root, find?_erase _ _ _ root, here]

private theorem find?_revise_congr (there : first.find? spot = second.find? spot)
    (revision : Entry → Entry) :
    (first.revise spot revision).find? place = (second.revise spot revision).find? place := by
  rw [revise, revise, there]
  cases second.find? spot with
  | none => exact here
  | some entry => exact find?_put_congr here spot _

private theorem find?_apply_congr
    (there : ∀ spot ∈ change.places, first.find? spot = second.find? spot) :
    (first.apply change).find? place = (second.apply change).find? place := by
  cases change with
  | create spot => exact find?_put_congr here spot _
  | truncate spot => exact find?_revise_congr here (there spot List.mem_cons_self) _
  | setMode spot mode => exact find?_revise_congr here (there spot List.mem_cons_self) _
  | append spot bytes => exact find?_revise_congr here (there spot List.mem_cons_self) _
  | move source target =>
    rw [apply, apply, there source List.mem_cons_self]
    cases second.find? source with
    | none => exact here
    | some entry => exact find?_put_congr (find?_erase_congr here source) target _
  | remove spot => exact find?_erase_congr here spot

end Congruence

end Tree

namespace AlikeBut

theorem trans (first : AlikeBut places before middle) (second : AlikeBut places middle after) :
    AlikeBut places before after where
  start := second.start.trans first.start
  same place away := (second.same place away).trans (first.same place away)
  closed place listed := ⟨(first.closed place listed).1, (second.closed place listed).2⟩

/-- Trees that differ at a few places differ there alone after a change elsewhere. -/
theorem apply (alike : AlikeBut places before after)
    (elsewhere : ∀ place ∈ change.places, place ∉ places) :
    AlikeBut places (before.apply change) (after.apply change) where
  start := by rw [Tree.workingDirectory_apply, Tree.workingDirectory_apply, alike.start]
  same place away :=
    Tree.find?_apply_congr (alike.same place away) fun spot about =>
      alike.same spot (elsewhere spot about)
  closed place listed := by
    have away : place ∉ change.places := fun about => elsewhere place about listed
    rw [Tree.isDirectory, Tree.isDirectory, Tree.find?_apply _ away, Tree.find?_apply _ away]
    exact alike.closed place listed

end AlikeBut

end PropertyStore.Files
