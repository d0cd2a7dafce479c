import PropertyStore.Proofs.Files.Progress
import PropertyStore.Proofs.Files.Shadowed

/-! The last thing that a replacement does is to give the temporary file's name to the file it is
about, and it does that if and only if it succeeds. This holds whatever stood under the temporary
file's name. -/

namespace PropertyStore.Files

variable {tree : Tree} {path target temporary : String} {hole goal place : Place}
  {content : Text.Bytes}

/-- Changes that end with the content being written through the name of the temporary file of a save
to a path, and what has that name, be it a link, being moved to the goal. -/
inductive Placed (tree : Tree) (path : String) (content : Text.Bytes) : List Change → Prop where
  | intro (early : List Change) {target temporary : String} {hole goal place : Place}
      (aim : Replacement.targetOf tree path = .ok target)
      (beside : Path.sibling? target temporarySuffix = some temporary)
      (slot : tree.slot temporary = .ok (hole, false)) (opens : tree.OpensAt temporary place)
      (aimed : tree.Goal path goal) :
      Placed tree path content (early ++ [.append place content, .move hole goal])

theorem not_placed_of_last {changes : List Change}
    (last : ∀ source goal, changes.getLast? ≠ some (.move source goal)) :
    ¬ Placed tree path content changes := by
  intro placed
  cases placed with
  | @intro early _ _ hole goal => exact last hole goal (by simp)

theorem Action.removeFile_changes (path : String) (tree : Tree) :
    (removeFile path tree).changes = [] ∨
      ∃ place, (removeFile path tree).changes = [.remove place] := by
  cases slot : tree.slot path with
  | error fault => exact .inl (by rw [removeFile_error slot])
  | ok result =>
    obtain ⟨place, slashed⟩ := result
    cases found : tree.find? place with
    | none => exact .inl (by simp [removeFile, slot, found])
    | some entry =>
      cases entry with
      | directory mode => exact .inl (by simp [removeFile, slot, found])
      | _ => cases slashed <;> simp [removeFile, slot, found]

/-- Opening a path anew fails, or it leaves something empty that can be written without moving the
path's last name. That name is what was opened, or that of a link to it. -/
theorem Action.openFile_keeps (wellFormed : tree.WellFormed) (names : Path.Names path above name [])
    (content : Text.Bytes) :
    (∃ fault, openFile path true tree = ⟨[], .error fault⟩) ∨
      ∃ place entry change hole, Opened tree path place entry change ∧
        tree.slot path = .ok (hole, false) ∧
        ∀ bits written after, Entry.Takes content bits written →
          ChangedAt tree place (some written) after →
          after.slot path = .ok (hole, false) ∧ after.isDirectory hole = false ∧
            ∃ there, after.find? hole = some there := by
  by_cases clear : tree.Unlinked path
  · rcases openFile_cases names clear with ⟨fault, failed, _⟩ | ⟨place, entry, change, slot, opened⟩
    · exact .inl ⟨fault, failed⟩
    · refine .inr ⟨place, entry, change, place, opened, slot, ?_⟩
      intro bits written after takes changed
      have still := changed.isDirectory_eq takes
      exact ⟨clear.slot_changed names slot opened.outside changed still, still, written,
        changed.there⟩
  · simp only [Tree.Unlinked, not_forall, not_not] at clear
    obtain ⟨hole, slashed, slot, text, linked⟩ := clear
    obtain ⟨_, _, rfl, _⟩ := (Tree.slot_eq_ok_iff names).mp slot
    rcases openFile_opened wellFormed path with failed | ⟨place, entry, change, opened, unlinked⟩
    · exact .inl failed
    · exact .inr ⟨place, entry, change, hole, opened, slot, fun _ _ _ takes changed =>
        opened.keeps takes unlinked slot linked changed⟩

namespace Replacement

variable {replacement : Replacement}

private theorem carryOut_last (wellFormed : tree.WellFormed)
    (beside : Path.sibling? replacement.target temporarySuffix = some replacement.temporary) :
    (∃ fault, (replacement.carryOut tree).result = .error fault ∧
        ∀ source goal, (replacement.carryOut tree).changes.getLast? ≠ some (.move source goal)) ∨
      ∃ early place hole goal, tree.slot replacement.temporary = .ok (hole, false) ∧
        tree.OpensAt replacement.temporary place ∧ tree.slot replacement.target = .ok (goal, false) ∧
        replacement.carryOut tree =
          ⟨early ++ [.append place replacement.content, .move hole goal], .ok ()⟩ := by
  obtain ⟨way, name, names⟩ := Path.names_of_sibling? beside
  rcases Action.openFile_keeps wellFormed names replacement.content with ⟨fault, failed⟩ |
    ⟨place, entry, change, hole, opened, slot, kept⟩
  · have first : replacement.attempt tree = ⟨[], .error fault⟩ :=
      attempt_error (Action.bind_error _ failed)
    refine .inl ⟨fault, by rw [carryOut_error first], ?_⟩
    intro source goal
    rw [carryOut_error first, List.nil_append]
    change (Action.removeFile replacement.temporary tree).changes.getLast? ≠ _
    rcases Action.removeFile_changes replacement.temporary tree with none | ⟨removed, only⟩
    · simp [none]
    · simp [only]
  · obtain ⟨written, takes, changed, ⟨fault, undone⟩ | ⟨_, goal, aimed, _, moved⟩⟩ :=
      carryOut_changes opened kept
    · exact .inl ⟨fault, by rw [undone], by simp [undone]⟩
    · obtain ⟨above, last, ends⟩ := Tree.names_of_slot aimed
      have early := changed.slot_before takes opened.outside ends aimed
      obtain ⟨_, _, _, _, _, directory, _, _, rfl⟩ := (Tree.slot_eq_ok_iff ends).mp early
      have apart := Tree.slot_sibling_ne ends beside slot directory
      rw [if_neg apart, writeTemporary_changes opened] at moved
      refine .inr ⟨change :: replacement.marks place, place, hole, _, slot, opened.opensAt, early, ?_⟩
      rw [moved]
      simp

end Replacement

/-- A replacement succeeds if and only if its last changes are of that kind. -/
theorem Action.replaceFile_placed_iff (wellFormed : tree.WellFormed) (path : String)
    (content : Text.Bytes) :
    let deed := replaceFile path content tree
    deed.result = .ok () ↔ Placed tree path content deed.changes := by
  intro deed
  cases planned : Replacement.plan path content tree with
  | error fault =>
    have failed : deed = ⟨[], .error fault⟩ := by
      simp only [deed, replaceFile, ask_bind, planned]
    rw [failed]
    exact iff_of_false (by simp) (not_placed_of_last (by simp))
  | ok replacement =>
    obtain ⟨aim, beside, _, rfl⟩ := Replacement.plan_eq_ok planned
    have carried : deed = replacement.carryOut tree := replaceFile_eq planned
    rw [carried]
    rcases Replacement.carryOut_last wellFormed beside with ⟨fault, failed, last⟩ |
      ⟨early, place, hole, goal, slot, opens, aimed, done⟩
    · exact iff_of_false (by simp [failed]) (not_placed_of_last last)
    · rw [done]
      have target := wellFormed.goal_of_slot aim beside aimed
      exact iff_of_true rfl (.intro early aim beside slot opens target)

end PropertyStore.Files
