import PropertyStore.Proofs.Files.Goal

/-! Trees to which files were added. A path leads where it led before, unless it ends at a new
file's name, or fails because it goes on behind that name. So a save to a path has its temporary
file where it would have had it before. -/

namespace PropertyStore.Files

variable {tree before after : Tree} {places : List Place} {place hole : Place}
  {path target : String}

/-- Places that a save to a path has nothing to do with: none of them is a free one that the path
leads to, and none is that of the temporary file. -/
structure Tree.Apart (tree : Tree) (path : String) (places : List Place) : Prop where
  target : ∀ place ∈ places, tree.resolve .find path ≠ .ok (.free place)
  aside : ∀ place ∈ places, ¬ tree.TemporaryPlace path place

/-- At a few places of a tree, none of them a directory's or a link's, files stand that may be new
or have changed. All of them have a name in a directory. -/
structure Grown (places : List Place) (before after : Tree) : Prop where
  alike : AlikeBut places before after
  stands : ∀ place ∈ places, after.Solid place
  unlinked : ∀ place ∈ places, ∀ text, before.find? place ≠ some (.link text)
  rooted : ∀ directory name, directory ++ [name] ∈ places →
    before.isDirectory directory ∧ IsName name

namespace Tree

private theorem walk_closed (closed : tree.isDirectory place = false) (purpose : Purpose)
    (budget : Nat)
    (segments : List String) :
    tree.walk purpose budget place segments =
      if segments = [] then .ok (.existing place) else .error .notDirectory := by
  cases segments with
  | nil => rw [walk_nil, if_pos rfl]
  | cons segment rest =>
    rw [walk_cons, closed]
    rfl

private theorem rooted_of_walk {purpose : Purpose} (budget : Nat) (start : Place)
    (segments : List String)
    (plain : ∀ segment ∈ segments, '/' ∉ segment.toList)
    (walked : tree.walk purpose budget start segments = .ok (.free place)) :
    ∃ directory name, place = directory ++ [name] ∧ tree.isDirectory directory ∧ IsName name := by
  match segments with
  | [] =>
    rw [walk_nil] at walked
    cases walked
  | segment :: more =>
    have further : ∀ segment ∈ more, '/' ∉ segment.toList :=
      fun other member => plain other (List.mem_cons_of_mem _ member)
    obtain ⟨inside, ⟨_, later⟩ | ⟨_, later⟩ | ⟨step, stepped⟩⟩ := walk_cons_eq_ok walked
    · exact rooted_of_walk budget start more further later
    · exact rooted_of_walk budget start.dropLast more further later
    · rcases stepped with ⟨_, _, same⟩ | ⟨text, less, _, rfl, later⟩ | ⟨_, _, _, later⟩
      · cases same
        exact ⟨start, segment, rfl, inside, step, plain segment List.mem_cons_self⟩
      · apply rooted_of_walk less _ _ _ later
        intro other member
        rcases List.mem_append.mp member with linked | behind
        · exact Path.not_mem_segment linked
        · exact further other behind
      · exact rooted_of_walk budget _ more further later
termination_by (budget, segments.length)

theorem rooted_of_locate {purpose : Purpose}
    (located : tree.locate purpose path = .ok (.free place)) :
    ∃ directory name, place = directory ++ [name] ∧ tree.isDirectory directory ∧ IsName name :=
  rooted_of_walk linkLimit _ _ (fun _ => Path.not_mem_segment) (walk_of_locate located)

end Tree

namespace Grown

variable (grown : Grown places before after)

include grown

theorem wellFormed (wellFormed : before.WellFormed) : after.WellFormed :=
  grown.alike.wellFormed wellFormed fun directory name listed =>
    .inr (grown.rooted directory name listed)

/-- A walk that comes to one of the files ends there, or goes on behind it in vain. -/
theorem walk_listed {segment : String} (listed : place ++ [segment] ∈ places)
    (inside : before.isDirectory place) (step : IsStep segment) (budget : Nat)
    (rest : List String) :
    after.walk .find budget place (segment :: rest) =
        before.walk .find budget place (segment :: rest) ∨
      (∃ spot ∈ places, after.walk .find budget place (segment :: rest) = .ok (.existing spot) ∧
        before.walk .find budget place (segment :: rest) = .ok (.free spot)) ∨
      after.walk .find budget place (segment :: rest) = .error .notDirectory := by
  obtain ⟨entry, found, plain⟩ := grown.stands _ listed
  obtain ⟨closed, still⟩ := grown.alike.closed _ listed
  have within : after.isDirectory place := by rwa [grown.alike.isDirectory]
  rw [Tree.walk_entry within step rfl found plain, Tree.walk_closed still]
  by_cases last : rest = []
  · subst last
    rw [if_pos rfl]
    cases earlier : before.find? (place ++ [segment]) with
    | none =>
      rw [Tree.walk_step inside step rfl, earlier]
      exact .inr (.inl ⟨_, listed, rfl, rfl⟩)
    | some former =>
      obtain ⟨_, also, unlinked⟩ := Tree.solid_of_not_link earlier (grown.unlinked _ listed)
      cases earlier.symm.trans also
      rw [Tree.walk_entry inside step rfl earlier unlinked, Tree.walk_closed closed, if_pos rfl]
      exact .inl rfl
  · rw [if_neg last]
    exact .inr (.inr rfl)

/-- A walk goes as it went before, or it ends at one of the files, whose name was free, or it fails
because one of them is no directory. -/
theorem walk (budget : Nat) (place : Place) (segments : List String) :
    after.walk .find budget place segments = before.walk .find budget place segments ∨
      (∃ spot ∈ places, after.walk .find budget place segments = .ok (.existing spot) ∧
        before.walk .find budget place segments = .ok (.free spot)) ∨
      after.walk .find budget place segments = .error .notDirectory := by
  match segments with
  | [] => exact .inl (by rw [Tree.walk_nil, Tree.walk_nil])
  | segment :: rest =>
    by_cases listed : place ++ [segment] ∈ places ∧ before.isDirectory place ∧ IsStep segment
    · exact grown.walk_listed listed.1 listed.2.1 listed.2.2 budget rest
    · rw [Tree.walk_cons, Tree.walk_cons, grown.alike.isDirectory]
      split
      · exact .inl rfl
      rename_i inside
      split
      · exact walk budget place rest
      rename_i moves
      split
      · exact walk budget place.dropLast rest
      rename_i down
      split
      · exact .inl rfl
      split
      · exact .inl rfl
      rename_i short
      have away : place ++ [segment] ∉ places := fun member => listed
        ⟨member, by simpa using inside, ⟨by simpa using moves, down, Nat.not_lt.mp short⟩⟩
      rw [grown.alike.same _ away]
      cases before.find? (place ++ [segment]) with
      | none => exact .inl rfl
      | some entry =>
        cases entry with
        | link text =>
          cases budget with
          | zero => exact .inl rfl
          | succ less => exact walk less _ _
        | _ => exact walk budget _ rest
termination_by (budget, segments.length)

private theorem resolve (path : String) :
    after.resolve .find path = before.resolve .find path ∨
      (∃ spot ∈ places, after.resolve .find path = .ok (.existing spot) ∧
        before.resolve .find path = .ok (.free spot)) ∨
      after.resolve .find path = .error .notDirectory := by
  rw [Tree.resolve, Tree.resolve, grown.alike.origin]
  split
  · exact .inl rfl
  split
  · exact .inl rfl
  exact grown.walk linkLimit _ _

private theorem targetOf (apart : before.Apart path places)
    (aim : Replacement.targetOf after path = .ok target) :
    Replacement.targetOf before path = .ok target := by
  rcases grown.resolve path with same | ⟨spot, listed, _, free⟩ | failed
  · rwa [Replacement.targetOf, Tree.canonical, ← same]
  · exact (apart.target spot listed free).elim
  · rw [Replacement.targetOf, Tree.canonical, failed] at aim
    cases aim

theorem temporaryPlace (apart : before.Apart path places)
    (aside : after.TemporaryPlace path hole) : before.TemporaryPlace path hole := by
  obtain ⟨target, temporary, slashed, aim, beside, slot⟩ := aside
  refine ⟨target, temporary, slashed, grown.targetOf apart aim, beside, ?_⟩
  obtain ⟨way, name, names⟩ := Path.names_of_sibling? beside
  obtain ⟨_, _, rfl, _⟩ := (Tree.slot_eq_ok_iff names).mp slot
  apply grown.alike.symm.slot names _ slot
  intro spot listed directory inside _
  exact blocked_of_directory (grown.alike.closed spot listed).2
    (grown.stands spot listed).not_link inside

theorem temporaryFree (apart : before.Apart path places) (free : before.TemporaryFree path) :
    after.TemporaryFree path := by
  intro hole spot
  have earlier := grown.temporaryPlace apart spot
  rw [grown.alike.same hole fun listed => apart.aside hole listed earlier]
  exact free hole earlier

end Grown

end PropertyStore.Files
