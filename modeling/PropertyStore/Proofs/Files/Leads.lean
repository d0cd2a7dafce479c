import PropertyStore.Files.Walk

/-! Walks as a relation. `Leads` says that a path leads to a place and how many links are
followed on the way, with no budget for them; a walk finds that place if and only if its
budget covers the links. -/

namespace PropertyStore.Files

def Entry.link? : Entry → Option String
  | .link target => some target
  | _ => none

/-- A segment that a walk looks up in the directory where it is. -/
structure IsStep (segment : String) : Prop where
  moves : Path.isIdle segment = false
  down : segment ≠ ".."
  short : segment.utf8ByteSize ≤ nameLimit

/-- From a place the segments lead to `goal`, and `links` links are followed on the way. -/
inductive Leads (tree : Tree) : Nat → Place → List String → Place → Prop where
  | here : Leads tree 0 place [] place
  | idle {segment : String} (inside : tree.isDirectory place) (idle : Path.isIdle segment)
      (onward : Leads tree links place rest goal) : Leads tree links place (segment :: rest) goal
  | up (inside : tree.isDirectory place)
      (onward : Leads tree links place.dropLast rest goal) :
      Leads tree links place (".." :: rest) goal
  | entry {segment : String} (inside : tree.isDirectory place) (step : IsStep segment)
      (found : tree.find? (place ++ [segment]) = some entry) (plain : entry.link? = none)
      (onward : Leads tree links (place ++ [segment]) rest goal) :
      Leads tree links place (segment :: rest) goal
  | link {segment : String} (inside : tree.isDirectory place) (step : IsStep segment)
      (found : tree.find? (place ++ [segment]) = some (.link target))
      (onward : Leads tree links (if Path.isAbsolute target then [] else place)
        (Path.segments target ++ rest) goal) :
      Leads tree (links + 1) place (segment :: rest) goal

variable {tree : Tree} {purpose : Purpose} {place goal : Place} {segments rest : List String}
  {segment : String} {budget : Nat}

theorem isIdle_parent : Path.isIdle ".." = false := by
  decide

theorem Entry.link?_eq_some (entry : Entry) (target : String) :
    entry.link? = some target ↔ entry = .link target := by
  cases entry <;> simp [Entry.link?]

/-- Whether a name before `rest` is one that a walk to create refuses. -/
def isRefused (purpose : Purpose) (rest : List String) : Bool :=
  purpose = .create && rest.all (· = "") && !rest.isEmpty

private theorem isRefused_append (onward : purpose = .find ∨ ∃ segment ∈ rest, segment ≠ "")
    (segments : List String) : isRefused purpose (segments ++ rest) = false := by
  rcases onward with rfl | ⟨segment, member, named⟩
  · rfl
  · have unlike : (segments ++ rest).all (· = "") = false := by
      rw [List.all_eq_false]
      exact ⟨segment, List.mem_append_right _ member, by simpa using named⟩
    simp [isRefused, unlike]

namespace Tree

theorem walk_nil (budget : Nat) : tree.walk purpose budget place [] = .ok (.existing place) := by
  cases budget <;> rfl

theorem walk_cons (segment : String) (rest : List String) :
    tree.walk purpose budget place (segment :: rest) =
      if !tree.isDirectory place then .error .notDirectory
      else if Path.isIdle segment then tree.walk purpose budget place rest
      else if segment = ".." then tree.walk purpose budget place.dropLast rest
      else if isRefused purpose rest then .error .isDirectory
      else if nameLimit < segment.utf8ByteSize then .error .nameTooLong
      else match tree.find? (place ++ [segment]) with
        | none =>
          if rest.all (· = "") then .ok (.free (place ++ [segment])) else .error .notFound
        | some (.link target) =>
          match budget with
          | 0 => .error .linkLoop
          | less + 1 =>
            tree.walk purpose less (if Path.isAbsolute target then [] else place)
              (Path.segments target ++ rest)
        | some _ => tree.walk purpose budget (place ++ [segment]) rest := by
  cases budget <;> rfl

theorem walk_step (inside : tree.isDirectory place) (step : IsStep segment)
    (passes : isRefused purpose rest = false) :
    tree.walk purpose budget place (segment :: rest) =
      match tree.find? (place ++ [segment]) with
        | none =>
          if rest.all (· = "") then .ok (.free (place ++ [segment])) else .error .notFound
        | some (.link target) =>
          match budget with
          | 0 => .error .linkLoop
          | less + 1 =>
            tree.walk purpose less (if Path.isAbsolute target then [] else place)
              (Path.segments target ++ rest)
        | some _ => tree.walk purpose budget (place ++ [segment]) rest := by
  have short : ¬ nameLimit < segment.utf8ByteSize := Nat.not_lt.mpr step.short
  rw [walk_cons]
  simp only [inside, step.moves, step.down, passes, short, Bool.not_true, Bool.false_eq_true,
    if_false]

theorem walk_entry (inside : tree.isDirectory place) (step : IsStep segment)
    (passes : isRefused purpose rest = false)
    (found : tree.find? (place ++ [segment]) = some entry) (plain : entry.link? = none) :
    tree.walk purpose budget place (segment :: rest) =
      tree.walk purpose budget (place ++ [segment]) rest := by
  rw [walk_step inside step passes, found]
  cases entry with
  | link target => simp [Entry.link?] at plain
  | _ => rfl

private theorem isStep_of_walk {destination : Destination} (inside : tree.isDirectory place)
    (moves : Path.isIdle segment = false) (down : segment ≠ "..")
    (walked : tree.walk purpose budget place (segment :: rest) = .ok destination) :
    IsStep segment ∧ isRefused purpose rest = false := by
  have passes : isRefused purpose rest = false := by
    cases refused : isRefused purpose rest with
    | false => rfl
    | true => simp [walk_cons, inside, moves, down, refused] at walked
  have short : segment.utf8ByteSize ≤ nameLimit := by
    by_cases long : nameLimit < segment.utf8ByteSize
    · simp [walk_cons, inside, moves, down, passes, long] at walked
    · exact Nat.not_lt.mp long
  exact ⟨⟨moves, down, short⟩, passes⟩

theorem walk_step_eq_ok {destination : Destination} (inside : tree.isDirectory place)
    (step : IsStep segment) (passes : isRefused purpose rest = false)
    (walked : tree.walk purpose budget place (segment :: rest) = .ok destination) :
    (tree.find? (place ++ [segment]) = none ∧ rest.all (· = "") ∧
        destination = .free (place ++ [segment])) ∨
      (∃ target less, tree.find? (place ++ [segment]) = some (.link target) ∧
        budget = less + 1 ∧
        tree.walk purpose less (if Path.isAbsolute target then [] else place)
          (Path.segments target ++ rest) = .ok destination) ∨
      (∃ entry, tree.find? (place ++ [segment]) = some entry ∧ entry.link? = none ∧
        tree.walk purpose budget (place ++ [segment]) rest = .ok destination) := by
  rw [walk_step inside step passes] at walked
  split at walked
  · rename_i free
    split at walked
    · rename_i last
      cases walked
      exact .inl ⟨free, last, rfl⟩
    · cases walked
  · rename_i target found
    cases budget with
    | zero => cases walked
    | succ less => exact .inr (.inl ⟨target, less, found, rfl, walked⟩)
  · rename_i entry other found
    refine .inr (.inr ⟨entry, found, ?_, walked⟩)
    cases entry with
    | link target => exact (other target rfl).elim
    | _ => rfl

theorem walk_cons_eq_ok {destination : Destination}
    (walked : tree.walk purpose budget place (segment :: rest) = .ok destination) :
    tree.isDirectory place ∧
      ((Path.isIdle segment ∧ tree.walk purpose budget place rest = .ok destination) ∨
        (segment = ".." ∧ tree.walk purpose budget place.dropLast rest = .ok destination) ∨
        (IsStep segment ∧
          ((tree.find? (place ++ [segment]) = none ∧ rest.all (· = "") ∧
              destination = .free (place ++ [segment])) ∨
            (∃ target less, tree.find? (place ++ [segment]) = some (.link target) ∧
              budget = less + 1 ∧
              tree.walk purpose less (if Path.isAbsolute target then [] else place)
                (Path.segments target ++ rest) = .ok destination) ∨
            (∃ entry, tree.find? (place ++ [segment]) = some entry ∧ entry.link? = none ∧
              tree.walk purpose budget (place ++ [segment]) rest = .ok destination)))) := by
  by_cases inside : tree.isDirectory place
  · refine ⟨inside, ?_⟩
    by_cases idle : Path.isIdle segment
    · rw [walk_cons] at walked
      simp only [inside, idle, Bool.not_true, Bool.false_eq_true, if_false, if_true] at walked
      exact .inl ⟨idle, walked⟩
    · by_cases up : segment = ".."
      · subst up
        rw [walk_cons] at walked
        simp only [inside, isIdle_parent, Bool.not_true, Bool.false_eq_true, if_false,
          if_true] at walked
        exact .inr (.inl ⟨rfl, walked⟩)
      · obtain ⟨step, passes⟩ := isStep_of_walk inside (Bool.eq_false_iff.mpr idle) up walked
        exact .inr (.inr ⟨step, walk_step_eq_ok inside step passes walked⟩)
  · simp [walk_cons, inside] at walked

end Tree

/-- A walk that has come to the goal goes on from there with the budget that is left. What
comes behind must not make a step on the way a last name that is refused. -/
theorem Leads.walk_append (leads : Leads tree links place segments goal)
    (onward : purpose = .find ∨ ∃ segment ∈ rest, segment ≠ "") (budget : Nat) :
    tree.walk purpose budget place (segments ++ rest) =
      if links ≤ budget then tree.walk purpose (budget - links) goal rest
      else .error .linkLoop := by
  induction leads generalizing budget with
  | here => simp
  | idle inside idle _ ih =>
    rw [List.cons_append, Tree.walk_cons]
    simp only [inside, idle, Bool.not_true, Bool.false_eq_true, if_false, if_true, ih]
  | up inside _ ih =>
    rw [List.cons_append, Tree.walk_cons]
    simp only [inside, isIdle_parent, Bool.not_true, Bool.false_eq_true, if_false, if_true, ih]
  | entry inside step found plain _ ih =>
    rw [List.cons_append,
      Tree.walk_entry inside step (isRefused_append onward _) found plain, ih]
  | link inside step found _ ih =>
    rw [List.cons_append, Tree.walk_step inside step (isRefused_append onward _), found]
    cases budget with
    | zero => simp
    | succ less =>
      have further := ih less
      rw [List.append_assoc] at further
      simp only [further, Nat.add_le_add_iff_right, Nat.add_sub_add_right]

/-- A walk that ends well comes to a place behind every front part of its path, unless it
ends at a free name in that part. -/
theorem leads_of_walk {destination : Destination}
    (onward : (∃ goal, destination = .existing goal) ∨ ∃ segment ∈ rest, segment ≠ "")
    (budget : Nat) (place : Place) (segments : List String)
    (walked : tree.walk purpose budget place (segments ++ rest) = .ok destination) :
    ∃ links ≤ budget, ∃ goal, Leads tree links place segments goal ∧
      tree.walk purpose (budget - links) goal rest = .ok destination := by
  match segments with
  | [] => exact ⟨0, Nat.zero_le _, place, .here, walked⟩
  | segment :: more =>
    rw [List.cons_append] at walked
    obtain ⟨inside, ⟨idle, later⟩ | ⟨rfl, later⟩ | ⟨step, stepped⟩⟩ :=
      Tree.walk_cons_eq_ok walked
    · obtain ⟨links, covered, goal, leads, further⟩ :=
        leads_of_walk onward budget place more later
      exact ⟨links, covered, goal, .idle inside idle leads, further⟩
    · obtain ⟨links, covered, goal, leads, further⟩ :=
        leads_of_walk onward budget place.dropLast more later
      exact ⟨links, covered, goal, .up inside leads, further⟩
    · rcases stepped with ⟨_, last, rfl⟩ | ⟨target, less, found, rfl, later⟩ |
        ⟨entry, found, plain, later⟩
      · obtain ⟨real, member, named⟩ : ∃ segment ∈ rest, segment ≠ "" := by
          simpa using onward
        rw [List.all_eq_true] at last
        exact absurd (by simpa using last real (List.mem_append_right _ member)) named
      · rw [← List.append_assoc] at later
        obtain ⟨links, covered, goal, leads, further⟩ := leads_of_walk onward less _ _ later
        refine ⟨links + 1, Nat.succ_le_succ covered, goal, .link inside step found leads, ?_⟩
        rwa [Nat.add_sub_add_right]
      · obtain ⟨links, covered, goal, leads, further⟩ := leads_of_walk onward budget _ _ later
        exact ⟨links, covered, goal, .entry inside step found plain leads, further⟩
termination_by (budget, segments.length)

theorem Tree.free_of_walk (budget : Nat) (place : Place) (segments : List String)
    (walked : tree.walk purpose budget place segments = .ok (.free goal)) :
    tree.find? goal = none := by
  match segments with
  | [] =>
    rw [walk_nil] at walked
    cases walked
  | segment :: more =>
    obtain ⟨_, ⟨_, later⟩ | ⟨_, later⟩ | ⟨_, stepped⟩⟩ := walk_cons_eq_ok walked
    · exact free_of_walk budget place more later
    · exact free_of_walk budget place.dropLast more later
    · rcases stepped with ⟨free, _, same⟩ | ⟨target, less, _, rfl, later⟩ | ⟨_, _, _, later⟩
      · cases same
        exact free
      · exact free_of_walk less _ _ later
      · exact free_of_walk budget _ more later
termination_by (budget, segments.length)

/-- A walk to create a file goes where a walk to find it goes, if it gets there. -/
theorem Tree.walk_find_of_create {destination : Destination} (budget : Nat) (place : Place)
    (segments : List String)
    (walked : tree.walk .create budget place segments = .ok destination) :
    tree.walk .find budget place segments = .ok destination := by
  match segments with
  | [] => rwa [walk_nil] at walked ⊢
  | segment :: more =>
    obtain ⟨inside, ⟨idle, later⟩ | ⟨rfl, later⟩ | ⟨step, stepped⟩⟩ := walk_cons_eq_ok walked
    · have further := walk_find_of_create budget place more later
      rw [walk_cons]
      simpa only [inside, idle, Bool.not_true, Bool.false_eq_true, if_false, if_true] using further
    · have further := walk_find_of_create budget place.dropLast more later
      rw [walk_cons]
      simpa only [inside, isIdle_parent, Bool.not_true, Bool.false_eq_true, if_false,
        if_true] using further
    · rcases stepped with ⟨free, last, rfl⟩ | ⟨target, less, found, rfl, later⟩ |
        ⟨entry, found, plain, later⟩
      · rw [walk_step inside step (by rfl), free]
        simp [last]
      · rw [walk_step inside step (by rfl), found]
        exact walk_find_of_create less _ _ later
      · rw [walk_entry inside step (by rfl) found plain]
        exact walk_find_of_create budget _ more later
termination_by (budget, segments.length)

/-- A walk finds exactly the place that its path leads to with no more links than its budget
allows. -/
theorem Tree.walk_eq_existing_iff :
    tree.walk .find budget place segments = .ok (.existing goal) ↔
      ∃ links ≤ budget, Leads tree links place segments goal := by
  constructor
  · intro walked
    rw [← List.append_nil segments] at walked
    obtain ⟨links, covered, reached, leads, arrived⟩ :=
      leads_of_walk (.inl ⟨goal, rfl⟩) budget place segments walked
    rw [Tree.walk_nil] at arrived
    cases arrived
    exact ⟨links, covered, leads⟩
  · intro found
    obtain ⟨links, covered, leads⟩ := found
    rw [← List.append_nil segments, leads.walk_append (.inl rfl), if_pos covered, Tree.walk_nil]

namespace Leads

theorem unique (leads : Leads tree links place segments goal)
    (also : Leads tree others place segments other) : goal = other := by
  have first := Tree.walk_eq_existing_iff.mpr ⟨links, Nat.le_add_right links others, leads⟩
  have second := Tree.walk_eq_existing_iff.mpr ⟨others, Nat.le_add_left others links, also⟩
  cases first.symm.trans second
  rfl

theorem append (leads : Leads tree links place segments middle)
    (onward : Leads tree more middle rest goal) :
    ∃ all ≤ links + more, Leads tree all place (segments ++ rest) goal := by
  rw [← Tree.walk_eq_existing_iff, leads.walk_append (.inl rfl), if_pos (Nat.le_add_right _ _),
    Nat.add_sub_cancel_left]
  exact Tree.walk_eq_existing_iff.mpr ⟨more, Nat.le_refl _, onward⟩

theorem split (leads : Leads tree links place (segments ++ rest) goal) :
    ∃ early ≤ links, ∃ middle, Leads tree early place segments middle ∧
      ∃ late ≤ links - early, Leads tree late middle rest goal := by
  have walked := Tree.walk_eq_existing_iff.mpr ⟨links, Nat.le_refl _, leads⟩
  obtain ⟨early, covered, middle, reached, further⟩ :=
    leads_of_walk (.inl ⟨goal, rfl⟩) links place segments walked
  exact ⟨early, covered, middle, reached, Tree.walk_eq_existing_iff.mp further⟩

theorem name {entry : Entry} (inside : tree.isDirectory place) (step : IsStep segment)
    (found : tree.find? (place ++ [segment]) = some entry) (plain : entry.link? = none) :
    Leads tree 0 place [segment] (place ++ [segment]) :=
  .entry inside step found plain .here

theorem append_idle (inside : tree.isDirectory goal)
    (idle : ∀ segment ∈ rest, Path.isIdle segment) :
    Leads tree 0 goal rest goal := by
  induction rest with
  | nil => exact .here
  | cons segment more ih =>
    exact .idle inside (idle segment List.mem_cons_self)
      (ih fun other member => idle other (List.mem_cons_of_mem _ member))

theorem inside (leads : Leads tree links place (segment :: rest) goal) :
    tree.isDirectory place := by
  cases leads <;> assumption

theorem ends (leads : Leads tree links place segments goal)
    (closed : tree.isDirectory place = false) : segments = [] ∧ goal = place := by
  cases segments with
  | nil =>
    cases leads
    exact ⟨rfl, rfl⟩
  | cons segment rest => simp [leads.inside] at closed

/-- What a step down can find: an entry from which the way goes on, or a link that it follows. -/
theorem down (step : IsStep segment) (leads : Leads tree links place (segment :: rest) goal) :
    (∃ entry, tree.find? (place ++ [segment]) = some entry ∧ entry.link? = none ∧
        Leads tree links (place ++ [segment]) rest goal) ∨
      ∃ target fewer, tree.find? (place ++ [segment]) = some (.link target) ∧ links = fewer + 1 ∧
        Leads tree fewer (if Path.isAbsolute target then [] else place)
          (Path.segments target ++ rest) goal := by
  cases leads with
  | idle _ idle _ => cases step.moves.symm.trans idle
  | up _ _ => exact (step.down rfl).elim
  | entry _ _ found plain onward => exact .inl ⟨_, found, plain, onward⟩
  | link _ _ found onward => exact .inr ⟨_, _, found, rfl, onward⟩

theorem over_link (step : IsStep segment)
    (linked : tree.find? (place ++ [segment]) = some (.link target))
    (leads : Leads tree links place (segment :: rest) goal) :
    ∃ fewer, links = fewer + 1 ∧ Leads tree fewer (if Path.isAbsolute target then [] else place)
      (Path.segments target ++ rest) goal := by
  rcases leads.down step with ⟨entry, found, plain, _⟩ | ⟨text, fewer, found, count, onward⟩
  · cases linked.symm.trans found
    cases plain
  · cases linked.symm.trans found
    exact ⟨fewer, count, onward⟩

theorem links_unique (leads : Leads tree links place segments goal)
    (also : Leads tree others place segments other) : links = others := by
  have covered {fewer more : Nat} {first second : Place}
      (leads : Leads tree fewer place segments first)
      (also : Leads tree more place segments second) : more ≤ fewer := by
    have ending : Purpose.find = .find ∨ ∃ segment ∈ ([] : List String), segment ≠ "" := .inl rfl
    have walked := leads.walk_append ending fewer
    rw [also.walk_append ending, if_pos (Nat.le_refl fewer)] at walked
    simp only [Tree.walk_nil] at walked
    by_cases further : more ≤ fewer
    · exact further
    · rw [if_neg further] at walked
      cases walked
  exact Nat.le_antisymm (covered also leads) (covered leads also)

/-- The way to a place leads there in every tree that has the same directories, and the same
entries, up to the contents of files, wherever a way to that place goes on with no more links. -/
theorem transfer_within {before after : Tree} (leads : Leads before links place segments goal)
    (directories : ∀ place, before.isDirectory place → after.isDirectory place)
    (kept : ∀ fewer ≤ links, ∀ place segment rest entry, IsStep segment →
      Leads before fewer place (segment :: rest) goal →
      before.find? (place ++ [segment]) = some entry →
      ∃ other, after.find? (place ++ [segment]) = some other ∧ other.link? = entry.link?) :
    Leads after links place segments goal := by
  induction leads with
  | here => exact .here
  | idle inside idle _ ih => exact .idle (directories _ inside) idle (ih kept)
  | up inside _ ih => exact .up (directories _ inside) (ih kept)
  | entry inside step found plain onward ih =>
    obtain ⟨other, present, same⟩ :=
      kept _ (Nat.le_refl _) _ _ _ _ step (.entry inside step found plain onward) found
    exact .entry (directories _ inside) step present (same.trans plain) (ih kept)
  | @link _ target _ _ _ _ inside step found onward ih =>
    obtain ⟨other, present, same⟩ :=
      kept _ (Nat.le_refl _) _ _ _ _ step (.link inside step found onward) found
    rw [(Entry.link?_eq_some other target).mp same] at present
    exact .link (directories _ inside) step present
      (ih fun fewer covered => kept fewer (Nat.le_succ_of_le covered))

theorem transfer {before after : Tree} (leads : Leads before links place segments goal)
    (directories : ∀ place, before.isDirectory place → after.isDirectory place)
    (kept : ∀ links place segment rest entry, IsStep segment →
      Leads before links place (segment :: rest) goal →
      before.find? (place ++ [segment]) = some entry →
      ∃ other, after.find? (place ++ [segment]) = some other ∧ other.link? = entry.link?) :
    Leads after links place segments goal :=
  leads.transfer_within directories fun fewer _ => kept fewer

/-- Two ways by the same segments in two trees stay together, until they part at an entry that is
not the same in both. -/
theorem follow {before after : Tree} {parted : Prop} {further : Nat} {more : List String}
    {reached : Place} (leads : Leads before links place segments goal)
    (also : Leads after further place (segments ++ more) reached)
    (entries : ∀ links further place segment rest entry, IsStep segment →
      Leads before links place (segment :: rest) goal →
      Leads after further place (segment :: (rest ++ more)) reached →
      before.find? (place ++ [segment]) = some entry →
      parted ∨ ∀ other, after.find? (place ++ [segment]) = some other → other.link? = entry.link?) :
    parted ∨ ∃ fewer, Leads after fewer goal more reached := by
  induction leads generalizing further with
  | here => exact .inr ⟨further, also⟩
  | idle _ idle _ ih =>
    cases also with
    | idle _ _ onward => exact ih onward entries
    | up _ _ => cases isIdle_parent.symm.trans idle
    | entry _ step _ _ _ => cases step.moves.symm.trans idle
    | link _ step _ _ => cases step.moves.symm.trans idle
  | up _ _ ih =>
    cases also with
    | idle _ idle _ => cases isIdle_parent.symm.trans idle
    | up _ onward => exact ih onward entries
    | entry _ step _ _ _ => exact (step.down rfl).elim
    | link _ step _ _ => exact (step.down rfl).elim
  | entry inside step found plain leads ih =>
    rcases entries _ _ _ _ _ _ step (.entry inside step found plain leads) also found with
      apart | same
    · exact .inl apart
    · rcases also.down step with ⟨_, _, _, onward⟩ | ⟨_, _, present, _⟩
      · exact ih onward entries
      · cases (same _ present).trans plain
  | @link _ target _ _ _ _ inside step found leads ih =>
    rw [List.cons_append] at also
    rcases entries _ _ _ _ _ _ step (.link inside step found leads) also found with
      apart | same
    · exact .inl apart
    · rcases also.down step with ⟨_, present, plain, _⟩ | ⟨_, _, present, _, onward⟩
      · cases plain.symm.trans (same _ present)
      · cases same _ present
        rw [← List.append_assoc] at onward
        exact ih onward entries

end Leads

end PropertyStore.Files
