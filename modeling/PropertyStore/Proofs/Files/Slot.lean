import PropertyStore.Proofs.Files.Leads
import PropertyStore.Proofs.Files.Path

namespace PropertyStore.Files

/-- A path that an operation looks at. -/
structure Usable (path : String) : Prop where
  clean : '\x00' ∉ path.toList
  short : path.utf8ByteSize < pathLimit

variable {tree : Tree} {path name : String} {above after : List String} {place : Place}

theorem Path.Names.path_ne_empty (names : Path.Names path above name after) : path ≠ "" := by
  intro empty
  have single : above ++ name :: after = [""] := by
    rw [← names.whole, empty]
    rfl
  cases above with
  | nil => exact names.ne_empty (List.cons.inj single).1
  | cons first more => simp at single

namespace Tree

theorem usable_of_slot (found : tree.slot path = .ok result) : Usable path := by
  rw [slot] at found
  split at found
  · cases found
  · rename_i clean
    split at found
    · cases found
    · split at found
      · cases found
      · rename_i short
        exact ⟨by simpa using clean, Nat.not_le.mp short⟩

private theorem slot_of_names (names : Path.Names path above name []) (usable : Usable path) :
    tree.slot path = match tree.walk .find linkLimit (tree.origin path) above with
      | .error fault => .error fault
      | .ok (.free _) => .error .notFound
      | .ok (.existing directory) =>
        if !tree.isDirectory directory then .error .notDirectory
        else if nameLimit < name.utf8ByteSize then .error .nameTooLong
        else .ok (directory ++ [name], false) := by
  have reversed : (Path.segments path).reverse.dropWhile (· = "") = name :: above.reverse := by
    rw [names.whole, List.reverse_append]
    simp [names.ne_empty]
  have last : (Path.segments path).getLast? = some name := by
    rw [names.whole, List.getLast?_append]
    rfl
  have clean : path.toList.contains '\x00' = false := by
    simpa using usable.clean
  rw [slot, clean, if_neg Bool.false_ne_true, if_neg names.path_ne_empty,
    if_neg (Nat.not_le.mpr usable.short)]
  simp only [reversed, last, List.reverse_reverse, Option.some.injEq, names.ne_empty,
    names.down, names.ne_dot, decide_false, Bool.or_self, Bool.false_eq_true, if_false]
  cases tree.walk .find linkLimit (tree.origin path) above with
  | error fault => rfl
  | ok destination => cases destination <;> rfl

/-- A path that ends in a name stands for that name in the directory to which the segments
above it lead. -/
theorem slot_eq_ok_iff (names : Path.Names path above name []) {slashed : Bool} :
    tree.slot path = .ok (place, slashed) ↔
      Usable path ∧ name.utf8ByteSize ≤ nameLimit ∧ slashed = false ∧
        ∃ links ≤ linkLimit, ∃ directory, Leads tree links (tree.origin path) above directory ∧
          tree.isDirectory directory ∧ place = directory ++ [name] := by
  constructor
  · intro found
    have usable := usable_of_slot found
    rw [slot_of_names names usable] at found
    split at found
    · cases found
    · cases found
    · rename_i directory walked
      split at found
      · cases found
      · rename_i inside
        split at found
        · cases found
        · rename_i short
          cases found
          obtain ⟨links, covered, leads⟩ := walk_eq_existing_iff.mp walked
          exact ⟨usable, Nat.not_lt.mp short, rfl, links, covered, directory, leads,
            by simpa using inside, rfl⟩
  · intro stands
    obtain ⟨usable, short, rfl, links, covered, directory, leads, inside, rfl⟩ := stands
    have walked := walk_eq_existing_iff.mpr ⟨links, covered, leads⟩
    rw [slot_of_names names usable, walked]
    simp [inside, short]

private theorem parts_of_slot (found : tree.slot path = .ok (place, false)) :
    (Path.segments path).getLast? ≠ some "" ∧
      ∃ name above, (Path.segments path).reverse.dropWhile (· = "") = name :: above ∧
        name ≠ "." ∧ name ≠ ".." := by
  have usable := usable_of_slot found
  have clean : path.toList.contains '\x00' = false := by
    simpa using usable.clean
  rw [slot, clean, if_neg Bool.false_ne_true] at found
  split at found
  · cases found
  · rw [if_neg (Nat.not_le.mpr usable.short)] at found
    cases parts : (Path.segments path).reverse.dropWhile (· = "") with
    | nil => simp [parts] at found
    | cons name above =>
      simp only [parts] at found
      cases walked : tree.walk .find linkLimit (tree.origin path) above.reverse with
      | error fault => simp [walked, bind, Except.bind] at found
      | ok destination =>
        cases destination with
        | free free => simp [walked, bind, Except.bind] at found
        | existing directory =>
          simp only [walked, bind, Except.bind] at found
          split at found
          · cases found
          · split at found
            · cases found
            · rename_i still
              split at found
              · cases found
              · simp only [pure, Except.pure, Except.ok.injEq, Prod.mk.injEq,
                  decide_eq_false_iff_not] at found
                simp only [Bool.or_eq_true, decide_eq_true_eq, not_or] at still
                exact ⟨found.2, name, above, rfl, still⟩

theorem names_of_slot (found : tree.slot path = .ok (place, false)) :
    ∃ above name, Path.Names path above name [] := by
  obtain ⟨ending, name, before, parts, dotless, down⟩ := parts_of_slot found
  rcases List.eq_nil_or_concat (Path.segments path) with none | ⟨above, last, whole⟩
  · simp [none] at parts
  · rw [List.concat_eq_append] at whole
    have named : last ≠ "" := by
      intro empty
      simp [whole, empty] at ending
    have same : last = name := by
      rw [whole, List.reverse_append] at parts
      simp [named] at parts
      exact parts.1
    have moves : Path.isIdle last = false := by
      simp [Path.isIdle, named, same ▸ dotless]
    exact ⟨above, last, whole, moves, same ▸ down, by simp⟩

theorem resolve_of_usable (usable : Usable path) (full : path ≠ "") :
    tree.resolve purpose path = tree.walk purpose linkLimit (tree.origin path) (Path.segments path) := by
  have clean : path.toList.contains '\x00' = false := by
    simpa using usable.clean
  rw [resolve, clean, if_neg Bool.false_ne_true, if_neg full]

theorem locate_of_usable (usable : Usable path) :
    tree.locate purpose path = tree.resolve purpose path := by
  rw [locate, if_neg (by simp [Nat.not_le.mpr usable.short])]

theorem usable_of_locate (located : tree.locate purpose path = .ok destination) : Usable path := by
  by_cases clean : '\x00' ∈ path.toList
  · simp [locate, resolve, clean] at located
  · by_cases short : path.utf8ByteSize < pathLimit
    · exact ⟨clean, short⟩
    · simp [locate, clean, Nat.not_lt.mp short] at located

theorem walk_of_locate (located : tree.locate purpose path = .ok destination) :
    tree.walk purpose linkLimit (tree.origin path) (Path.segments path) = .ok destination := by
  have usable := usable_of_locate located
  rw [locate_of_usable usable] at located
  by_cases empty : path = ""
  · subst empty
    cases located
  · rwa [resolve_of_usable usable empty] at located

theorem free_of_locate (located : tree.locate purpose path = .ok (.free place)) :
    tree.find? place = none :=
  free_of_walk _ _ _ (walk_of_locate located)

theorem locate_of_slot (names : Path.Names path above name [])
    (found : tree.slot path = .ok (place, false)) (purpose : Purpose) :
    ∃ budget directory, tree.isDirectory directory ∧ IsStep name ∧ place = directory ++ [name] ∧
      tree.locate purpose path = tree.walk purpose budget directory [name] := by
  obtain ⟨usable, short, _, links, covered, directory, leads, inside, rfl⟩ :=
    (slot_eq_ok_iff names).mp found
  refine ⟨linkLimit - links, directory, inside, ⟨names.moves, names.down, short⟩, rfl, ?_⟩
  rw [locate_of_usable usable, resolve_of_usable usable names.path_ne_empty, names.whole,
    leads.walk_append (.inr ⟨name, List.mem_singleton_self _, names.ne_empty⟩), if_pos covered]

theorem locate_free (names : Path.Names path above name [])
    (found : tree.slot path = .ok (place, false)) (free : tree.find? place = none)
    (purpose : Purpose) : tree.locate purpose path = .ok (.free place) := by
  obtain ⟨budget, directory, inside, step, rfl, located⟩ := locate_of_slot names found purpose
  rw [located, walk_step inside step (by simp [isRefused]), free]
  rfl

theorem locate_entry (names : Path.Names path above name [])
    (found : tree.slot path = .ok (place, false)) (present : tree.find? place = some entry)
    (plain : entry.link? = none) (purpose : Purpose) :
    tree.locate purpose path = .ok (.existing place) := by
  obtain ⟨budget, directory, inside, step, rfl, located⟩ := locate_of_slot names found purpose
  rw [located, walk_entry inside step (by simp [isRefused]) present plain, walk_nil]

theorem slot_of_locate (names : Path.Names path above name [])
    (located : tree.locate purpose path = .ok destination) :
    ∃ place, tree.slot path = .ok (place, false) := by
  have usable := usable_of_locate located
  rw [locate_of_usable usable, resolve_of_usable usable names.path_ne_empty, names.whole] at located
  obtain ⟨links, covered, directory, leads, further⟩ :=
    leads_of_walk (.inr ⟨name, List.mem_singleton_self _, names.ne_empty⟩) _ _ _ located
  obtain ⟨inside, ⟨idle, _⟩ | ⟨up, _⟩ | ⟨step, _⟩⟩ := walk_cons_eq_ok further
  · rw [names.moves] at idle
    cases idle
  · exact (names.down up).elim
  · exact ⟨_, (slot_eq_ok_iff names).mpr
      ⟨usable, step.short, rfl, links, covered, directory, leads, inside, rfl⟩⟩

/-- The temporary file beside a target has its place in the directory that the target's path
leads to above its last name. -/
theorem slot_sibling {target temporary : String} {slashed : Bool}
    (names : Path.Names target above name [])
    (beside : Path.sibling? target temporarySuffix = some temporary)
    (reaches : Leads tree links (tree.origin target) above directory)
    (found : tree.slot temporary = .ok (place, slashed)) :
    place = directory ++ [name ++ temporarySuffix] := by
  obtain ⟨_, way, idles, same, next, absolute, whole, idle⟩ := names.sibling
  cases same.symm.trans beside
  obtain ⟨_, _, _, more, _, middle, leads, inside, rfl⟩ := (slot_eq_ok_iff next).mp found
  rw [origin, absolute, ← origin] at leads
  obtain ⟨_, _, further⟩ := leads.append (Leads.append_idle inside idle)
  rw [← whole] at further
  rw [reaches.unique further]

/-- The temporary file is not its target: its name is longer. -/
theorem slot_sibling_ne {target temporary : String} {slashed : Bool}
    (names : Path.Names target above name [])
    (beside : Path.sibling? target temporarySuffix = some temporary)
    (found : tree.slot temporary = .ok (place, slashed)) (directory : Place) :
    place ≠ directory ++ [name] := by
  obtain ⟨_, way, idles, same, next, _⟩ := names.sibling
  cases same.symm.trans beside
  obtain ⟨_, _, _, _, _, middle, _, _, rfl⟩ := (slot_eq_ok_iff next).mp found
  intro equal
  have last := List.append_inj_right' equal rfl
  exact Path.name_ne_temporaryName name (List.cons.inj last).1

end Tree

end PropertyStore.Files
