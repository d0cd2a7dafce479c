import PropertyStore.Proofs.Files.WellFormed

namespace PropertyStore.Files

/-- A tree that differs from another at most in what stands at one place. -/
structure ChangedAt (before : Tree) (place : Place) (entry : Option Entry) (after : Tree) : Prop where
  start : after.workingDirectory = before.workingDirectory
  there : after.find? place = entry
  elsewhere : ∀ other, other ≠ place → after.find? other = before.find? other

/-- Something that holds bytes, as a file with permission bits, or swallows them. -/
inductive Entry.Takes (content : Text.Bytes) (mode : Nat) : Entry → Prop where
  | file : Entry.Takes content mode (.file content mode)
  | device : Entry.Takes content mode .device

variable {tree before middle after : Tree} {place : Place} {entry : Entry} {content : Text.Bytes}
  {mode : Nat} {places : List Place}

theorem Tree.ne_nil_of_outside (outside : tree.isDirectory place = false) : place ≠ [] := by
  rintro rfl
  simp [isDirectory, find?] at outside

namespace Entry.Takes

theorem plain (takes : Entry.Takes content mode entry) : entry.link? = none := by
  cases takes <;> rfl

theorem withMode (takes : Entry.Takes content mode entry) (bits : Nat) :
    Entry.Takes content bits (entry.withMode bits) := by
  cases takes with
  | file => exact .file
  | device => exact .device

theorem extended (takes : Entry.Takes content mode entry) (bytes : Text.Bytes) :
    Entry.Takes (content ++ bytes) mode (entry.extended bytes) := by
  cases takes with
  | file => exact .file
  | device => exact .device

end Entry.Takes

namespace ChangedAt

theorem trans {first second : Option Entry} (early : ChangedAt before place first middle)
    (late : ChangedAt middle place second after) : ChangedAt before place second after where
  start := late.start.trans early.start
  there := late.there
  elsewhere other differs := (late.elsewhere other differs).trans (early.elsewhere other differs)

theorem put (below : place ≠ []) : ChangedAt tree place (some entry) (tree.put place entry) where
  start := rfl
  there := by simp [below]
  elsewhere other differs := by simp [below, differs.symm]

theorem remove (below : place ≠ []) : ChangedAt tree place none (tree.apply (.remove place)) where
  start := rfl
  there := by simp [Tree.apply, below]
  elsewhere other differs := by simp [Tree.apply, below, differs.symm]

theorem revise (below : place ≠ []) (found : tree.find? place = some entry) (change : Entry → Entry) :
    ChangedAt tree place (some (change entry)) (tree.revise place change) := by
  rw [Tree.revise, found]
  exact put below

theorem isDirectory_eq (changed : ChangedAt before place (some entry) after)
    (takes : Entry.Takes content mode entry) : after.isDirectory place = false := by
  rw [Tree.isDirectory, changed.there]
  cases takes <;> rfl

theorem alike {result : Option Entry} (changed : ChangedAt before place result after)
    (closed : before.isDirectory place = false) (still : after.isDirectory place = false) :
    AlikeBut [place] before after where
  start := changed.start
  same other differs := changed.elsewhere other (by simpa using differs)
  closed other listed := by
    rw [List.mem_singleton.mp listed]
    exact ⟨closed, still⟩

end ChangedAt

theorem Tree.find?_moved {goal : Place} (found : tree.find? place = some entry) (below : place ≠ [])
    (under : goal ≠ []) (apart : place ≠ goal) :
    (tree.apply (.move place goal)).find? place = none := by
  simp [apply, found, below, under, apart.symm]

/-- A tree after a file with new content has come from `hole` to `goal`. -/
structure Replaced (before : Tree) (hole goal : Place) (content : Text.Bytes) (mode : Nat)
    (after : Tree) : Prop where
  start : after.workingDirectory = before.workingDirectory
  there : after.find? goal = some (.file content mode)
  gone : after.find? hole = none
  elsewhere : ∀ other, other ≠ hole → other ≠ goal → after.find? other = before.find? other
  closed : before.isDirectory hole = false ∧ before.isDirectory goal = false

theorem ChangedAt.replaced {written : Tree} {hole goal : Place}
    (changed : ChangedAt before hole (some (.file content mode)) written)
    (closed : before.isDirectory hole = false) (shut : written.isDirectory goal = false)
    (below : hole ≠ []) (under : goal ≠ []) (apart : hole ≠ goal) :
    Replaced before hole goal content mode (written.apply (.move hole goal)) := by
  have moved : written.apply (.move hole goal) =
      (written.erase hole).put goal (.file content mode) := by
    rw [Tree.apply, changed.there]
  have same : before.find? goal = written.find? goal := (changed.elsewhere goal apart.symm).symm
  rw [moved]
  refine ⟨changed.start, by simp [under], by simp [under, below, apart.symm], ?_, closed, ?_⟩
  · intro other away aside
    simp [under, below, away.symm, aside.symm, changed.elsewhere other away]
  · rw [Tree.isDirectory, same]
    exact shut

theorem Replaced.alike {hole goal : Place}
    (replaced : Replaced before hole goal content mode after) :
    AlikeBut [hole, goal] before after where
  start := replaced.start
  same other differs := by
    rw [List.mem_cons, List.mem_singleton, not_or] at differs
    exact replaced.elsewhere other differs.1 differs.2
  closed other listed := by
    rw [List.mem_cons, List.mem_singleton] at listed
    rcases listed with rfl | rfl
    · exact ⟨replaced.closed.1, by simp [Tree.isDirectory, replaced.gone]⟩
    · exact ⟨replaced.closed.2, by simp [Tree.isDirectory, replaced.there]⟩

theorem AlikeBut.changed {result : Option Entry}
    (alike : AlikeBut places before middle) (listed : place ∈ places)
    (changed : ChangedAt middle place result after) (closed : after.isDirectory place = false) :
    AlikeBut places before after where
  start := changed.start.trans alike.start
  same other away := by
    have apart : other ≠ place := by
      rintro rfl
      exact away listed
    exact (changed.elsewhere other apart).trans (alike.same other away)
  closed other member := by
    refine ⟨(alike.closed other member).1, ?_⟩
    by_cases there : other = place
    · exact there ▸ closed
    · rw [Tree.isDirectory, changed.elsewhere other there]
      exact (alike.closed other member).2

theorem AlikeBut.create (alike : AlikeBut places before after) (listed : place ∈ places) :
    AlikeBut places before (after.apply (.create place)) := by
  have below := Tree.ne_nil_of_outside (alike.closed place listed).2
  have changed : ChangedAt after place (some (.file [] newFileMode)) (after.apply (.create place)) :=
    ChangedAt.put below
  exact alike.changed listed changed (changed.isDirectory_eq .file)

theorem AlikeBut.append (alike : AlikeBut places before after) (listed : place ∈ places)
    (bytes : Text.Bytes) : AlikeBut places before (after.apply (.append place bytes)) := by
  cases found : after.find? place with
  | none =>
    have same : after.apply (.append place bytes) = after := by
      rw [Tree.apply, Tree.revise, found]
    rwa [same]
  | some entry =>
    have outside := (alike.closed place listed).2
    have changed : ChangedAt after place (some (entry.extended bytes))
        (after.apply (.append place bytes)) :=
      ChangedAt.revise (Tree.ne_nil_of_outside outside) found _
    apply alike.changed listed changed
    rw [Tree.isDirectory, changed.there]
    cases entry with
    | directory mode => simp [Tree.isDirectory, found] at outside
    | _ => rfl

end PropertyStore.Files
