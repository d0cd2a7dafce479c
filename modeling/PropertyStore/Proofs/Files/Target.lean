import PropertyStore.Proofs.Files.Replacement

namespace PropertyStore.Files

variable {tree before after : Tree} {path target temporary : String} {hole goal place : Place}

namespace Tree

/-- A path leads to nothing that is there. -/
def Absent (tree : Tree) (path : String) : Prop :=
  ∀ place, tree.resolve .find path ≠ .ok (.existing place)

theorem content?_eq_some_iff (tree : Tree) (path : String) (bytes : Text.Bytes) :
    tree.content? path = some bytes ↔
      ∃ place mode, tree.locate .find path = .ok (.existing place) ∧
        tree.find? place = some (.file bytes mode) := by
  rw [content?, lookup]
  cases tree.locate .find path with
  | error fault => simp [bind, Except.bind]
  | ok destination =>
    cases destination with
    | free place => simp [bind, Except.bind]
    | existing place =>
      cases found : tree.find? place with
      | none => simp [bind, Except.bind, found]
      | some entry => cases entry <;> simp [bind, Except.bind, pure, Except.pure, found]

theorem exists_of_not_absent (there : ¬ tree.Absent path) :
    ∃ place, tree.resolve .find path = .ok (.existing place) := by
  simpa [Absent] using there

theorem WellFormed.solid_of_resolve (wellFormed : tree.WellFormed)
    (resolved : tree.resolve .find path = .ok (.existing place)) : tree.Solid place := by
  obtain ⟨_, _, links, covered, leads⟩ := (tree.resolve_eq_existing_iff path).mp resolved
  exact wellFormed.solid_of_walk (walk_eq_existing_iff.mpr ⟨links, covered, leads⟩)

private theorem resolve_of_leads (usable : Usable path) (full : path ≠ "")
    (leads : Leads tree links (tree.origin path) (Path.segments path) place) :
    tree.resolve .find path =
      if links ≤ linkLimit then .ok (.existing place) else .error .linkLoop := by
  rw [resolve_of_usable usable full, ← List.append_nil (Path.segments path),
    leads.walk_append (.inl rfl), walk_nil]

end Tree

theorem Replacement.targetOf_existing
    (resolved : tree.resolve .find path = .ok (.existing place)) :
    targetOf tree path = .ok (Path.ofPlace place) := by
  rw [targetOf, (tree.canonical_eq_ok_iff path _).mpr ⟨place, resolved, rfl⟩]

/-- A path that leads to nothing is its own target, and no loop of links is to blame. -/
theorem Replacement.targetOf_absent (absent : tree.Absent path)
    (aim : targetOf tree path = .ok target) :
    target = path ∧ tree.resolve .find path ≠ .error .linkLoop := by
  rw [targetOf] at aim
  split at aim
  · rename_i resolved canonical
    obtain ⟨place, reached, _⟩ := (tree.canonical_eq_ok_iff path resolved).mp canonical
    exact (absent place reached).elim
  · rename_i missing
    refine ⟨(Except.ok.inj aim).symm, ?_⟩
    intro loop
    simp [Tree.canonical, loop, bind, Except.bind] at missing
  · cases aim

theorem Tree.nowhere_of_absent (absent : tree.Absent path)
    (loopless : tree.resolve .find path ≠ .error .linkLoop)
    (ends : Path.Names path above name []) (usable : Usable path)
    (leads : Leads tree links (tree.origin path) above directory) (more : Nat) (reached : Place) :
    ¬ Leads tree more directory [name] reached := by
  intro onward
  obtain ⟨all, _, whole⟩ := leads.append onward
  rw [← ends.whole] at whole
  have resolved := resolve_of_leads usable ends.path_ne_empty whole
  split at resolved
  · exact absent reached resolved
  · exact loopless resolved

namespace TemporaryAt

private theorem past (stands : TemporaryAt tree path target temporary hole)
    (inside : tree.isDirectory place) :
    Blocked tree hole place :=
  blocked_of_directory stands.closed stands.unlinked inside

theorem names (stands : TemporaryAt tree path target temporary hole) (wellFormed : tree.WellFormed)
    (resolved : tree.resolve .find path = .ok (.existing place))
    (found : tree.find? place = some entry) :
    target = Path.ofPlace place ∧ hole ≠ place ∧ ∃ directory name, place = directory ++ [name] ∧
      Path.Names target ("" :: directory) name [] := by
  have same : target = Path.ofPlace place :=
    Except.ok.inj (stands.aim.symm.trans (Replacement.targetOf_existing resolved))
  rcases List.eq_nil_or_concat place with rfl | ⟨directory, name, rfl⟩
  · -- The root has no file beside it.
    have beside := stands.beside
    rw [same] at beside
    cases beside
  · rw [List.concat_eq_append] at *
    have ends : Path.Names target ("" :: directory) name [] := same ▸ wellFormed.names found
    exact ⟨same, Tree.slot_sibling_ne ends stands.beside stands.slot directory, directory, name,
      rfl, ends⟩

end TemporaryAt

def Tree.Settled (tree : Tree) (path : String) : Prop :=
  tree.Absent path ∨ ∃ bytes, tree.content? path = some bytes

theorem Tree.resolve_of_content (held : tree.content? path = some bytes) :
    Usable path ∧ ∃ place mode, tree.resolve .find path = .ok (.existing place) ∧
      tree.find? place = some (.file bytes mode) := by
  obtain ⟨place, mode, located, found⟩ := (tree.content?_eq_some_iff path bytes).mp held
  have usable := usable_of_locate located
  exact ⟨usable, place, mode, (locate_of_usable usable).symm.trans located, found⟩

theorem Tree.content_of_resolve (usable : Usable path)
    (resolved : tree.resolve .find path = .ok (.existing place))
    (found : tree.find? place = some (.file bytes mode)) : tree.content? path = some bytes :=
  (tree.content?_eq_some_iff path bytes).mpr
    ⟨place, mode, (locate_of_usable usable).trans resolved, found⟩

section Failed

variable (stands : TemporaryAt before path target temporary hole)
  (changed : ChangedAt before hole none after)

include stands changed

theorem ChangedAt.alike_of_failed : AlikeBut [hole] before after :=
  changed.alike stands.closed (by simp [Tree.isDirectory, changed.there])

theorem wellFormed_of_failed (wellFormed : before.WellFormed) : after.WellFormed := by
  apply (changed.alike_of_failed stands).wellFormed wellFormed
  intro directory name listed
  rw [List.mem_singleton.mp listed]
  exact .inl changed.there

theorem resolve_of_failed (apart : hole ≠ place)
    (resolved : before.resolve .find path = .ok (.existing place)) :
    after.resolve .find path = .ok (.existing place) := by
  apply (changed.alike_of_failed stands).resolve _ resolved (by simpa using apart.symm)
  intro other listed
  rw [List.mem_singleton.mp listed]
  exact stands.unlinked

theorem absent_of_failed (absent : before.Absent path) : after.Absent path := by
  intro place resolved
  obtain ⟨clean, full, links, covered, leads⟩ :=
    (after.resolve_eq_existing_iff path).mp resolved
  have alike := changed.alike_of_failed stands
  apply absent place
  refine (before.resolve_eq_existing_iff path).mpr ⟨clean, full, links, covered, ?_⟩
  rw [← alike.origin]
  apply leads.transfer
  · intro place inside
    rwa [← alike.isDirectory]
  · intro _ place segment _ entry _ _ found
    have other : place ++ [segment] ≠ hole := by
      intro same
      rw [same, changed.there] at found
      cases found
    rw [changed.elsewhere _ other] at found
    exact ⟨entry, found, rfl⟩

private theorem content_of_failed (wellFormed : before.WellFormed)
    (held : before.content? path = some bytes) : after.content? path = some bytes := by
  obtain ⟨usable, place, mode, resolved, found⟩ := Tree.resolve_of_content held
  obtain ⟨_, apart, _⟩ := stands.names wellFormed resolved found
  rw [← changed.elsewhere place apart.symm] at found
  exact Tree.content_of_resolve usable (resolve_of_failed stands changed apart resolved) found

private theorem targetOf_of_failed {other : String} (wellFormed : before.WellFormed)
    (aim : Replacement.targetOf after path = .ok other) : other = target := by
  by_cases absent : before.Absent path
  · rw [(Replacement.targetOf_absent (absent_of_failed stands changed absent) aim).1,
      (Replacement.targetOf_absent absent stands.aim).1]
  · obtain ⟨place, resolved⟩ := Tree.exists_of_not_absent absent
    obtain ⟨_, found, _⟩ := wellFormed.solid_of_resolve resolved
    obtain ⟨same, apart, _⟩ := stands.names wellFormed resolved found
    rw [Replacement.targetOf_existing (resolve_of_failed stands changed apart resolved)] at aim
    rw [same]
    exact (Except.ok.inj aim).symm

theorem unlinked_of_failed (wellFormed : before.WellFormed) : after.TemporaryUnlinked path := by
  intro other beside aim sibling place slashed slot text
  cases targetOf_of_failed stands changed wellFormed aim
  cases sibling.symm.trans stands.beside
  obtain ⟨way, name, ends⟩ := Path.names_of_sibling? stands.beside
  obtain ⟨_, _, rfl, _⟩ := (Tree.slot_eq_ok_iff ends).mp slot
  have earlier : before.slot temporary = .ok (place, false) :=
    (changed.alike_of_failed stands).symm.slot_past (by simp [changed.there]) ends slot
  have same : (place, false) = (hole, false) := Except.ok.inj (earlier.symm.trans stands.slot)
  rw [(Prod.mk.inj same).1, changed.there]
  simp

end Failed

section Replaced

variable {content : Text.Bytes} {mode : Nat}
  (stands : TemporaryAt before path target temporary hole)
  (aimed : before.slot target = .ok (goal, false))
  (replaced : Replaced before hole goal content mode after)

include aimed replaced in
theorem wellFormed_of_replaced (wellFormed : before.WellFormed) : after.WellFormed := by
  obtain ⟨above, last, ends⟩ := Tree.names_of_slot aimed
  obtain ⟨_, short, _, _, _, beneath, _, inside, rfl⟩ := (Tree.slot_eq_ok_iff ends).mp aimed
  apply replaced.alike.wellFormed wellFormed
  intro directory name listed
  rw [List.mem_cons, List.mem_singleton] at listed
  rcases listed with aside | there
  · rw [aside]
    exact .inl replaced.gone
  · obtain ⟨rfl, rfl⟩ : directory = beneath ∧ name = last := by
      simpa using List.append_inj' there rfl
    exact .inr ⟨inside, ⟨ends.moves, ends.down, short⟩, ends.plain (.inr rfl)⟩

include stands aimed replaced

private theorem resolve_of_replaced_existing (wellFormed : before.WellFormed)
    (resolved : before.resolve .find path = .ok (.existing place)) :
    place = goal ∧ after.resolve .find path = .ok (.existing goal) := by
  obtain ⟨former, found, plain⟩ := wellFormed.solid_of_resolve resolved
  obtain ⟨same, apart, directory, name, rfl, ends⟩ := stands.names wellFormed resolved found
  rw [same] at aimed
  obtain rfl : goal = directory ++ [name] := wellFormed.slot found aimed
  refine ⟨rfl, ?_⟩
  obtain ⟨clean, full, links, covered, leads⟩ :=
    (before.resolve_eq_existing_iff path).mp resolved
  refine (after.resolve_eq_existing_iff path).mpr ⟨clean, full, links, covered, ?_⟩
  rw [replaced.alike.origin]
  apply leads.transfer
  · intro place inside
    rwa [replaced.alike.isDirectory]
  · intro further place segment rest entry step onward present
    by_cases spot : place ++ [segment] = hole
    · have past : Blocked before hole (directory ++ [name]) :=
        blocked_of_end stands.closed stands.unlinked apart.symm
      exact (past place segment further rest step spot onward).elim
    · by_cases arrived : place ++ [segment] = directory ++ [name]
      · rw [arrived] at present ⊢
        cases found.symm.trans present
        exact ⟨_, replaced.there, plain.symm⟩
      · exact ⟨entry, (replaced.elsewhere _ spot arrived).trans present, rfl⟩

private theorem resolve_of_replaced_absent (absent : before.Absent path) :
    Usable path ∧ after.resolve .find path = .ok (.existing goal) := by
  obtain ⟨rfl, loopless⟩ := Replacement.targetOf_absent absent stands.aim
  obtain ⟨above, name, ends⟩ := Tree.names_of_slot aimed
  obtain ⟨usable, short, _, links, covered, directory, leads, inside, rfl⟩ :=
    (Tree.slot_eq_ok_iff ends).mp aimed
  -- The way to the directory cannot pass the name itself: a link there would lead somewhere.
  have nowhere := Tree.nowhere_of_absent absent loopless ends usable leads
  have slot : after.slot target = .ok (directory ++ [name], false) := by
    apply replaced.alike.slot ends _ aimed
    intro spot listed beneath within same
    rw [List.mem_cons, List.mem_singleton] at listed
    rcases listed with rfl | rfl
    · exact stands.past within
    · exact blocked_of_nowhere nowhere
  rw [← Tree.locate_of_usable usable]
  exact ⟨usable, Tree.locate_entry ends slot replaced.there rfl .find⟩

theorem resolve_of_replaced (wellFormed : before.WellFormed) :
    after.resolve .find path = .ok (.existing goal) := by
  by_cases absent : before.Absent path
  · exact (resolve_of_replaced_absent stands aimed replaced absent).2
  · obtain ⟨place, resolved⟩ := Tree.exists_of_not_absent absent
    exact (resolve_of_replaced_existing stands aimed replaced wellFormed resolved).2

private theorem content_of_replaced (wellFormed : before.WellFormed) (usable : Usable path) :
    after.content? path = some content :=
  Tree.content_of_resolve usable (resolve_of_replaced stands aimed replaced wellFormed)
    replaced.there

private theorem usable_of_settled (settled : before.Settled path) : Usable path := by
  rcases settled with absent | ⟨bytes, held⟩
  · exact (resolve_of_replaced_absent stands aimed replaced absent).1
  · exact (Tree.resolve_of_content held).1

theorem unlinked_of_replaced (wellFormed : before.WellFormed) : after.TemporaryUnlinked path := by
  have resolved := resolve_of_replaced stands aimed replaced wellFormed
  have there := replaced.there
  have kept := wellFormed_of_replaced aimed replaced wellFormed
  obtain ⟨above, name, ends⟩ := Tree.names_of_slot aimed
  obtain ⟨_, _, _, _, _, directory, leads, inside, rfl⟩ := (Tree.slot_eq_ok_iff ends).mp aimed
  intro other beside aim sibling place slashed slot text
  rw [Replacement.targetOf_existing resolved] at aim
  cases aim
  have root : after.isDirectory [] := by
    simp [Tree.isDirectory, Tree.find?]
  have within : after.isDirectory directory := by
    rwa [replaced.alike.isDirectory]
  obtain ⟨_, found⟩ := (after.isDirectory_iff directory).mp within
  have reaches : Leads after 0 (after.origin (Path.ofPlace (directory ++ [name])))
      ("" :: directory) directory := by
    rw [Tree.origin, Path.isAbsolute_ofPlace, if_pos rfl]
    exact .idle root (by decide) (kept.leads found rfl)
  rw [Tree.slot_sibling (kept.names there) sibling reaches slot,
    ← Tree.slot_sibling ends stands.beside leads stands.slot, replaced.gone]
  simp

end Replaced

/-- A tree in which the file at a path can be replaced: the path leads to nothing or to a
regular file, and no link stands under the name of the temporary file. -/
structure Tree.Ready (tree : Tree) (path : String) : Prop where
  wellFormed : tree.WellFormed
  unlinked : tree.TemporaryUnlinked path
  settled : tree.Settled path

/-- A failed replacement leaves what the path leads to as it was, and a successful one leaves the
new content there. -/
theorem Tree.Ready.replaceFile (ready : tree.Ready path) (content : Text.Bytes) :
    let deed := Action.replaceFile path content tree
    let after := tree.applyAll deed.changes
    after.Ready path ∧
      match deed.result with
      | .ok () => after.content? path = some content
      | .error _ => (tree.Absent path → after.Absent path) ∧
          ∀ bytes, tree.content? path = some bytes → after.content? path = some bytes := by
  obtain ⟨wellFormed, unlinked, settled⟩ := ready
  rcases Action.replaceFile_cases unlinked content with ⟨fault, failed, _⟩ |
    ⟨target, temporary, hole, stands, ⟨fault, failed, changed⟩ | ⟨goal, aimed, ended, replaced⟩⟩
  · simp only [failed]
    exact ⟨⟨wellFormed, unlinked, settled⟩, id, fun _ held => held⟩
  · have absent := absent_of_failed stands changed
    have held (bytes : Text.Bytes) (held : tree.content? path = some bytes) :=
      content_of_failed stands changed wellFormed held
    simp only [failed]
    refine ⟨⟨wellFormed_of_failed stands changed wellFormed,
      unlinked_of_failed stands changed wellFormed, ?_⟩, absent, held⟩
    exact settled.imp absent fun ⟨bytes, there⟩ => ⟨bytes, held bytes there⟩
  · have usable := usable_of_settled stands aimed replaced settled
    have there := content_of_replaced stands aimed replaced wellFormed usable
    simp only [ended]
    exact ⟨⟨wellFormed_of_replaced aimed replaced wellFormed,
      unlinked_of_replaced stands aimed replaced wellFormed, .inr ⟨content, there⟩⟩, there⟩

end PropertyStore.Files
