import PropertyStore.Files.Progress
import PropertyStore.Proofs.Files.Frame
import PropertyStore.Proofs.Files.Link

namespace PropertyStore.Files

variable {tree before after : Tree} {path target temporary : String} {hole goal place : Place}
  {content : Text.Bytes}

theorem Tree.put_put (tree : Tree) (place : Place) (first second : Entry) :
    (tree.put place first).put place second = tree.put place second := by
  have entries : (tree.entries.insert place first).insert place second =
      tree.entries.insert place second := by
    apply Std.ExtTreeMap.ext_getElem?
    intro other
    by_cases same : place = other <;> simp [Std.ExtTreeMap.getElem?_insert, same]
  simp only [put, entries]

theorem Entry.extended_append (entry : Entry) (first second : Text.Bytes) :
    (entry.extended first).extended second = entry.extended (first ++ second) := by
  cases entry <;> simp [extended]

theorem Tree.apply_append_append (tree : Tree) (place : Place) (first second : Text.Bytes) :
    (tree.apply (.append place first)).apply (.append place second) =
      tree.apply (.append place (first ++ second)) := by
  cases found : tree.find? place with
  | none => simp [apply, revise, found]
  | some entry =>
    by_cases root : place = []
    · subst root
      cases found
      simp only [apply, revise, put_put, find?, if_true]
      rfl
    · simp [apply, revise, found, root, put_put, Entry.extended_append]

namespace Progress

theorem run_cons (progress : Progress) (size : Nat) (sizes : List Nat) :
    progress.run (size :: sizes) = (progress.step size).run sizes :=
  rfl

theorem run_concat (progress : Progress) (sizes : List Nat) (size : Nat) :
    progress.run (sizes ++ [size]) = (progress.run sizes).step size := by
  rw [run, List.foldl_append]
  rfl

theorem run_nothing (tree : Tree) (sizes : List Nat) : run ⟨tree, []⟩ sizes = ⟨tree, []⟩ := by
  induction sizes with
  | nil => rfl
  | cons size sizes ih => rwa [run_cons]

private theorem step_plain {change : Change} (plain : ∀ place bytes, change ≠ .append place bytes)
    (tree : Tree) (rest : List Change) (size : Nat) :
    step ⟨tree, change :: rest⟩ size = ⟨tree.apply change, rest⟩ := by
  cases change with
  | append place bytes => exact (plain place bytes rfl).elim
  | _ => rfl

/-- A step does not alter what the changes come to in the end. -/
theorem step_outcome (progress : Progress) (size : Nat) :
    (progress.step size).tree.applyAll (progress.step size).pending =
      progress.tree.applyAll progress.pending := by
  obtain ⟨tree, pending⟩ := progress
  cases pending with
  | nil => rfl
  | cons change rest =>
    cases change with
    | append place bytes =>
      by_cases enough : bytes.length ≤ size
      · simp [step, enough, List.take_of_length_le enough, Tree.applyAll]
      · simp [step, enough, Tree.applyAll, Tree.apply_append_append]
    | _ => rfl

private theorem run_outcome (progress : Progress) (sizes : List Nat) :
    (progress.run sizes).tree.applyAll (progress.run sizes).pending =
      progress.tree.applyAll progress.pending := by
  induction sizes generalizing progress with
  | nil => rfl
  | cons size sizes ih => rw [run_cons, ih, step_outcome]

theorem run_finished {progress : Progress} {sizes : List Nat}
    (finished : (progress.run sizes).pending = []) :
    (progress.run sizes).tree = progress.tree.applyAll progress.pending := by
  rw [← run_outcome progress sizes, finished]
  rfl

end Progress

theorem Opened.change_cases {entry : Entry} {change : Change}
    (opened : Opened tree path place entry change) :
    change = .create place ∨ change = .truncate place := by
  have result := opened.result
  cases located : tree.locate .create path with
  | error fault => simp [Action.openFile_error located] at result
  | ok destination =>
    cases destination with
    | free spot =>
      rw [Action.openFile_free located] at result
      cases result
      exact .inl rfl
    | existing spot =>
      cases inside : tree.isDirectory spot with
      | true => simp [Action.openFile_directory located inside] at result
      | false =>
        rw [Action.openFile_anew located inside] at result
        cases result
        exact .inr rfl

theorem Opened.not_append {entry : Entry} {change : Change}
    (opened : Opened tree path place entry change) (other : Place) (bytes : Text.Bytes) :
    change ≠ .append other bytes := by
  rcases opened.change_cases with rfl | rfl <;> simp

namespace Replacement

variable {replacement : Replacement}

/-- How the permission bits of the temporary file are set before it is written. -/
def marks (replacement : Replacement) (hole : Place) : List Change :=
  (replacement.mode.map (Change.setMode hole)).toList

theorem writeTemporary_changes {entry : Entry} {change : Change}
    (opened : Opened tree replacement.temporary place entry change) :
    (replacement.writeTemporary tree).changes =
      change :: (replacement.marks place ++ [.append place replacement.content]) := by
  cases bits : replacement.mode <;>
    simp [writeTemporary, Action.bind_ok _ opened.result, bits, marks, Action.sync_eq]

/-- How far the writing of the temporary file at `hole` has come, before the last change is made. -/
inductive Underway (replacement : Replacement) (before : Tree) (hole : Place) (last : Change) :
    Progress → Prop where
  | opening {entry : Entry} {change : Change}
      (opened : Opened before replacement.temporary hole entry change) :
      Underway replacement before hole last
        ⟨before, change :: (replacement.marks hole ++ [.append hole replacement.content, last])⟩
  | marking {tree : Tree} {mode bits : Nat} {entry : Entry} (marked : replacement.mode = some bits)
      (changed : ChangedAt before hole (some entry) tree) (takes : Entry.Takes [] mode entry) :
      Underway replacement before hole last
        ⟨tree, [.setMode hole bits, .append hole replacement.content, last]⟩
  | writing {tree : Tree} {mode : Nat} {part rest : Text.Bytes} {entry : Entry}
      (whole : part ++ rest = replacement.content)
      (changed : ChangedAt before hole (some entry) tree) (takes : Entry.Takes part mode entry)
      (bits : ∀ bits, replacement.mode = some bits → mode = bits) :
      Underway replacement before hole last ⟨tree, [.append hole rest, last]⟩
  | written {tree : Tree} {mode : Nat} {entry : Entry}
      (changed : ChangedAt before hole (some entry) tree)
      (takes : Entry.Takes replacement.content mode entry)
      (bits : ∀ bits, replacement.mode = some bits → mode = bits) :
      Underway replacement before hole last ⟨tree, [last]⟩
  | finished (tree : Tree) : Underway replacement before hole last ⟨tree, []⟩

namespace Underway

variable {last : Change} {progress : Progress}

private theorem step (underway : Underway replacement before hole last progress)
    (outside : before.isDirectory hole = false)
    (closing : ∀ place bytes, last ≠ .append place bytes)
    (size : Nat) : Underway replacement before hole last (progress.step size) := by
  have below := Tree.ne_nil_of_outside outside
  cases underway with
  | opening opened =>
    rw [Progress.step_plain opened.not_append]
    cases bits : replacement.mode with
    | none =>
      have unmarked : replacement.marks hole = [] := by simp [marks, bits]
      rw [unmarked]
      exact .writing (List.nil_append _) opened.changed opened.takes (by simp [bits])
    | some mode =>
      have marked : replacement.marks hole = [.setMode hole mode] := by simp [marks, bits]
      rw [marked]
      exact .marking bits opened.changed opened.takes
  | @marking _ _ bits _ marked changed takes =>
    rw [Progress.step_plain (by simp)]
    have set := changed.trans (ChangedAt.revise below changed.there (Entry.withMode bits))
    refine .writing (List.nil_append _) set (takes.withMode bits) ?_
    intro other also
    exact Option.some.inj (marked.symm.trans also)
  | @writing _ _ part rest _ whole changed takes bits =>
    have more (piece : Text.Bytes) :=
      changed.trans (ChangedAt.revise below changed.there (Entry.extended piece))
    by_cases enough : rest.length ≤ size
    · simp only [Progress.step, enough, List.take_of_length_le enough, if_true]
      exact .written (more rest) (whole ▸ takes.extended rest) bits
    · simp only [Progress.step, enough, if_false]
      refine .writing ?_ (more (rest.take size)) (takes.extended _) bits
      rw [List.append_assoc, List.take_append_drop, whole]
  | written changed takes bits =>
    rw [Progress.step_plain closing]
    exact .finished _
  | finished tree => exact .finished tree

private theorem run (underway : Underway replacement before hole last progress)
    (outside : before.isDirectory hole = false)
    (closing : ∀ place bytes, last ≠ .append place bytes)
    (sizes : List Nat) : Underway replacement before hole last (progress.run sizes) := by
  induction sizes generalizing progress with
  | nil => exact underway
  | cons size sizes ih =>
    rw [Progress.run_cons]
    exact ih (underway.step outside closing size)

end Underway

/-- At a place stands part of what is to be written, in a file with the permission bits of the
replacement if it has any. -/
def Holding (replacement : Replacement) (entry : Entry) : Prop :=
  ∃ part mode, Entry.Takes part mode entry ∧ part <+: replacement.content ∧
    ∀ bits, replacement.mode = some bits → part = [] ∨ mode = bits

theorem Underway.seen {last : Change} {progress : Progress}
    (underway : Underway replacement before hole last progress) :
    progress.pending = [] ∨ progress.tree = before ∨
      ∃ entry, ChangedAt before hole (some entry) progress.tree ∧ replacement.Holding entry := by
  cases underway with
  | opening opened => exact .inr (.inl rfl)
  | marking marked changed takes =>
    exact .inr (.inr ⟨_, changed, _, _, takes, List.nil_prefix, fun _ _ => .inl rfl⟩)
  | writing whole changed takes bits =>
    exact .inr (.inr ⟨_, changed, _, _, takes, ⟨_, whole⟩, fun mode also => .inr (bits mode also)⟩)
  | written changed takes bits =>
    exact .inr (.inr ⟨_, changed, _, _, takes, List.prefix_refl _,
      fun mode also => .inr (bits mode also)⟩)
  | finished tree => exact .inl rfl

/-- The changes that a replacement makes: none, or it opens the temporary file, marks and writes it,
and in the end removes it if anything has failed, or moves it. -/
theorem carryOut_script (unlinked : tree.Unlinked replacement.temporary)
    (beside : Path.sibling? replacement.target temporarySuffix = some replacement.temporary) :
    let deed := replacement.carryOut tree
    deed.changes = [] ∨
      ∃ hole entry change last, tree.slot replacement.temporary = .ok (hole, false) ∧
        Opened tree replacement.temporary hole entry change ∧
        deed.changes =
          change :: (replacement.marks hole ++ [.append hole replacement.content, last]) ∧
        (last = .remove hole ∨ deed.result = .ok () ∧ ∃ goal, last = .move hole goal) := by
  intro deed
  obtain ⟨way, name, names⟩ := Path.names_of_sibling? beside
  rcases Action.openFile_cases names unlinked with ⟨fault, failed, nothing, _⟩ |
    ⟨hole, entry, change, slot, opened⟩
  · have first : replacement.attempt tree = ⟨[], .error fault⟩ :=
      attempt_error (Action.bind_error _ failed)
    simp only [deed, carryOut_error first]
    exact .inl nothing
  · right
    have script (last : Change) : (replacement.writeTemporary tree).changes ++ [last] =
        change :: (replacement.marks hole ++ [.append hole replacement.content, last]) := by
      simp [writeTemporary_changes opened]
    obtain ⟨written, takes, changed, ⟨fault, undone⟩ | ⟨_, goal, aimed, _, moved⟩⟩ :=
      carryOut_changes opened fun bits written after takes changed =>
        have still := changed.isDirectory_eq takes
        ⟨unlinked.slot_changed names slot opened.outside changed still, still, written,
          changed.there⟩
    · refine ⟨hole, entry, change, .remove hole, slot, opened, ?_, .inl rfl⟩
      simp only [deed, undone, script]
    · obtain ⟨above, last, ends⟩ := Tree.names_of_slot aimed
      obtain ⟨_, _, _, _, _, directory, _, _, rfl⟩ := (Tree.slot_eq_ok_iff ends).mp aimed
      have apart := Tree.slot_sibling_ne ends beside slot directory
      refine ⟨hole, entry, change, .move hole (directory ++ [last]), slot, opened, ?_,
        .inr ⟨by simp only [deed, moved], _, rfl⟩⟩
      simp only [deed, moved, if_neg apart, script]

private theorem carryOut_underway (unlinked : tree.Unlinked replacement.temporary)
    (beside : Path.sibling? replacement.target temporarySuffix = some replacement.temporary) :
    (replacement.carryOut tree).changes = [] ∨
      ∃ hole last, tree.slot replacement.temporary = .ok (hole, false) ∧
        tree.isDirectory hole = false ∧ (∀ place bytes, last ≠ .append place bytes) ∧
        Underway replacement tree hole last ⟨tree, (replacement.carryOut tree).changes⟩ := by
  rcases carryOut_script unlinked beside with nothing |
    ⟨hole, entry, change, last, slot, opened, script, closing⟩
  · exact .inl nothing
  · have closes : ∀ place bytes, last ≠ .append place bytes := by
      rcases closing with rfl | ⟨_, goal, rfl⟩ <;> simp
    refine .inr ⟨hole, last, slot, opened.outside, closes, ?_⟩
    rw [script]
    exact .opening opened

theorem places_of_failed (unlinked : tree.Unlinked replacement.temporary)
    (beside : Path.sibling? replacement.target temporarySuffix = some replacement.temporary)
    (failed : (replacement.carryOut tree).result = .error fault) :
    ∀ change ∈ (replacement.carryOut tree).changes, ∃ hole,
      tree.slot replacement.temporary = .ok (hole, false) ∧ change.places = [hole] := by
  rcases carryOut_script unlinked beside with nothing |
    ⟨hole, entry, first, last, slot, opened, script, rfl | ⟨ended, _⟩⟩
  · simp [nothing]
  · intro change member
    refine ⟨hole, slot, ?_⟩
    rw [script, List.mem_cons, List.mem_append, List.mem_cons, List.mem_singleton] at member
    rcases member with rfl | marked | rfl | rfl
    · rcases opened.change_cases with rfl | rfl <;> rfl
    · obtain ⟨bits, _, rfl⟩ :
          ∃ bits, replacement.mode = some bits ∧ .setMode hole bits = change := by
        simpa [marks] using marked
      rfl
    · rfl
    · rfl
  · cases failed.symm.trans ended

end Replacement

theorem Action.places_of_failed (unlinked : tree.TemporaryUnlinked path)
    (failed : (replaceFile path content tree).result = .error fault) :
    ∀ change ∈ (replaceFile path content tree).changes, ∃ hole,
      tree.TemporaryPlace path hole ∧ change.places = [hole] := by
  cases planned : Replacement.plan path content tree with
  | error cause =>
    have nothing : (replaceFile path content tree).changes = [] := by
      simp [replaceFile, planned]
    simp [nothing]
  | ok replacement =>
    obtain ⟨aim, beside, _, _⟩ := Replacement.plan_eq_ok planned
    rw [replaceFile_eq planned] at failed ⊢
    intro change member
    obtain ⟨hole, slot, places⟩ :=
      Replacement.places_of_failed (unlinked _ _ aim beside) beside failed change member
    exact ⟨hole, ⟨_, _, _, aim, beside, slot⟩, places⟩

/-- Part of the new content stands in a file, with the permission bits of what is to be replaced if
that has any. -/
def Tree.Partly (tree : Tree) (path : String) (content : Text.Bytes) (entry : Entry) : Prop :=
  ∃ part mode, Entry.Takes part mode entry ∧ part <+: content ∧
    ∀ goal bits, tree.Goal path goal → (tree.find? goal).bind Entry.mode? = some bits →
      part = [] ∨ mode = bits

/-- A tree in which nothing is touched but the temporary file's place. -/
inductive Aside (tree : Tree) (path : String) (content : Text.Bytes) (after : Tree) : Prop where
  | same (unchanged : after = tree)
  | touched {hole : Place} {entry : Option Entry} (aside : tree.TemporaryPlace path hole)
      (outside : tree.isDirectory hole = false) (changed : ChangedAt tree hole entry after)
      (partly : ∀ there, entry = some there → tree.Partly path content there)

theorem TemporaryAt.partly {replacement : Replacement} {entry : Entry}
    (stands : TemporaryAt tree path replacement.target replacement.temporary hole)
    (wellFormed : tree.WellFormed) (bits : replacement.mode = tree.mode? replacement.target)
    (holding : replacement.Holding entry) : tree.Partly path replacement.content entry := by
  obtain ⟨part, mode, takes, front, marked⟩ := holding
  refine ⟨part, mode, takes, front, ?_⟩
  intro goal also aimed found
  have slot := stands.slot_of_goal wellFormed aimed
  exact marked also (by rw [bits, stands.mode?_target wellFormed slot, found])

/-- What can be seen of a replacement: either nothing is touched but the temporary file's place, or
everything is done and the new file stands at the goal. -/
theorem Action.replaceFile_underway (wellFormed : tree.WellFormed)
    (unlinked : tree.TemporaryUnlinked path) (content : Text.Bytes) (sizes : List Nat) :
    let deed := replaceFile path content tree
    let progress := Progress.run ⟨tree, deed.changes⟩ sizes
    (Aside tree path content progress.tree ∧
        (progress.pending = [] → ∃ fault, deed.result = .error fault)) ∨
      progress.pending = [] ∧ deed.result = .ok () ∧
        ∃ hole goal, tree.TemporaryPlace path hole ∧ tree.Goal path goal ∧
          progress.tree.resolve .find path = .ok (.existing goal) ∧
          Replaced tree hole goal content
            (((tree.find? goal).bind Entry.mode?).getD (tree.modeAnew hole)) progress.tree := by
  intro deed progress
  by_cases finished : progress.pending = []
  · have all : progress.tree = tree.applyAll deed.changes := Progress.run_finished finished
    simp only [finished, all, true_and, true_imp_iff]
    rcases replaceFile_goal wellFormed unlinked content with
      ⟨failed, ⟨same, _⟩ | ⟨hole, aside, outside, changed⟩⟩ |
      ⟨hole, goal, aside, aimed, ended, replaced⟩
    · exact .inl ⟨.same same, failed⟩
    · exact .inl ⟨.touched aside outside changed (by simp), failed⟩
    · exact .inr ⟨ended, hole, goal, aside, aimed, replaced⟩
  · refine .inl ⟨?_, fun done => (finished done).elim⟩
    cases planned : Replacement.plan path content tree with
    | error fault =>
      have nothing : deed.changes = [] := by
        simp [deed, replaceFile, planned]
      exact (finished (by simp [progress, nothing, Progress.run_nothing])).elim
    | ok replacement =>
      obtain ⟨aim, beside, bits, rfl⟩ := Replacement.plan_eq_ok planned
      have same : deed = replacement.carryOut tree := replaceFile_eq planned
      have clear := unlinked _ _ aim beside
      rcases Replacement.carryOut_underway clear beside with nothing |
        ⟨hole, last, slot, outside, closing, underway⟩
      · exact (finished (by simp [progress, same, nothing, Progress.run_nothing])).elim
      · have stands : TemporaryAt tree path replacement.target replacement.temporary hole :=
          ⟨aim, beside, slot, outside, clear hole false slot⟩
        rw [← same] at underway
        rcases (underway.run outside closing sizes).seen with done | before |
          ⟨entry, changed, holding⟩
        · exact (finished done).elim
        · exact .same before
        · refine .touched stands.temporaryPlace outside changed ?_
          rintro _ ⟨rfl⟩
          exact stands.partly wellFormed bits holding

/-- The temporary file of a save to a path is what the path leads to as soon as it is there: the path
is a link to its name. -/
def Tree.Exposed (tree : Tree) (path : String) : Prop :=
  ∃ hole, tree.TemporaryPlace path hole ∧ tree.find? hole = none ∧
    (tree.apply (.create hole)).locate .find path = .ok (.existing hole)

/-- If the name of the temporary file is free, a replacement begins with making it. -/
theorem Action.replaceFile_creates (aside : tree.TemporaryPlace path hole)
    (free : tree.find? hole = none) (content : Text.Bytes) :
    ∃ rest, (replaceFile path content tree).changes = .create hole :: rest := by
  obtain ⟨target, temporary, slashed, aim, beside, slot⟩ := aside
  obtain ⟨way, name, names⟩ := Path.names_of_sibling? beside
  obtain ⟨_, _, rfl, _⟩ := (Tree.slot_eq_ok_iff names).mp slot
  obtain ⟨replacement, planned, rfl⟩ : ∃ replacement,
      Replacement.plan path content tree = .ok replacement ∧ replacement.temporary = temporary :=
    ⟨_, Replacement.plan_of_sibling aim beside, rfl⟩
  have opened := opened_free (Tree.locate_free names slot free .create) free
  have plain (text : String) : tree.find? hole ≠ some (.link text) := by
    simp [free]
  obtain ⟨_, _, _, ⟨fault, undone⟩ | ⟨_, goal, _, _, moved⟩⟩ :=
    Replacement.carryOut_changes opened fun bits written after takes changed =>
      have still := changed.isDirectory_eq takes
      ⟨(changed.alike opened.outside still).slot_past plain names slot, still, written,
        changed.there⟩
  · rw [replaceFile_eq planned, undone, Replacement.writeTemporary_changes opened]
    exact ⟨_, rfl⟩
  · rw [replaceFile_eq planned, moved, Replacement.writeTemporary_changes opened]
    exact ⟨_, rfl⟩

/-- Only a link that leads to nothing can lead to the temporary file later. -/
theorem Tree.Exposed.dangling (exposed : tree.Exposed path) (wellFormed : tree.WellFormed) :
    tree.Dangling path := by
  obtain ⟨hole, aside, free, located⟩ := exposed
  by_contra sound
  have closed : ∀ place ∈ [hole], tree.isDirectory place = false := by
    simp [isDirectory, free]
  have alike := (AlikeBut.refl closed).create (List.mem_singleton_self hole)
  have made : (tree.apply (.create hole)).find? hole = some (.file [] newFileMode) :=
    (ChangedAt.put (ne_nil_of_outside (closed hole (List.mem_singleton_self hole)))).there
  refine aside.not_reached alike (by simp [free]) (by simp [made]) wellFormed sound ?_
  rw [← locate_of_usable (usable_of_locate located)]
  exact located

theorem ChangedAt.alike_of_partly {entry : Option Entry} (changed : ChangedAt tree hole entry after)
    (outside : tree.isDirectory hole = false)
    (partly : ∀ there, entry = some there → tree.Partly path content there) :
    AlikeBut [hole] tree after ∧ ∀ text, after.find? hole ≠ some (.link text) := by
  have takes (there : Entry) (found : after.find? hole = some there) :
      ∃ part mode, Entry.Takes part mode there := by
    obtain ⟨part, mode, takes, _⟩ := partly there (changed.there.symm.trans found)
    exact ⟨part, mode, takes⟩
  constructor
  · apply changed.alike outside
    rw [← Bool.not_eq_true, Tree.isDirectory_iff]
    rintro ⟨bits, found⟩
    obtain ⟨_, _, taken⟩ := takes _ found
    cases taken
  · intro text found
    obtain ⟨_, _, taken⟩ := takes _ found
    cases taken

namespace Aside

theorem find?_goal (aside : Aside tree path content after) (wellFormed : tree.WellFormed)
    (aimed : tree.Goal path goal) : after.find? goal = tree.find? goal := by
  cases aside with
  | same unchanged => rw [unchanged]
  | touched spot outside changed partly =>
    exact changed.elsewhere goal (spot.apart wellFormed aimed).symm

theorem mode {part : Text.Bytes} {mode bits : Nat} (aside : Aside tree path content after)
    (aimed : tree.Goal path goal) (found : (tree.find? goal).bind Entry.mode? = some bits)
    (there : after.find? place = some (.file part mode)) :
    after.find? place = tree.find? place ∨ part = [] ∨ mode = bits := by
  cases aside with
  | same unchanged => exact .inl (by rw [unchanged])
  | @touched hole entry _ _ changed partly =>
    by_cases same : place = hole
    · subst same
      obtain ⟨_, _, takes, _, marked⟩ := partly _ (changed.there.symm.trans there)
      cases takes
      exact .inr (marked goal bits aimed found)
    · exact .inl (changed.elsewhere place same)

theorem remove (aside : Aside tree path content after) (spot : tree.TemporaryPlace path hole)
    (outside : tree.isDirectory hole = false) :
    Aside tree path content (after.apply (.remove hole)) := by
  have below := Tree.ne_nil_of_outside outside
  have gone : ChangedAt after hole none (after.apply (.remove hole)) := ChangedAt.remove below
  cases aside with
  | same unchanged =>
    subst unchanged
    exact .touched spot outside gone (by simp)
  | touched also _ changed _ =>
    cases also.unique spot
    exact .touched spot outside (changed.trans gone) (by simp)

/-- What a path reads as stays, too, unless it is a path to the temporary file. -/
theorem content? (aside : Aside tree path content after) (wellFormed : tree.WellFormed)
    (unlinked : tree.TemporaryUnlinked path) (covered : ¬ tree.Exposed path) :
    after.content? path = tree.content? path := by
  cases aside with
  | same unchanged => rw [unchanged]
  | @touched hole entry spot outside changed partly =>
    obtain ⟨alike, still⟩ := changed.alike_of_partly outside partly
    have unreached : tree.resolve .find path ≠ .ok (.existing hole) := fun resolved =>
      spot.apart wellFormed (.inl resolved) rfl
    apply alike.content? (unlinked.not_link spot) still
    · intro located
      rw [Tree.locate_of_usable (Tree.usable_of_locate located)] at located
      exact unreached located
    · intro located
      have usable := Tree.usable_of_locate located
      rw [Tree.locate_of_usable usable] at located
      cases found : tree.find? hole with
      | some former =>
        have solid := Tree.solid_of_not_link found (unlinked.not_link spot)
        exact unreached (alike.resolve_hole still solid located)
      | none =>
        have listed := List.mem_singleton_self hole
        have alone : ∀ place ∈ [hole], tree.isDirectory place = false := by simpa using outside
        have made : (tree.apply (.create hole)).find? hole = some (.file [] newFileMode) :=
          (ChangedAt.put (Tree.ne_nil_of_outside outside)).there
        have parallel := ((AlikeBut.refl alone).create listed).symm.trans alike
        refine covered ⟨hole, spot, found, ?_⟩
        rw [Tree.locate_of_usable usable]
        exact parallel.resolve_hole still ⟨_, made, rfl⟩ located

end Aside

end PropertyStore.Files
