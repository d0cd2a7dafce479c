import PropertyStore.Proofs.Files.Linked
import PropertyStore.Proofs.Store.Holding

namespace PropertyStore.Store

open Files (Tree Place)
open Files.Path (dotted segments_dotted utf8ByteSize_dotted not_mem_dotted)

variable {tree : Tree} {path : String}

theorem temporaryPlace_empty (tree : Tree) (hole : Place) : ¬ tree.TemporaryPlace "" hole := by
  rintro ⟨target, temporary, _, aim, beside, _⟩
  have none : Files.Replacement.targetOf tree "" = .ok "" := rfl
  cases aim.symm.trans none
  cases beside

def SaveFault (path : String) (fault : Fault) : Prop :=
  if path = "" then fault = .emptyPath else ∃ cause, fault = .writeFailed path cause

/-- The permission bits of a file saved to a place: those of what it replaces, or those of a new
file. -/
def savedMode (tree : Tree) (goal : Place) (otherwise : Nat := Files.newFileMode) : Nat :=
  ((tree.find? goal).bind Files.Entry.mode?).getD otherwise

/-- What a save comes to: a failure after which nothing stands at the temporary file's place
unless a directory was there, or the store's file at the goal. -/
theorem saveTo_cases (store : Store) (wellFormed : tree.WellFormed)
    (clear : tree.TemporaryUnlinked path) (stamp : String) :
    let saving := store.saveTo tree path stamp
    let after := tree.applyAll saving.changes
    ((∃ fault, saving.value = .error fault ∧ SaveFault path fault) ∧
        ((after = tree ∧ ∀ hole, tree.TemporaryPlace path hole → tree.isDirectory hole) ∨
          ∃ hole, tree.TemporaryPlace path hole ∧ tree.isDirectory hole = false ∧
            Files.ChangedAt tree hole none after)) ∨
      ∃ hole goal, tree.TemporaryPlace path hole ∧ tree.Goal path goal ∧ saving.value = .ok () ∧
        after.resolve .find path = .ok (.existing goal) ∧
        Files.Replaced tree hole goal (store.fileContent stamp)
          (savedMode tree goal (tree.modeAnew hole)) after := by
  by_cases empty : path = ""
  · subst empty
    have failed : store.saveTo tree "" stamp = ⟨.error .emptyPath, []⟩ := rfl
    simp only [failed]
    refine .inl ⟨⟨_, rfl, rfl⟩, .inl ⟨rfl, ?_⟩⟩
    intro hole aside
    exact (temporaryPlace_empty tree hole aside).elim
  · obtain ⟨value, changes⟩ := store.saveTo_eq tree empty stamp
    simp only [value, changes]
    rcases Files.Action.replaceFile_goal wellFormed clear (store.fileContent stamp) with
      ⟨⟨cause, failed⟩, left⟩ | ⟨hole, goal, aside, aimed, ended, replaced⟩
    · rw [failed]
      refine .inl ⟨⟨_, rfl, ?_⟩, left⟩
      rw [SaveFault, if_neg empty]
      exact ⟨cause, rfl⟩
    · rw [ended]
      exact .inr ⟨hole, goal, aside, aimed, rfl, replaced⟩

/-- A save whose temporary file's name is free changes what stands at one place, and that only if
it succeeds: then the store's file stands where the path leads, with the permission bits of
what was there. The store itself is only read. -/
theorem saveTo_changes_goal (store : Store) (wellFormed : tree.WellFormed)
    (free : tree.TemporaryFree path) (stamp : String) :
    let saving := store.saveTo tree path stamp
    let after := tree.applyAll saving.changes
    after.workingDirectory = tree.workingDirectory ∧
      match saving.value with
      | .ok () => ∃ goal, tree.Goal path goal ∧
          after.find? goal = some (.file (store.fileContent stamp) (savedMode tree goal)) ∧
          ∀ place, place ≠ goal → after.find? place = tree.find? place
      | .error fault => (∀ place, after.find? place = tree.find? place) ∧ SaveFault path fault := by
  intro saving after
  rcases store.saveTo_cases wellFormed free.clear.unlinked stamp with
    ⟨⟨fault, failed, cause⟩, ⟨same, _⟩ | ⟨hole, aside, _, changed⟩⟩ |
    ⟨hole, goal, aside, aimed, ended, _, replaced⟩
  · simp only [saving, failed]
    rw [show after = tree from same]
    exact ⟨rfl, fun _ => rfl, cause⟩
  · simp only [saving, failed]
    refine ⟨changed.start, ?_, cause⟩
    intro place
    by_cases there : place = hole
    · rw [there]
      exact changed.there.trans (free hole aside).symm
    · exact changed.elsewhere place there
  · simp only [saving, ended]
    have bits : tree.modeAnew hole = Files.newFileMode := by
      simp [Tree.modeAnew, free hole aside]
    refine ⟨replaced.start, goal, aimed, bits ▸ replaced.there, ?_⟩
    intro place other
    by_cases there : place = hole
    · rw [there]
      exact replaced.gone.trans (free hole aside).symm
    · exact replaced.elsewhere place there other

private theorem linkedTree_goal : linkedTree.Goal "p" ["d", "real"] :=
  .inl (by decide)

theorem linkedTree_temporaryFree : linkedTree.TemporaryFree "p" := by
  have aside : linkedTree.TemporaryPlace "p" ["d", "real.tmp"] :=
    ⟨"/d/real", "/d/real.tmp", false, by decide, by decide, by decide⟩
  exact aside.free (by decide)

/-- A save through a link replaces the file that the link leads to and keeps its permission bits. -/
theorem saveTo_changes_goal_linked :
    let store := (ofPath "p").set "k" "v"
    let saving := store.saveTo linkedTree "p" "now"
    let after := linkedTree.applyAll saving.changes
    linkedTree.WellFormed ∧ linkedTree.TemporaryFree "p" ∧ saving.value = .ok () ∧
      after.find? ["d", "real"] = some (.file (store.fileContent "now") 0o600) ∧
      after.find? ["p"] = some (.link "d/real") := by
  intro store saving after
  have ended : saving.value = .ok () := by
    decide +kernel
  obtain ⟨_, effect⟩ :=
    store.saveTo_changes_goal linkedTree_wellFormed linkedTree_temporaryFree "now"
  rw [show (store.saveTo linkedTree "p" "now").value = _ from ended] at effect
  obtain ⟨goal, aimed, there, elsewhere⟩ := effect
  obtain rfl := aimed.unique linkedTree_goal
  have bits : savedMode linkedTree ["d", "real"] = 0o600 := by
    decide +kernel
  have link : linkedTree.find? ["p"] = some (.link "d/real") := by
    decide +kernel
  exact ⟨linkedTree_wellFormed, linkedTree_temporaryFree, ended, bits ▸ there,
    (elsewhere ["p"] (by decide)).trans link⟩

private theorem loadFile_of_saved (store loading : Store) (time : Calendar)
    (held : tree.content? path = some (store.fileContent time.stamp)) :
    let entries := store.properties.toList
    let merged := loading.merge entries
    loading.loadFile tree path = ⟨.ok merged, [.event (.fileRead path entries.length),
      .event (.merged entries.length merged.size)]⟩ := by
  intro entries merged
  have full : path ≠ "" := by
    rintro rfl
    rw [Document.content_empty] at held
    cases held
  have read : Document.ofFile tree path =
      ⟨.ok entries, [.event (.fileRead path entries.length)]⟩ := by
    rw [Document.ofFile, if_neg full, held]
    simp only [Access.granted, Document.ofStream_whole, Document.ofBytes_fileContent]
    rfl
  rw [loadFile, read]
  rfl

/-- What a save has written loads as the store's properties, and nothing of it has to be read as
ISO-8859-1. -/
theorem loadFile_after_saveTo (store empty : Store) (time : Calendar)
    (wellFormed : tree.WellFormed) (unlinked : tree.TemporaryUnlinked path)
    (short : path.utf8ByteSize < Files.pathLimit) (blank : empty.properties = ∅)
    (saved : (store.saveTo tree path time.stamp).value = .ok ()) :
    let after := tree.applyAll (store.saveTo tree path time.stamp).changes
    let loading := empty.loadFile after path
    (∃ loaded, loading.value = .ok loaded ∧ loaded.properties = store.properties) ∧
      ∀ fault, .event (.readAsLatin1 fault) ∉ loading.notices := by
  intro after loading
  rcases store.saveTo_cases wellFormed unlinked time.stamp with ⟨⟨fault, failed, _⟩, _⟩ |
    ⟨hole, goal, _, _, _, leads, replaced⟩
  · cases saved.symm.trans failed
  · have clean := ((after.resolve_eq_existing_iff path).mp leads).1
    have held := Tree.content_of_resolve ⟨clean, short⟩ leads replaced.there
    have same : (empty.merge store.properties.toList).properties = store.properties := by
      rw [merge, blank]
      exact Properties.ofEntries_toList _
    rw [show loading = _ from loadFile_of_saved store empty time held]
    exact ⟨⟨_, rfl, same⟩, by simp⟩

def oneProperty : Store := ({} : Store).set "k" "v"

def epoch : Calendar := ⟨1970, 1, 1, 4, 0, 0, 0, 0⟩

theorem loadFile_after_saveTo_linked :
    let saving := oneProperty.saveTo linkedTree "p" epoch.stamp
    linkedTree.WellFormed ∧ linkedTree.TemporaryUnlinked "p" ∧
      "p".utf8ByteSize < Files.pathLimit ∧ saving.value = .ok () ∧
      ∃ loaded, (({} : Store).loadFile (linkedTree.applyAll saving.changes) "p").value = .ok loaded ∧
        loaded.properties = oneProperty.properties := by
  intro saving
  have unlinked := linkedTree_temporaryFree.clear.unlinked
  have short : "p".utf8ByteSize < Files.pathLimit := by
    decide
  have ended : saving.value = .ok () := by
    decide +kernel
  have loads := oneProperty.loadFile_after_saveTo {} epoch linkedTree_wellFormed unlinked short rfl ended
  exact ⟨linkedTree_wellFormed, unlinked, short, ended, loads.1⟩

/-- A path that is too long for anything but resolving it leads to no content. -/
theorem content_of_long (tree : Tree) (long : Files.pathLimit ≤ path.utf8ByteSize) :
    tree.content? path = none := by
  cases held : tree.content? path with
  | none => rfl
  | some bytes =>
    have usable := (Tree.resolve_of_content held).1
    exact absurd usable.short (Nat.not_lt.mpr long)

def plainTree : Tree := ({} : Tree).put ([] ++ ["f"]) (.file [] 0o644)

theorem plainTree_wellFormed : plainTree.WellFormed :=
  Tree.wellFormed_empty.put (by decide) (isName_of "f" (by decide)) (by decide) _

theorem resolve_dotted (count : Nat) :
    plainTree.resolve .find (dotted count "f") = .ok (.existing ["f"]) := by
  have inside : plainTree.isDirectory [] := by
    decide
  have step : Files.IsStep "f" := (isName_of "f" (by decide)).step
  have found : plainTree.find? ([] ++ ["f"]) = some (.file [] 0o644) := by
    decide
  have idle : ∀ segment ∈ List.replicate count ".", Files.Path.isIdle segment := by
    intro segment member
    rw [List.eq_of_mem_replicate member]
    decide
  obtain ⟨all, bound, leads⟩ :=
    (Files.Leads.append_idle inside idle).append (.name inside step found rfl)
  have full : dotted count "f" ≠ "" := by
    intro empty
    have size := utf8ByteSize_dotted count "f"
    have one : "f".utf8ByteSize = 1 := by decide
    rw [empty, one, String.utf8ByteSize_empty] at size
    omega
  refine (plainTree.resolve_eq_existing_iff _).mpr
    ⟨not_mem_dotted count (by decide) (by decide) (by decide), full, all, ?_, ?_⟩
  · exact bound.trans (by decide)
  · have start : plainTree.origin (dotted count "f") = [] := by
      rw [Tree.origin]
      exact ite_self _
    rwa [start, segments_dotted count (by decide)]

theorem saveTo_plainTree (resolved : plainTree.resolve .find path = .ok (.existing ["f"])) :
    plainTree.TemporaryUnlinked path ∧
      (oneProperty.saveTo plainTree path epoch.stamp).value = .ok () := by
  have full : path ≠ "" := ((plainTree.resolve_eq_existing_iff path).mp resolved).2.1
  have aim : Files.Replacement.targetOf plainTree path = .ok "/f" :=
    Files.Replacement.targetOf_existing resolved
  have beside : Files.Path.sibling? "/f" Files.temporarySuffix = some "/f.tmp" := by
    decide
  have aside : plainTree.TemporaryPlace path ["f.tmp"] :=
    ⟨"/f", "/f.tmp", false, aim, beside, by decide⟩
  have free := aside.free (by decide)
  have carried : (Files.Replacement.carryOut ⟨"/f", "/f.tmp", plainTree.mode? "/f",
      oneProperty.fileContent epoch.stamp⟩ plainTree).result = .ok () := by
    decide
  refine ⟨free.clear.unlinked, ?_⟩
  rw [(oneProperty.saveTo_eq plainTree full epoch.stamp).1,
    Files.Action.replaceFile_eq (Files.Replacement.plan_of_sibling aim beside), carried]
  rfl

theorem saved_not_loaded (resolved : plainTree.resolve .find path = .ok (.existing ["f"]))
    (long : Files.pathLimit ≤ path.utf8ByteSize) :
    let saving := oneProperty.saveTo plainTree path epoch.stamp
    plainTree.TemporaryUnlinked path ∧ saving.value = .ok () ∧
      (({} : Store).loadFile (plainTree.applyAll saving.changes) path).value =
        .error (.unreadable path) := by
  obtain ⟨unlinked, saved⟩ := saveTo_plainTree resolved
  have full : path ≠ "" := ((plainTree.resolve_eq_existing_iff path).mp resolved).2.1
  refine ⟨unlinked, saved, ?_⟩
  rw [loadFile, load, Report.andThen_value, Document.ofFile, if_neg full, content_of_long _ long]

theorem long_dotted : Files.pathLimit ≤ (dotted 2048 "f").utf8ByteSize := by
  have one : "f".utf8ByteSize = 1 := by decide
  have size := utf8ByteSize_dotted 2048 "f"
  rw [one] at size
  have limit : Files.pathLimit = 4096 := rfl
  rw [limit]
  omega

/-- A path can be too long to be opened and still be saved to, as it need only be resolved: then
the saved file cannot be loaded by the same path. -/
theorem loadFile_after_saveTo_long :
    let path := dotted 2048 "f"
    let saving := oneProperty.saveTo plainTree path epoch.stamp
    plainTree.WellFormed ∧ plainTree.TemporaryUnlinked path ∧ saving.value = .ok () ∧
      (({} : Store).loadFile (plainTree.applyAll saving.changes) path).value =
        .error (.unreadable path) :=
  ⟨plainTree_wellFormed, saved_not_loaded (resolve_dotted 2048) long_dotted⟩

/-- A save leaves every entry but the one it replaces as it was, and puts the store's file in that
one's place if it succeeds. -/
def Harmless (store : Store) (tree : Tree) (path stamp : String) : Prop :=
  let saving := store.saveTo tree path stamp
  let after := tree.applyAll saving.changes
  (∀ place entry, ¬ tree.Goal path place → tree.find? place = some entry →
      after.find? place = some entry) ∧
    (saving.value = .ok () → ∃ goal mode, tree.Goal path goal ∧
      after.find? goal = some (.file (store.fileContent stamp) mode))

private theorem harmless_of_clear (store : Store) (wellFormed : tree.WellFormed)
    (clear : tree.TemporaryClear path) (stamp : String) : store.Harmless tree path stamp := by
  rcases store.saveTo_cases wellFormed clear.unlinked stamp with
    ⟨⟨fault, failed, _⟩, ⟨same, _⟩ | ⟨hole, aside, outside, changed⟩⟩ |
    ⟨hole, goal, aside, aimed, ended, _, replaced⟩
  · refine ⟨?_, by simp [failed]⟩
    intro place entry _ found
    rwa [same]
  · refine ⟨?_, by simp [failed]⟩
    intro place entry _ found
    rwa [changed.elsewhere place (clear.apart aside outside found)]
  · refine ⟨?_, fun _ => ⟨goal, _, aimed, replaced.there⟩⟩
    intro place entry other found
    have away : place ≠ goal := by
      rintro rfl
      exact other aimed
    rwa [replaced.elsewhere place (clear.apart aside replaced.closed.1 found) away]

/-- What stood under the name of the temporary file is gone, so there was nothing, or a
directory. -/
theorem Harmless.clear {store : Store} {stamp : String} (harmless : store.Harmless tree path stamp)
    (wellFormed : tree.WellFormed) : tree.TemporaryClear path := by
  intro hole aside
  by_contra occupied
  rw [not_or] at occupied
  obtain ⟨entry, found⟩ := Option.ne_none_iff_exists'.mp occupied.1
  have full : path ≠ "" := by
    rintro rfl
    exact temporaryPlace_empty tree hole aside
  have kept := harmless.1 hole entry (fun aimed => aside.apart wellFormed aimed rfl) found
  rw [(store.saveTo_eq tree full stamp).2, Files.Action.replaceFile_frees wellFormed aside
    (Bool.eq_false_iff.mpr occupied.2)] at kept
  cases kept

/-- A save does no harm if and only if nothing but a directory stands under the name of the
temporary file: what else stands there is written over, or what it leads to if it is a link, and
gone in the end. -/
theorem saveTo_harmless_iff (store : Store) (wellFormed : tree.WellFormed) (stamp : String) :
    store.Harmless tree path stamp ↔ tree.TemporaryClear path :=
  ⟨fun harmless => harmless.clear wellFormed, fun clear => store.harmless_of_clear wellFormed clear stamp⟩

theorem saveTo_harmless_iff_linked :
    linkedTree.WellFormed ∧ oneProperty.Harmless linkedTree "p" "now" :=
  ⟨linkedTree_wellFormed, (oneProperty.saveTo_harmless_iff linkedTree_wellFormed "now").mpr
    linkedTree_temporaryFree.clear⟩

/-- A file, another, and a link to the other under the name of the first one's temporary file. -/
def shadowedTree : Tree :=
  ((({} : Tree).put ([] ++ ["f"]) (.file (Text.Utf8.encode "a=1\n") 0o644)).put ([] ++ ["other"])
    (.file (Text.Utf8.encode "precious") 0o644)).put ([] ++ ["f.tmp"]) (.link "other")

/-- A save writes through a link that has the temporary file's name, and the link becomes what was
to be saved. -/
theorem saveTo_shadowed :
    let saving := oneProperty.saveTo shadowedTree "f" "now"
    let after := shadowedTree.applyAll saving.changes
    saving.value = .ok () ∧ after.find? ["f"] = some (.link "other") ∧
      after.find? ["other"] = some (.file (oneProperty.fileContent "now") 0o644) ∧
      after.find? ["f.tmp"] = none ∧ ¬ oneProperty.Harmless shadowedTree "f" "now" := by
  intro saving after
  have written : after.find? ["other"] = some (.file (oneProperty.fileContent "now") 0o644) := by
    decide +kernel
  refine ⟨by decide +kernel, by decide +kernel, written, by decide +kernel, ?_⟩
  intro harmless
  have aimed : shadowedTree.Goal "f" ["f"] := .inl (by decide +kernel)
  have other : ¬ shadowedTree.Goal "f" ["other"] := by
    intro also
    exact absurd (aimed.unique also) (by decide)
  have kept := harmless.1 ["other"] (.file (Text.Utf8.encode "precious") 0o644) other
    (by decide +kernel)
  have lost : some (Files.Entry.file (oneProperty.fileContent "now") 0o644) ≠
      some (.file (Text.Utf8.encode "precious") 0o644) := by
    decide +kernel
  exact lost (written.symm.trans kept)

end PropertyStore.Store
