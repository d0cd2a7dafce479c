import PropertyStore.Proofs.Store.Written
import PropertyStore.Store.Operation

namespace PropertyStore

variable {key : String} {caller : Nat} {operation : Operation} {operations others : List Operation}
  {programs : Nat → List Operation}

namespace Store

theorem perform_setExpression (store : Store) (expression : String) :
    store.perform (.setExpression expression) =
      match splitExpression? expression with
      | some (key, value) => store.set key value
      | none => store := by
  rw [perform, setExpression]
  cases splitExpression? expression <;> rfl

theorem get?_perform (store : Store) (untouched : ¬ operation.Touches key) :
    (store.perform operation).get? key = store.get? key := by
  cases operation with
  | set other value => exact (store.get?_set other value key).trans (if_neg untouched)
  | setOptional other value => exact (store.get?_set other _ key).trans (if_neg untouched)
  | setBool other value => exact (store.get?_set other _ key).trans (if_neg untouched)
  | setExpression expression =>
    rw [perform_setExpression]
    cases split : splitExpression? expression with
    | none => rfl
    | some entry =>
      obtain ⟨other, value⟩ := entry
      have apart : other ≠ key := by
        rintro rfl
        exact untouched ⟨value, split⟩
      exact (store.get?_set other value key).trans (if_neg apart)
  | remove other => exact (store.get?_remove other key).trans (if_neg untouched)
  | clear => exact (untouched trivial).elim
  | merge entries =>
    exact store.properties.getElem?_overlay_of_absent entries fun value member =>
      untouched ⟨value, member⟩

/-- What an operation gives a key does not depend on the other keys. -/
theorem get?_perform_congr {first second : Store} (operation : Operation)
    (same : first.get? key = second.get? key) :
    (first.perform operation).get? key = (second.perform operation).get? key := by
  cases operation with
  | set other value => simp only [perform, get?_set, same]
  | setOptional other value => simp only [perform, setOptional, get?_set, same]
  | setBool other value => simp only [perform, setBool, get?_set, same]
  | setExpression expression =>
    rw [perform_setExpression, perform_setExpression]
    cases splitExpression? expression with
    | none => exact same
    | some entry => simp only [get?_set, same]
  | remove other => simp only [perform, get?_remove, same]
  | clear => simp only [perform, get?_clear]
  | merge entries => exact Properties.getElem?_overlay_congr entries same

theorem get?_performAll (store : Store)
    (untouched : ∀ operation ∈ operations, ¬ operation.Touches key) :
    (store.performAll operations).get? key = store.get? key := by
  induction operations generalizing store with
  | nil => rfl
  | cons operation rest ih =>
    rw [performAll_cons, ih _ fun other member => untouched other (List.mem_cons_of_mem _ member)]
    exact store.get?_perform (untouched operation List.mem_cons_self)

private theorem get?_performAll_congr {first second : Store} (operations : List Operation)
    (same : first.get? key = second.get? key) :
    (first.performAll operations).get? key = (second.performAll operations).get? key := by
  induction operations generalizing first second with
  | nil => exact same
  | cons operation rest ih => exact ih (get?_perform_congr operation same)

end Store

/-- A key that other callers do not touch ends as the one caller's program alone leaves it. -/
theorem Interleaving.get?_performAll (mixed : Interleaving programs operations)
    (untouched : ∀ other, other ≠ caller → ∀ operation ∈ programs other, ¬ operation.Touches key)
    (store : Store) :
    (store.performAll operations).get? key = (store.performAll (programs caller)).get? key := by
  induction mixed generalizing store with
  | done empty => rw [empty caller]
  | @step programs operation rest others acting next further ih =>
    have own : ∀ other, other ≠ caller →
        ∀ operation ∈ (if other = acting then rest else programs other),
          ¬ operation.Touches key := by
      intro other apart later member
      split at member
      · rename_i same
        apply untouched other apart later
        rw [same, next]
        exact List.mem_cons_of_mem _ member
      · exact untouched other apart later member
    have onward : ((store.perform operation).performAll others).get? key =
        ((store.perform operation).performAll
          (if caller = acting then rest else programs caller)).get? key :=
      ih own (store.perform operation)
    rw [Store.performAll_cons, onward]
    by_cases mine : caller = acting
    · rw [if_pos mine, mine, next]
      rfl
    · rw [if_neg mine]
      apply Store.get?_performAll_congr
      apply store.get?_perform
      exact untouched acting (Ne.symm mine) operation (by rw [next]; exact List.mem_cons_self)

namespace Store

/-- The entries that are read from a file after a successful save are the store's, each key with its
value once, in key order. -/
theorem ofFile_after_saveTo {tree : Files.Tree} {path : String} {entries : List Document.Entry}
    (store : Store) (time : Calendar) (wellFormed : tree.WellFormed)
    (saved : (store.saveTo tree path time.stamp).value = .ok ())
    (read : (Document.ofFile
      (tree.applyAll (store.saveTo tree path time.stamp).changes) path).value = .ok entries) :
    entries = store.toList := by
  obtain ⟨bytes, held, parsed⟩ := (Document.ofFile_eq_ok_iff _ path entries).mp read
  rw [store.content_after_saveTo wellFormed time.stamp saved held,
    Document.ofBytes_fileContent] at parsed
  exact (Except.ok.inj parsed).symm

private theorem properties_of_loadFile (store : Store) {empty loaded : Store} {tree : Files.Tree}
    {path : String} (time : Calendar) (wellFormed : tree.WellFormed) (blank : empty.properties = ∅)
    (saved : (store.saveTo tree path time.stamp).value = .ok ())
    (loads : (empty.loadFile
      (tree.applyAll (store.saveTo tree path time.stamp).changes) path).value = .ok loaded) :
    loaded.properties = store.properties := by
  rw [loadFile, load, Report.andThen_value] at loads
  cases read : (Document.ofFile
    (tree.applyAll (store.saveTo tree path time.stamp).changes) path).value with
  | error fault =>
    rw [read] at loads
    cases loads
  | ok entries =>
    rw [read, store.ofFile_after_saveTo time wellFormed saved read] at loads
    cases loads
    rw [merge, blank]
    exact Properties.ofEntries_toList store.properties

/-- What a store is saved to loads into an empty store as the same properties, if the path is not too
long to be opened and no link has the temporary file's name. In any case nothing else can be read
there. -/
def Reloads (store : Store) (tree : Files.Tree) (path : String) (time : Calendar) : Prop :=
  let saving := store.saveTo tree path time.stamp
  let after := tree.applyAll saving.changes
  saving.value = .ok () → ∀ empty : Store, empty.properties = ∅ →
    (tree.TemporaryUnlinked path → path.utf8ByteSize < Files.pathLimit →
      ∃ loaded, (empty.loadFile after path).value = .ok loaded) ∧
    (∀ loaded, (empty.loadFile after path).value = .ok loaded →
      loaded.properties = store.properties) ∧
    ∀ entries, (Document.ofFile after path).value = .ok entries → entries = store.toList

private theorem reloads (store : Store) {tree : Files.Tree} (wellFormed : tree.WellFormed)
    (path : String)
    (time : Calendar) : store.Reloads tree path time := by
  intro saved empty blank
  refine ⟨?_, fun loaded => store.properties_of_loadFile time wellFormed blank saved,
    fun entries => store.ofFile_after_saveTo time wellFormed saved⟩
  intro unlinked short
  obtain ⟨⟨loaded, loads, _⟩, _⟩ :=
    store.loadFile_after_saveTo empty time wellFormed unlinked short blank saved
  exact ⟨loaded, loads⟩

section Disjoint

variable (store : Store) {owns : Nat → String → Prop}
  (within : ∀ caller, ∀ operation ∈ programs caller, ∀ key, operation.Touches key → owns caller key)
  (mixed : Interleaving programs operations)

include within mixed

private theorem get?_of_unowned (free : ∀ caller, ¬ owns caller key) :
    (store.performAll operations).get? key = store.get? key := by
  have untouched (caller : Nat) : ∀ operation ∈ programs caller, ¬ operation.Touches key :=
    fun operation member touches => free caller (within caller operation member key touches)
  have lone : (store.performAll operations).get? key = (store.performAll (programs 0)).get? key :=
    mixed.get?_performAll (fun other _ => untouched other) store
  exact lone.trans (store.get?_performAll (untouched 0))

private theorem get?_of_owned
    (disjoint : ∀ key first second, owns first key → owns second key → first = second)
    (owned : owns caller key) :
    (store.performAll operations).get? key = (store.performAll (programs caller)).get? key := by
  apply mixed.get?_performAll
  intro other apart operation member touches
  exact apart (disjoint key other caller (within other operation member key touches) owned)

end Disjoint

/-- Callers whose operations are about different keys do not disturb each other: each leaves its
keys as it would alone, and others stay, whatever order the operations come in. What is then
saved loads as the same properties, where it can be loaded. -/
theorem performAll_of_disjoint (store : Store) {owns : Nat → String → Prop}
    (within : ∀ caller, ∀ operation ∈ programs caller, ∀ key,
      operation.Touches key → owns caller key)
    (disjoint : ∀ key first second, owns first key → owns second key → first = second)
    (mixed : Interleaving programs operations) :
    let final := store.performAll operations
    (∀ caller key, owns caller key →
        final.get? key = (store.performAll (programs caller)).get? key) ∧
      (∀ key, (∀ caller, ¬ owns caller key) → final.get? key = store.get? key) ∧
      (∀ others, Interleaving programs others →
        (store.performAll others).properties = final.properties) ∧
      ∀ tree path time, tree.WellFormed → final.Reloads tree path time := by
  intro final
  refine ⟨fun caller key owned => store.get?_of_owned within mixed disjoint owned,
    fun key free => store.get?_of_unowned within mixed free, ?_,
    fun tree path time wellFormed => final.reloads wellFormed path time⟩
  intro others also
  apply properties_eq_of_get?
  intro key
  by_cases free : ∀ caller, ¬ owns caller key
  · rw [store.get?_of_unowned within also free, store.get?_of_unowned within mixed free]
  · obtain ⟨caller, owned⟩ : ∃ caller, owns caller key := by simpa using free
    rw [store.get?_of_owned within also disjoint owned,
      store.get?_of_owned within mixed disjoint owned]

/-- Two callers, of whom one sets a property twice. -/
def pair (caller : Nat) : List Operation :=
  if caller = 0 then [.set "a" "1", .set "a" "2"]
  else if caller = 1 then [.setExpression "b=3", .remove "c"] else []

/-- The first of them has one key, the second the others. -/
def Owns (caller : Nat) (key : String) : Prop := caller = if key = "a" then 0 else 1

theorem performAll_of_disjoint_pair :
    let operations : List Operation :=
      [.set "a" "1", .setExpression "b=3", .set "a" "2", .remove "c"]
    let store := ({} : Store).set "c" "0"
    let final := store.performAll operations
    let saving := final.saveTo linkedTree "p" epoch.stamp
    Interleaving pair operations ∧ final.get? "a" = some "2" ∧ final.get? "b" = some "3" ∧
      final.get? "c" = none ∧ linkedTree.WellFormed ∧ saving.value = .ok () ∧
      ∃ loaded,
        (({} : Store).loadFile (linkedTree.applyAll saving.changes) "p").value = .ok loaded ∧
          loaded.properties = final.properties := by
  intro operations store final saving
  have mixed : Interleaving pair operations := by
    refine .step 0 rfl (.step 1 rfl (.step 0 rfl (.step 1 rfl (.done ?_))))
    intro caller
    by_cases first : caller = 0 <;> by_cases second : caller = 1 <;> simp [pair, first, second]
  have within : ∀ caller, ∀ operation ∈ pair caller, ∀ key, operation.Touches key →
      Owns caller key := by
    have split : splitExpression? "b=3" = some ("b", "3") := by decide +kernel
    intro caller operation member key touches
    rw [pair] at member
    split at member
    · rename_i first
      simp only [List.mem_cons, List.not_mem_nil, or_false] at member
      rcases member with rfl | rfl
      all_goals
        cases touches
        exact first
    · split at member
      · rename_i second
        simp only [List.mem_cons, List.not_mem_nil, or_false] at member
        rcases member with rfl | rfl
        · obtain ⟨value, also⟩ := touches
          cases split.symm.trans also
          exact second
        · cases touches
          exact second
      · cases member
  have disjoint : ∀ key first second, Owns first key → Owns second key → first = second :=
    fun key first second one other => one.trans other.symm
  obtain ⟨own, _, _, reloads⟩ := store.performAll_of_disjoint within disjoint mixed
  have ended : saving.value = .ok () := by
    decide +kernel
  obtain ⟨loads, same, _⟩ := reloads linkedTree "p" epoch linkedTree_wellFormed ended {} rfl
  obtain ⟨loaded, loads⟩ := loads linkedTree_temporaryFree.clear.unlinked (by decide)
  refine ⟨mixed, ?_, ?_, ?_, linkedTree_wellFormed, ended, loaded, loads, same loaded loads⟩
  · exact (own 0 "a" rfl).trans (by decide +kernel)
  · exact (own 1 "b" rfl).trans (by decide +kernel)
  · exact (own 1 "c" rfl).trans (by decide +kernel)

def lone (caller : Nat) : List Operation := if caller = 0 then [.set "k" "v"] else []

/-- A store is saved, and then cannot be loaded. -/
def Unread (store : Store) (tree : Files.Tree) (path : String) : Prop :=
  let saving := store.saveTo tree path epoch.stamp
  tree.WellFormed ∧ saving.value = .ok () ∧
    (({} : Store).loadFile (tree.applyAll saving.changes) path).value = .error (.unreadable path)

private theorem unread_mirrored : oneProperty.Unread mirroredTree "f" := by
  have gone : (mirroredTree.applyAll
      (oneProperty.saveTo mirroredTree "f" epoch.stamp).changes).content? "f" = none := by
    decide +kernel
  refine ⟨mirroredTree_wellFormed, by decide +kernel, ?_⟩
  rw [loadFile, load, Report.andThen_value, Document.ofFile, if_neg (by decide), gone]

/-- What is saved cannot be loaded by too long a path, nor if a link to the file has the temporary
file's name. -/
theorem performAll_unread :
    let final := ({} : Store).performAll [.set "k" "v"]
    Interleaving lone [.set "k" "v"] ∧ final.Unread plainTree (Files.Path.dotted 2048 "f") ∧
      final.Unread mirroredTree "f" := by
  intro final
  have mixed : Interleaving lone [.set "k" "v"] := by
    refine .step 0 rfl (.done ?_)
    intro caller
    by_cases first : caller = 0 <;> simp [lone, first]
  have same : final = oneProperty := rfl
  rw [same]
  exact ⟨mixed, ⟨plainTree_wellFormed, (saved_not_loaded (resolve_dotted 2048) long_dotted).2⟩,
    unread_mirrored⟩

end Store

end PropertyStore
