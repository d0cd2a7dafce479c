import PropertyStore.Proofs.Command.Ending

/-! Setting several properties at once. The expressions that state them are judged before any is
carried out, and one that is judged good cannot fail later. So all of them are set, or none. -/

namespace PropertyStore.Command

variable {tree : Files.Tree} {expressions : List String} {entries : List Document.Entry}

/-- The entries that expressions state, each with the key before the first `=` and the value after
it. -/
def Stated (expressions : List String) (entries : List Document.Entry) : Prop :=
  List.Forall₂ (fun expression entry =>
    '=' ∉ entry.1.toList ∧ expression = entry.1 ++ "=" ++ entry.2) expressions entries

private theorem exists_stated (complete : ∀ expression ∈ expressions, '=' ∈ expression.toList) :
    ∃ entries, Stated expressions entries := by
  induction expressions with
  | nil => exact ⟨[], .nil⟩
  | cons expression rest ih =>
    obtain ⟨entries, stated⟩ := ih fun other member => complete other (List.mem_cons_of_mem _ member)
    obtain ⟨entry, split⟩ := Store.exists_splitExpression? (complete expression List.mem_cons_self)
    exact ⟨entry :: entries, .cons ((Store.splitExpression?_eq_some_iff _ _ _).mp split) stated⟩

theorem Stated.filterMap (stated : Stated expressions entries) :
    expressions.filterMap Store.splitExpression? = entries := by
  induction stated with
  | nil => rfl
  | cons states _ ih =>
    rw [List.filterMap_cons_some ((Store.splitExpression?_eq_some_iff _ _ _).mpr states), ih]

private theorem merge_eq_foldl (store : Store) (entries : List Document.Entry) :
    store.merge entries = entries.foldl (fun current entry => current.set entry.1 entry.2) store := by
  induction entries generalizing store with
  | nil => rfl
  | cons entry rest ih => exact ih (store.set entry.1 entry.2)

/-- If an expression has no `=`, the first such is what the command fails for: the store is the same,
and there is no change of a file, no audit entry, nothing at all. Else no expression can fail, and the
store has what the expressions state, in order, the last one for a key winning. How the command ends
is then up to the save, and one that succeeds has written that store to its file. -/
theorem set_all_or_nothing (store : Store) (wellFormed : tree.WellFormed) (time : Calendar)
    (verbose auditAsObjects : Bool) (expressions : List String) :
    let setting : Setting := ⟨tree, time.stamp, verbose, auditAsObjects⟩
    let report := perform setting store (.set expressions)
    (∀ before bad after, expressions = before ++ bad :: after →
        (∀ expression ∈ before, '=' ∈ expression.toList) → '=' ∉ bad.toList →
        report = ⟨⟨store, .error (.store (.badExpression bad))⟩, []⟩) ∧
      ((∀ expression ∈ expressions, '=' ∈ expression.toList) →
        ∃ entries, Stated expressions entries ∧
          let after := entries.foldl (fun current entry => current.set entry.1 entry.2) store
          (InPlace.setExpressions expressions).run store = (.ok (), after) ∧
            (∀ key, after.get? key = (Document.lastValue? key entries).or (store.get? key)) ∧
            report.value =
              ⟨after, (guardedSave setting after).value.mapError Failure.store⟩ ∧
            (report.value.result = .ok () → OwnFileWritten setting after report.changes) ∧
            Document.ofBytes (after.fileContent time.stamp) = ⟨.ok after.properties.toList, []⟩) := by
  intro setting report
  constructor
  · intro before bad after whole complete without
    apply perform_set_bad setting store
    rw [whole, List.find?_append, List.find?_eq_none.mpr (by simpa using complete)]
    simp [without]
  · intro complete
    obtain ⟨entries, stated⟩ := exists_stated complete
    refine ⟨entries, stated, ?_⟩
    rw [← merge_eq_foldl]
    have reaches : (Command.set expressions).ReachesSave := complete
    have made : { store with properties := effect store.properties (.set expressions) } =
        store.merge entries := by
      rw [effect, stated.filterMap, Store.merge]
    obtain ⟨value, _⟩ := perform_reaching setting store reaches
    have written := perform_ok_iff_written (show setting.tree.WellFormed from wellFormed) store reaches
    rw [made] at value written
    refine ⟨?_, ?_, value, written.mp, Document.ofBytes_fileContent _ time⟩
    · rw [InPlace.run_setExpressions _ _ complete, stated.filterMap, Store.merge]
    · intro key
      exact store.properties.getElem?_overlay entries key

/-- A value may have a `=`, and a key may be empty. -/
theorem set_all_or_nothing_linked :
    let setting : Setting := ⟨linkedTree, Store.epoch.stamp, false, false⟩
    let store := Store.ofPath "p"
    let report := perform setting store (.set ["a=1", "=", "a=2=3"])
    linkedTree.WellFormed ∧ report.value.result = .ok () ∧
      report.value.store.get? "a" = some "2=3" ∧ report.value.store.get? "" = some "" ∧
      OwnFileWritten setting report.value.store report.changes ∧
      perform setting store (.set ["a=1", "b", "c"]) =
        ⟨⟨store, .error (.store (.badExpression "b"))⟩, []⟩ := by
  intro setting store report
  have ended : report.value.result = .ok () := by
    decide +kernel
  obtain ⟨_, sets⟩ := set_all_or_nothing store linkedTree_wellFormed Store.epoch false false
    ["a=1", "=", "a=2=3"]
  obtain ⟨entries, stated, _, values, value, written, _⟩ := sets (by decide)
  obtain rfl : [("a", "1"), ("", ""), ("a", "2=3")] = entries := by
    rw [← stated.filterMap]
    decide
  obtain ⟨turnsDown, _⟩ := set_all_or_nothing store linkedTree_wellFormed Store.epoch false false
    ["a=1", "b", "c"]
  rw [show report.value.store = _ from congrArg Outcome.store value]
  refine ⟨linkedTree_wellFormed, ended, values "a", values "", written ended, ?_⟩
  exact turnsDown ["a=1"] "b" ["c"] rfl (by decide) (by decide)

end PropertyStore.Command
