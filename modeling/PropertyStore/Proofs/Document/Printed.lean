import PropertyStore.Proofs.Document.Reading
import PropertyStore.Proofs.Document.Spelling

namespace PropertyStore.Document

open Grammar

def entryText (entry : Entry) : List Char :=
  escapeKey entry.1.toList ++ '=' :: escapeValue entry.2.toList

theorem entryLine_eq (entry : Entry) : entryLine entry = entryText entry ++ ['\n'] := by
  simp [entryLine, entryText]

theorem forms_escapeKey (key : List Char) : Forms false key (escapeKey key) := by
  induction key with
  | nil => exact .nil
  | cons c key ih => exact .cons (form_keyChar c) ih

private theorem forms_flatMap (text : List Char) : Forms true text (text.flatMap escapeChar) := by
  induction text with
  | nil => exact .nil
  | cons c text ih => exact .cons (form_escapeChar c) ih

theorem forms_escapeValue (value : List Char) : Forms true value (escapeValue value) := by
  unfold escapeValue
  split
  · rename_i rest
    exact .cons (.escaped ' ' (by decide) rfl (by decide)) (forms_flatMap rest)
  · exact forms_flatMap value

private theorem head_escapeValue (value : List Char) (first : (escapeValue value).head? = some c) :
    endsKey c = false := by
  rw [← Bool.not_eq_true]
  intro ends
  unfold escapeValue at first
  split at first
  · obtain rfl : '\\' = c := by simpa using first
    simp [endsKey_slash] at ends
  · rename_i noSpace
    obtain ⟨_, space⟩ := ((forms_flatMap value).head first).2.2 ends
    obtain ⟨rest, same⟩ := List.head?_eq_some_iff.mp space
    exact noSpace rest same

private theorem splits_entryText (entry : Entry) :
    Splits (entryText entry) (escapeKey entry.1.toList) (escapeValue entry.2.toList) := by
  have clear (c) (first : (escapeValue entry.2.toList).head? = some c) :=
    head_escapeValue entry.2.toList first
  refine ⟨_, (forms_escapeKey entry.1.toList).keyEnds (keyEnds_stop '=' _ (by decide)), ?_, ?_⟩
  · exact ⟨[], ['='], [], by simp, by simp, .inl rfl⟩
  · intro c first
    have stays := clear c first
    simp only [endsKey, Bool.or_eq_false_iff] at stays
    exact stays.2

theorem oneLine_entryText (entry : Entry) : Text.OneLine (entryText entry) :=
  (forms_escapeKey _).oneLine.append ((forms_escapeValue _).oneLine.cons (by decide))

private theorem head_entryText (entry : Entry) (first : (entryText entry).head? = some c) :
    c ≠ '#' ∧ c ≠ '!' ∧ Text.isBlank c = false := by
  unfold entryText at first
  cases key : (escapeKey entry.1.toList).head? with
  | none =>
    rw [List.head?_eq_none_iff.mp key] at first
    obtain rfl : '=' = c := by simpa using first
    decide
  | some d =>
    obtain rfl : d = c := by simpa [key] using first
    obtain ⟨noHash, noBang, ends⟩ := (forms_escapeKey entry.1.toList).head key
    have stays : endsKey d = false := Bool.eq_false_iff.mpr fun stop => by simpa using ends stop
    simp only [endsKey, Bool.or_eq_false_iff] at stays
    exact ⟨noHash, noBang, stays.2⟩

theorem dropBlanks_entryText (entry : Entry) :
    Text.dropBlanks (entryText entry) = entryText entry :=
  dropBlanks_append [] _ (by simp) fun _ first => (head_entryText entry first).2.2

theorem isIgnored_entryText (entry : Entry) : isIgnored (entryText entry) = false := by
  cases same : entryText entry with
  | nil => simp [entryText] at same
  | cons c rest =>
    obtain ⟨noHash, noBang, _⟩ := head_entryText entry (c := c) (by simp [same])
    simp [isIgnored, noHash, noBang]

theorem isContinued_entryText (entry : Entry) : isContinued (entryText entry) = false := by
  have key := (forms_escapeKey entry.1.toList).denotes.closed
  have value := (forms_escapeValue entry.2.toList).denotes.closed
  rw [entryText, isContinued_append _ _ key, isContinued_cons _ _ (by decide), value]

private theorem entry_entryText (number : Nat) (entry : Entry) :
    LogicalLine.entry ⟨number, entryText entry⟩ = .ok entry := by
  have splits := (splits_iff _ _ _).mp (splits_entryText entry)
  rw [entry_eq ⟨number, entryText entry⟩ splits, (forms_escapeKey _).denotes.unescape,
    (forms_escapeValue _).denotes.unescape]
  simp

private theorem joinLines_entryText (number : Nat) (entry : Entry) (lines : List (List Char)) :
    joinLines none number (entryText entry :: lines) =
      ⟨number, entryText entry⟩ :: joinLines none (number + 1) lines := by
  have something : isIgnored (Text.dropBlanks (entryText entry)) = false := by
    rw [dropBlanks_entryText, isIgnored_entryText]
  have closed : isContinued (Text.dropBlanks (entryText entry)) = false := by
    rw [dropBlanks_entryText, isContinued_entryText]
  rw [joinLines_begin _ _ _ something, joinLines_closed _ _ _ _ isContinued_nil closed,
    dropBlanks_entryText]
  rfl

theorem naturalLines_entryLines (entries : List Entry) :
    Text.naturalLines (entries.flatMap entryLine) = entries.map entryText ++ [[]] := by
  induction entries with
  | nil => rfl
  | cons entry entries ih =>
    have whole := oneLine_entryText entry
    have text : (entry :: entries).flatMap entryLine =
        entryText entry ++ '\n' :: entries.flatMap entryLine := by
      simp [entryLine_eq]
    rw [text, Text.naturalLines_append_feed _ _ whole.getLast?_ne_return, whole.naturalLines, ih]
    rfl

/-- The lines of properties read as the properties, whatever their number in the file. -/
theorem mapM_entry_entryLines (number : Nat) (entries : List Entry) :
    (joinLines none number (entries.map entryText ++ [[]])).mapM LogicalLine.entry =
      .ok entries := by
  induction entries generalizing number with
  | nil => rfl
  | cons entry entries ih =>
    rw [List.map_cons, List.cons_append, joinLines_entryText, List.mapM_cons, entry_entryText, ih]
    rfl

end PropertyStore.Document
