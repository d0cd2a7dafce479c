import Mathlib.Data.List.Induction
import PropertyStore.Document.LogicalLine

/-! Open ends. A text that ends in an odd number of backslashes escapes whatever follows it;
cut after any other text, a scanner starts afresh. -/

namespace PropertyStore.Document

/-- The text ends in an odd number of backslashes. -/
def OpenEnd (text : List Char) : Prop :=
  ∃ before count, text = before ++ List.replicate count '\\' ∧
    before.getLast? ≠ some '\\' ∧ count % 2 = 1

def EvenEnd (text : List Char) : Prop :=
  ∃ before count, text = before ++ List.replicate count '\\' ∧
    before.getLast? ≠ some '\\' ∧ count % 2 = 0

theorem isContinued_nil : isContinued [] = false := rfl

theorem isContinued_concat (text : List Char) (c : Char) :
    isContinued (text ++ [c]) = (c == '\\' && !isContinued text) := by
  by_cases slash : c = '\\'
  · subst c
    simp only [isContinued, List.reverse_append, List.reverse_singleton, List.singleton_append,
      List.takeWhile_cons, beq_self_eq_true, if_true, List.length_cons, Bool.true_and]
    rcases Nat.mod_two_eq_zero_or_one
      (List.takeWhile (fun c => c == '\\') text.reverse).length with even | odd
    · simp [even, Nat.add_mod]
    · simp [odd, Nat.add_mod]
  · simp [isContinued, slash]

/-- What stands before a closed text has no say in how a text ends. -/
theorem isContinued_append (before text : List Char) (closed : isContinued before = false) :
    isContinued (before ++ text) = isContinued text := by
  induction text using List.reverseRecOn with
  | nil => simpa [isContinued_nil] using closed
  | append_singleton text c ih => rw [← List.append_assoc, isContinued_concat, isContinued_concat, ih]

@[simp] theorem isContinued_slash : isContinued ['\\'] = true := by
  simpa [isContinued_nil] using isContinued_concat [] '\\'

@[simp] theorem isContinued_escape (c : Char) (text : List Char) :
    isContinued ('\\' :: c :: text) = isContinued text := by
  refine isContinued_append ['\\', c] text ?_
  simpa using isContinued_concat ['\\'] c

theorem isContinued_cons (c : Char) (text : List Char) (ordinary : c ≠ '\\') :
    isContinued (c :: text) = isContinued text := by
  refine isContinued_append [c] text ?_
  rw [← List.nil_append [c], isContinued_concat]
  simp [ordinary]

theorem isContinued_of_plain (text : List Char) (plain : ∀ c ∈ text, c ≠ '\\') :
    isContinued text = false := by
  induction text with
  | nil => rfl
  | cons c rest ih =>
    rw [isContinued_cons c rest (plain c (by simp))]
    exact ih fun other member => plain other (by simp [member])

theorem isContinued_dropLast (text : List Char) (opened : isContinued text = true) :
    isContinued text.dropLast = false ∧ text = text.dropLast ++ ['\\'] := by
  rcases List.eq_nil_or_concat text with rfl | ⟨before, c, rfl⟩
  · simp [isContinued_nil] at opened
  · rw [List.concat_eq_append, isContinued_concat] at opened
    obtain ⟨slash, closed⟩ : c = '\\' ∧ isContinued before = false := by simpa using opened
    simpa [slash] using closed

private theorem isContinued_replicate (before : List Char) (count : Nat)
    (clear : before.getLast? ≠ some '\\') :
    isContinued (before ++ List.replicate count '\\') = (count % 2 == 1) := by
  induction count with
  | zero =>
    rcases List.eq_nil_or_concat before with rfl | ⟨start, c, rfl⟩
    · rfl
    · have other : c ≠ '\\' := by simpa using clear
      simp [List.concat_eq_append, isContinued_concat, other]
  | succ count ih =>
    rw [List.replicate_succ', ← List.append_assoc, isContinued_concat, ih]
    rcases Nat.mod_two_eq_zero_or_one count with even | odd
    · simp [even, Nat.add_mod]
    · simp [odd, Nat.add_mod]

private theorem exists_replicate (text : List Char) :
    ∃ before count, text = before ++ List.replicate count '\\' ∧ before.getLast? ≠ some '\\' := by
  induction text using List.reverseRecOn with
  | nil => exact ⟨[], 0, rfl, by simp⟩
  | append_singleton text c ih =>
    by_cases slash : c = '\\'
    · obtain ⟨before, count, same, clear⟩ := ih
      refine ⟨before, count + 1, ?_, clear⟩
      rw [same, slash, List.replicate_succ', List.append_assoc]
    · exact ⟨text ++ [c], 0, by simp, by simpa using slash⟩

theorem isContinued_iff_openEnd (text : List Char) : isContinued text = true ↔ OpenEnd text := by
  constructor
  · intro opened
    obtain ⟨before, count, rfl, clear⟩ := exists_replicate text
    rw [isContinued_replicate before count clear] at opened
    exact ⟨before, count, rfl, clear, by simpa using opened⟩
  · intro opened
    obtain ⟨before, count, rfl, clear, odd⟩ := opened
    rw [isContinued_replicate before count clear]
    simpa using odd

theorem evenEnd_of_closed (text : List Char) (closed : isContinued text = false) :
    EvenEnd text := by
  obtain ⟨before, count, rfl, clear⟩ := exists_replicate text
  rw [isContinued_replicate before count clear] at closed
  exact ⟨before, count, rfl, clear, by simpa using closed⟩

end PropertyStore.Document
