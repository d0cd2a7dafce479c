import PropertyStore.Proofs.Document.Grammar

/-! Logical lines by the grammar. The reader looks at the end of the text that it has joined so
far, the grammar at the end of the last natural line; the two agree because what is joined
before a line never has an open end. -/

namespace PropertyStore.Document

open Grammar

theorem isIgnored_iff (line : List Char) :
    isIgnored (Text.dropBlanks line) = true ↔ HoldsNothing line := by
  cases same : Text.dropBlanks line with
  | nil => simp [isIgnored, HoldsNothing, same]
  | cons c rest => simp [isIgnored, HoldsNothing, same]

theorem joinLines_ignored (number : Nat) (line : List Char) (lines : List (List Char))
    (nothing : isIgnored (Text.dropBlanks line) = true) :
    joinLines none number (line :: lines) = joinLines none (number + 1) lines := by
  simp [joinLines, LogicalLine.extend?, nothing]

/-- A line that holds something is read as if it continued an empty line of its number. -/
theorem joinLines_begin (number : Nat) (line : List Char) (lines : List (List Char))
    (something : isIgnored (Text.dropBlanks line) = false) :
    joinLines none number (line :: lines) =
      joinLines (some ⟨number, []⟩) number (line :: lines) := by
  simp [joinLines, LogicalLine.extend?, something]

theorem joinLines_closed (begun : LogicalLine) (number : Nat) (line : List Char)
    (lines : List (List Char)) (clear : isContinued begun.text = false)
    (closed : isContinued (Text.dropBlanks line) = false) :
    joinLines (some begun) number (line :: lines) =
      ⟨begun.number, begun.text ++ Text.dropBlanks line⟩ :: joinLines none (number + 1) lines := by
  simp [joinLines, LogicalLine.extend?, isContinued_append _ _ clear, closed]

theorem joinLines_opened (begun : LogicalLine) (number : Nat) (line : List Char)
    (lines : List (List Char)) (clear : isContinued begun.text = false)
    (opened : isContinued (Text.dropBlanks line) = true) :
    joinLines (some begun) number (line :: lines) =
      joinLines (some ⟨begun.number, begun.text ++ (Text.dropBlanks line).dropLast⟩)
        (number + 1) lines := by
  have nonempty : Text.dropBlanks line ≠ [] := by
    intro empty
    simp [empty, isContinued_nil] at opened
  simp [joinLines, LogicalLine.extend?, isContinued_append _ _ clear, opened,
    List.dropLast_append_of_ne_nil nonempty]

private theorem isContinued_waiting (begun line : List Char) (clear : isContinued begun = false)
    (opened : isContinued line = true) : isContinued (begun ++ line.dropLast) = false := by
  rw [isContinued_append _ _ clear]
  exact (isContinued_dropLast line opened).1

private theorem joinLines_joins (joins : Joins block text cut) (atEnd : cut = true → lines = [])
    (begun : LogicalLine) (number : Nat) (clear : isContinued begun.text = false) :
    joinLines (some begun) number (block ++ lines) =
      ⟨begun.number, begun.text ++ text⟩ :: joinLines none (number + block.length) lines := by
  induction joins generalizing begun number with
  | whole closed =>
    rw [← isContinued_iff_openEnd, Bool.not_eq_true] at closed
    exact joinLines_closed begun number _ lines clear closed
  | cut opened =>
    rw [← isContinued_iff_openEnd] at opened
    rw [atEnd rfl, List.append_nil, joinLines_opened begun number _ [] clear opened]
    rfl
  | goesOn opened rest ih =>
    rw [← isContinued_iff_openEnd] at opened
    rw [List.cons_append, joinLines_opened begun number _ _ clear opened,
      ih atEnd _ _ (isContinued_waiting _ _ clear opened)]
    simp [Nat.add_comm, Nat.add_left_comm]

theorem Grammar.LogicalLines.eq_joinLines (parsed : LogicalLines number lines logical) :
    logical = joinLines none number lines := by
  induction parsed with
  | nil => rfl
  | ignored nothing _ ih => rw [ih, joinLines_ignored _ _ _ ((isIgnored_iff _).mpr nothing)]
  | @joined line more text cut lines number logical something joins atEnd _ ih =>
    rw [← isIgnored_iff, Bool.not_eq_true] at something
    have joined := joinLines_joins joins atEnd ⟨number, []⟩ number isContinued_nil
    rw [List.cons_append, joinLines_begin _ _ _ something, ← List.cons_append, joined, ih]
    rfl

/-- Natural lines begin with some that make one logical line. -/
theorem exists_joins (line : List Char) (lines : List (List Char)) :
    ∃ more rest text cut, lines = more ++ rest ∧ Joins (line :: more) text cut ∧
      (cut = true → rest = []) := by
  induction lines generalizing line with
  | nil =>
    by_cases opened : OpenEnd (Text.dropBlanks line)
    · exact ⟨[], [], _, _, rfl, .cut opened, fun _ => rfl⟩
    · exact ⟨[], [], _, _, rfl, .whole opened, fun _ => rfl⟩
  | cons next lines ih =>
    by_cases opened : OpenEnd (Text.dropBlanks line)
    · obtain ⟨more, rest, text, cut, rfl, joins, atEnd⟩ := ih next
      exact ⟨next :: more, rest, _, cut, rfl, .goesOn opened joins, atEnd⟩
    · exact ⟨[], next :: lines, _, _, rfl, .whole opened, by simp⟩

private theorem exists_logicalLines (number : Nat) (lines : List (List Char)) :
    ∃ logical, LogicalLines number lines logical := by
  induction length : lines.length using Nat.strongRecOn generalizing number lines with
  | ind size ih =>
    cases lines with
    | nil => exact ⟨[], .nil⟩
    | cons line lines =>
      by_cases nothing : HoldsNothing line
      · obtain ⟨logical, parsed⟩ := ih lines.length (by simp [← length]) (number + 1) lines rfl
        exact ⟨logical, .ignored nothing parsed⟩
      · obtain ⟨more, rest, text, cut, rfl, joins, atEnd⟩ := exists_joins line lines
        have shorter : rest.length < size := by
          simp only [← length, List.length_cons, List.length_append]
          omega
        obtain ⟨logical, parsed⟩ := ih rest.length shorter (number + (line :: more).length) rest rfl
        exact ⟨_, .joined nothing joins atEnd parsed⟩

/-- The reader joins exactly the logical lines of the grammar. -/
theorem logicalLines_iff : LogicalLines number lines logical ↔
    joinLines none number lines = logical := by
  constructor
  · exact fun parsed => parsed.eq_joinLines.symm
  · rintro rfl
    obtain ⟨logical, parsed⟩ := exists_logicalLines number lines
    exact parsed.eq_joinLines ▸ parsed

/-- A line that belongs to a property continues a line that is begun, if only an empty one. -/
theorem joinLines_belongs (waiting : Option LogicalLine) (number : Nat) {line : List Char}
    (lines : List (List Char)) (belongs : waiting = none → ¬ HoldsNothing line) :
    joinLines waiting number (line :: lines) =
      joinLines (some (waiting.getD ⟨number, []⟩)) number (line :: lines) := by
  cases waiting with
  | some begun => rfl
  | none =>
    have something : isIgnored (Text.dropBlanks line) = false := by
      simpa [← isIgnored_iff] using belongs rfl
    exact joinLines_begin number line lines something

theorem isContinued_getD {waiting : Option LogicalLine} (number : Nat)
    (clear : ∀ begun ∈ waiting, isContinued begun.text = false) :
    isContinued (waiting.getD ⟨number, []⟩).text = false := by
  cases waiting with
  | some begun => exact clear begun rfl
  | none => exact isContinued_nil

/-- What one natural line does to the joining: it completes at most one logical line and hands
on at most one, none if it has no open end and one if it has and belongs to a property. -/
theorem joinLines_step (waiting : Option LogicalLine) (number : Nat) (line : List Char)
    (clear : ∀ begun ∈ waiting, isContinued begun.text = false) :
    ∃ completed next,
      (∀ lines, joinLines waiting number (line :: lines) =
        completed ++ joinLines next (number + 1) lines) ∧
      (∀ joined ∈ completed, isContinued joined.text = false) ∧
      (∀ begun ∈ next, isContinued begun.text = false) ∧
      (isContinued (Text.dropBlanks line) = false → next = none) ∧
      ((waiting = none → ¬ HoldsNothing line) → OpenEnd (Text.dropBlanks line) → next ≠ none) := by
  by_cases belongs : waiting = none → ¬ HoldsNothing line
  · have clear := isContinued_getD number clear
    have same (lines : List (List Char)) := joinLines_belongs waiting number lines belongs
    cases opened : isContinued (Text.dropBlanks line) with
    | false =>
      have closed : ¬ OpenEnd (Text.dropBlanks line) := by simp [← isContinued_iff_openEnd, opened]
      refine ⟨[_], none, fun lines =>
        (same lines).trans (joinLines_closed _ number line lines clear opened), ?_, by simp,
        fun _ => rfl, fun _ ends => absurd ends closed⟩
      simpa [isContinued_append _ _ clear] using opened
    | true =>
      refine ⟨[], some _, fun lines =>
        (same lines).trans (joinLines_opened _ number line lines clear opened), by simp, ?_,
        by simp, by simp⟩
      simpa using isContinued_waiting _ _ clear opened
  · obtain ⟨rfl, nothing⟩ : waiting = none ∧ HoldsNothing line := by simpa using belongs
    have ignored := (isIgnored_iff line).mpr nothing
    exact ⟨[], none, fun lines => joinLines_ignored number line lines ignored, by simp, by simp,
      fun _ => rfl, fun something _ => absurd nothing (something rfl)⟩

theorem closed_of_mem_joinLines (waiting : Option LogicalLine) (number : Nat)
    (lines : List (List Char)) (clear : ∀ begun ∈ waiting, isContinued begun.text = false) :
    ∀ line ∈ joinLines waiting number lines, isContinued line.text = false := by
  induction lines generalizing waiting number with
  | nil => simpa [joinLines] using clear
  | cons line lines ih =>
    obtain ⟨completed, next, same, closed, nextClear, _⟩ :=
      joinLines_step waiting number line clear
    rw [same]
    intro joined member
    exact (List.mem_append.mp member).elim (closed joined) (ih next (number + 1) nextClear joined)

theorem joinLines_append (waiting : Option LogicalLine) (number : Nat)
    (lines : List (List Char)) (last : List Char) (rest : List (List Char))
    (clear : ∀ begun ∈ waiting, isContinued begun.text = false)
    (closed : isContinued (Text.dropBlanks last) = false) :
    joinLines waiting number (lines ++ last :: rest) =
      joinLines waiting number (lines ++ [last]) ++
        joinLines none (number + (lines.length + 1)) rest := by
  induction lines generalizing waiting number with
  | nil =>
    obtain ⟨completed, next, same, _, _, stops, _⟩ := joinLines_step waiting number last clear
    obtain rfl := stops closed
    simp [same, joinLines]
  | cons line lines ih =>
    obtain ⟨completed, next, same, _, nextClear, _⟩ := joinLines_step waiting number line clear
    rw [List.cons_append, List.cons_append, same, same, ih next (number + 1) nextClear,
      List.append_assoc]
    simp [Nat.add_assoc, Nat.add_comm 1]

private theorem joinLines_some_ne_nil (begun : LogicalLine) (number : Nat)
    (lines : List (List Char)) :
    joinLines (some begun) number lines ≠ [] := by
  induction lines generalizing begun number with
  | nil => simp [joinLines]
  | cons line lines ih =>
    simp only [joinLines, LogicalLine.extend?]
    split
    · exact ih _ _
    · simp

theorem joinLines_eq_nil_iff (number : Nat) (lines : List (List Char)) :
    joinLines none number lines = [] ↔ ∀ line ∈ lines, HoldsNothing line := by
  induction lines generalizing number with
  | nil => simp [joinLines]
  | cons line lines ih =>
    cases nothing : isIgnored (Text.dropBlanks line) with
    | true =>
      have first := (isIgnored_iff line).mp nothing
      simp [joinLines_ignored _ _ _ nothing, ih, first]
    | false =>
      have first : ¬ HoldsNothing line := by simp [← isIgnored_iff, nothing]
      rw [joinLines_begin _ _ _ nothing]
      simp [joinLines_some_ne_nil, first]

theorem joinLines_ignored_append (number : Nat) (lines rest : List (List Char))
    (nothing : ∀ line ∈ lines, HoldsNothing line) :
    joinLines none number (lines ++ rest) = joinLines none (number + lines.length) rest := by
  induction lines generalizing number with
  | nil => rfl
  | cons line lines ih =>
    have first := (isIgnored_iff line).mpr (nothing line (by simp))
    rw [List.cons_append, joinLines_ignored _ _ _ first,
      ih _ fun other member => nothing other (by simp [member])]
    simp [Nat.add_assoc, Nat.add_comm 1]

end PropertyStore.Document
