import PropertyStore.Proofs.Document.LogicalLine
import PropertyStore.Proofs.Document.Splitting
import PropertyStore.Proofs.Document.Token

namespace PropertyStore.Document

open Grammar

theorem body_iff (text body : List Char) : Body text body ↔ dropMark text = body := by
  constructor
  · rintro (_ | bare)
    · rfl
    · unfold dropMark
      split
      · simp at bare
      · rfl
  · rintro rfl
    unfold dropMark
    split
    · exact .marked
    · rename_i bare
      refine .plain fun head => ?_
      obtain ⟨rest, same⟩ := List.head?_eq_some_iff.mp head
      exact bare rest same

theorem dropMark_of_unmarked {text : List Char} (unmarked : text.head? ≠ some '\uFEFF') :
    dropMark text = text :=
  (body_iff text text).mp (.plain unmarked)

/-- The logical lines that the reader takes its entries from are those of the grammar. -/
theorem logicalLinesOf_iff (text : String) (logical : List LogicalLine) :
    LogicalLinesOf text logical ↔
      logicalLines (Text.naturalLines (dropMark text.toList)) = logical := by
  constructor
  · intro parts
    obtain ⟨body, lines, marked, parsed, joined⟩ := parts
    rw [body_iff] at marked
    rw [Text.lines_iff] at parsed
    rw [logicalLines_iff] at joined
    rw [marked, parsed]
    exact joined
  · intro same
    exact ⟨_, _, (body_iff _ _).mpr rfl, Text.lines_iff.mpr rfl, logicalLines_iff.mpr same⟩

theorem Grammar.LogicalLinesOf.closed (parsed : LogicalLinesOf text logical) :
    ∀ line ∈ logical, isContinued line.text = false := by
  rw [logicalLinesOf_iff] at parsed
  rw [← parsed]
  exact closed_of_mem_joinLines none 1 _ (by simp)

theorem closed_of_mem_logicalLines (text : String) :
    ∀ line ∈ logicalLines (Text.naturalLines (dropMark text.toList)),
      isContinued line.text = false :=
  ((logicalLinesOf_iff text _).mpr rfl).closed

theorem entry_eq (line : LogicalLine) (same : splitEntry line.text = (rawKey, rawValue)) :
    line.entry = match unescape rawKey, unescape rawValue with
      | .ok key, .ok value => .ok (String.ofList key, String.ofList value)
      | .error escape, _ => .error ⟨line.number, escape⟩
      | .ok _, .error escape => .error ⟨line.number, escape⟩ := by
  unfold LogicalLine.entry
  rw [same]
  dsimp only
  cases unescape rawKey <;> cases unescape rawValue <;> rfl

private theorem entry_cases (line : LogicalLine) (closed : isContinued line.text = false) :
    ∃ rawKey rawValue, Splits line.text rawKey rawValue ∧
      ((∃ key value, Denotes rawKey key ∧ Denotes rawValue value ∧
          line.entry = .ok (String.ofList key, String.ofList value)) ∨
        (∃ escape, FirstBad rawKey escape ∧ line.entry = .error ⟨line.number, escape⟩) ∨
        ∃ key escape, Denotes rawKey key ∧ FirstBad rawValue escape ∧
          line.entry = .error ⟨line.number, escape⟩) := by
  obtain ⟨rawKey, rawValue, same, splits⟩ := exists_splits line.text
  obtain ⟨keyClosed, valueClosed⟩ := splits.closed closed
  refine ⟨rawKey, rawValue, splits, ?_⟩
  rw [entry_eq line same]
  rcases denotes_or_firstBad _ keyClosed with ⟨key, denotes⟩ | ⟨escape, bad⟩
  · rcases denotes_or_firstBad _ valueClosed with ⟨value, denotes'⟩ | ⟨escape, bad⟩
    · exact .inl ⟨key, value, denotes, denotes', by rw [denotes.unescape, denotes'.unescape]⟩
    · exact .inr (.inr ⟨key, escape, denotes, bad, by rw [denotes.unescape, bad.unescape]⟩)
  · exact .inr (.inl ⟨escape, bad, by rw [bad.unescape]⟩)

theorem Grammar.Entries.eq_mapM (entries : Entries lines result) :
    lines.mapM LogicalLine.entry = result := by
  induction entries with
  | nil => rfl
  | entry splits key value _ ih =>
    rw [List.mapM_cons, ih, entry_eq _ ((splits_iff _ _ _).mp splits), key.unescape, value.unescape]
    rfl
  | later splits key value _ ih =>
    rw [List.mapM_cons, ih, entry_eq _ ((splits_iff _ _ _).mp splits), key.unescape, value.unescape]
    rfl
  | badKey splits bad =>
    rw [List.mapM_cons, entry_eq _ ((splits_iff _ _ _).mp splits), bad.unescape]
    rfl
  | badValue splits key bad =>
    rw [List.mapM_cons, entry_eq _ ((splits_iff _ _ _).mp splits), key.unescape, bad.unescape]
    rfl

private theorem entries_mapM (lines : List LogicalLine)
    (closed : ∀ line ∈ lines, isContinued line.text = false) :
    Entries lines (lines.mapM LogicalLine.entry) := by
  induction lines with
  | nil => exact .nil
  | cons line lines ih =>
    have rest := ih fun other member => closed other (by simp [member])
    obtain ⟨rawKey, rawValue, splits, outcome⟩ := entry_cases line (closed line (by simp))
    rw [List.mapM_cons]
    rcases outcome with ⟨key, value, denotes, denotes', same⟩ | ⟨escape, bad, same⟩ |
      ⟨key, escape, denotes, bad, same⟩
    · rw [same]
      cases read : lines.mapM LogicalLine.entry with
      | ok entries => exact .entry splits denotes denotes' (read ▸ rest)
      | error fault => exact .later splits denotes denotes' (read ▸ rest)
    · rw [same]
      exact .badKey splits bad
    · rw [same]
      exact .badValue splits denotes bad

theorem reads_iff (text : String) (result : Except Malformed (List Entry)) :
    Reads text result ↔ parse text = result := by
  constructor
  · intro reads
    obtain ⟨logical, lines, entries⟩ := reads
    rw [parse, (logicalLinesOf_iff text logical).mp lines]
    exact entries.eq_mapM
  · rintro rfl
    have lines := (logicalLinesOf_iff text _).mpr rfl
    exact ⟨_, lines, entries_mapM _ lines.closed⟩

private theorem entry_error_iff (line : LogicalLine) (closed : isContinued line.text = false) :
    (∃ fault, line.entry = .error fault) ↔
      ∃ key value, Splits line.text key value ∧ (HasBadEscape key ∨ HasBadEscape value) := by
  obtain ⟨rawKey, rawValue, same, splits⟩ := exists_splits line.text
  obtain ⟨keyClosed, valueClosed⟩ := splits.closed closed
  have only : (∃ key value, Splits line.text key value ∧ (HasBadEscape key ∨ HasBadEscape value)) ↔
      HasBadEscape rawKey ∨ HasBadEscape rawValue := by
    simp [splits_iff, same]
  rw [only, entry_eq line same, hasBadEscape_iff keyClosed, hasBadEscape_iff valueClosed]
  cases unescape rawKey <;> cases unescape rawValue <;> simp

theorem mapM_mapError {items : List α} {read : α → Except ε β} {other : α → Except ε' β}
    {f : ε → ε'} (same : ∀ item ∈ items, other item = (read item).mapError f) :
    items.mapM other = (items.mapM read).mapError f := by
  induction items with
  | nil => rfl
  | cons item items ih =>
    have first := same item List.mem_cons_self
    have rest := ih fun later member => same later (List.mem_cons_of_mem _ member)
    rw [List.mapM_cons, List.mapM_cons, first, rest]
    cases read item with
    | error fault => rfl
    | ok value => cases items.mapM read <;> rfl

private theorem mapM_error_iff (lines : List LogicalLine) :
    (∃ fault, lines.mapM LogicalLine.entry = .error fault) ↔
      ∃ line ∈ lines, ∃ fault, line.entry = .error fault := by
  induction lines with
  | nil => simp [pure, Except.pure]
  | cons line lines ih =>
    rw [List.mapM_cons]
    simp only [List.mem_cons, exists_eq_or_imp, ← ih]
    cases line.entry with
    | error fault => simp [bind, Except.bind]
    | ok entry =>
      cases lines.mapM LogicalLine.entry <;> simp [bind, Except.bind, pure, Except.pure]

/-- Reading comes to what the grammar says, on every text: to the entries of its logical lines
in order, or to the first fault with the number of the natural line that its logical line
begins on. It comes to a fault exactly if some raw key or raw value has a malformed escape. -/
theorem parse_iff_reads (text : String) (result : Except Malformed (List Entry)) :
    (parse text = result ↔ Reads text result) ∧
      ((∃ fault, parse text = .error fault) ↔
        ∃ logical, LogicalLinesOf text logical ∧ ∃ line ∈ logical, ∃ key value,
          Splits line.text key value ∧ (HasBadEscape key ∨ HasBadEscape value)) := by
  refine ⟨(reads_iff text result).symm, ?_⟩
  have lines := (logicalLinesOf_iff text _).mpr rfl
  have badLine (line) (member : line ∈ logicalLines (Text.naturalLines (dropMark text.toList))) :=
    entry_error_iff line (lines.closed line member)
  rw [parse, mapM_error_iff]
  constructor
  · intro found
    obtain ⟨line, member, failed⟩ := found
    exact ⟨_, lines, line, member, (badLine line member).mp failed⟩
  · intro found
    obtain ⟨logical, others, line, member, bad⟩ := found
    obtain rfl := (logicalLinesOf_iff text logical).mp others
    exact ⟨line, member, (badLine line member).mpr bad⟩

end PropertyStore.Document
