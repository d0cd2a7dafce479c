import PropertyStore.Text.Line

namespace PropertyStore.Text

def OneLine (line : List Char) : Prop := ∀ c ∈ line, c ≠ '\n' ∧ c ≠ '\r'

instance (line : List Char) : Decidable (OneLine line) := List.decidableBAll _ line

/-- A text and its natural lines. LF, CR and CR LF end a line. -/
inductive Lines : List Char → List (List Char) → Prop where
  | last (whole : OneLine line) : Lines line [line]
  | feed (whole : OneLine line) (rest : Lines text lines) :
      Lines (line ++ '\n' :: text) (line :: lines)
  | returnFeed (whole : OneLine line) (rest : Lines text lines) :
      Lines (line ++ '\r' :: '\n' :: text) (line :: lines)
  | loneReturn (whole : OneLine line) (alone : text.head? ≠ some '\n') (rest : Lines text lines) :
      Lines (line ++ '\r' :: text) (line :: lines)

theorem unifyLineEnds_return (text : List Char) (alone : text.head? ≠ some '\n') :
    unifyLineEnds ('\r' :: text) = '\n' :: unifyLineEnds text := by
  cases text with
  | nil => rfl
  | cons c rest =>
    have other : c ≠ '\n' := by simpa using alone
    simp [unifyLineEnds, other]

theorem unifyLineEnds_cons (c : Char) (text : List Char) (other : c ≠ '\r') :
    unifyLineEnds (c :: text) = c :: unifyLineEnds text := by
  simp [unifyLineEnds, other]

/-- Line ends are unified part by part unless the cut divides a CR LF. -/
theorem unifyLineEnds_append (text rest : List Char)
    (apart : text.getLast? = some '\r' → rest.head? ≠ some '\n') :
    unifyLineEnds (text ++ rest) = unifyLineEnds text ++ unifyLineEnds rest := by
  fun_induction unifyLineEnds text with
  | case1 => rfl
  | case2 text ih =>
    cases text with
    | nil => simp [unifyLineEnds]
    | cons c text => simpa [unifyLineEnds] using ih (by simpa using apart)
  | case3 text alone ih =>
    cases text with
    | nil => simpa [unifyLineEnds] using unifyLineEnds_return rest (apart rfl)
    | cons c text =>
      have other : c ≠ '\n' := fun same => alone text (by rw [same])
      rw [List.cons_append, unifyLineEnds_return _ (by simpa using other),
        ih (by simpa using apart)]
      rfl
  | case4 c text _ other ih =>
    rw [List.cons_append, unifyLineEnds_cons _ _ other, List.cons_append]
    cases text with
    | nil => rfl
    | cons next text => rw [ih (by simpa using apart)]

theorem unifyLineEnds_eq_self {text : List Char} (plain : '\r' ∉ text) :
    unifyLineEnds text = text := by
  induction text with
  | nil => rfl
  | cons c rest ih =>
    obtain ⟨other, plain⟩ : c ≠ '\r' ∧ '\r' ∉ rest := by simpa [eq_comm] using plain
    rw [unifyLineEnds_cons c rest other, ih plain]

theorem OneLine.not_mem_return (whole : OneLine line) : '\r' ∉ line :=
  fun member => (whole _ member).2 rfl

theorem OneLine.unifyLineEnds (whole : OneLine line) : unifyLineEnds line = line :=
  unifyLineEnds_eq_self whole.not_mem_return

theorem OneLine.not_mem_feed (whole : OneLine line) : '\n' ∉ line :=
  fun member => (whole _ member).1 rfl

theorem OneLine.getLast?_ne_return (whole : OneLine line) : line.getLast? ≠ some '\r' :=
  fun last => (whole _ (List.mem_of_getLast? last)).2 rfl

theorem naturalLines_append_feed (text rest : List Char) (last : text.getLast? ≠ some '\r') :
    naturalLines (text ++ '\n' :: rest) = naturalLines text ++ naturalLines rest := by
  rw [naturalLines, unifyLineEnds_append _ _ fun same => absurd same last,
    unifyLineEnds_cons _ _ (by decide), List.splitOn_append_cons_self]
  rfl

theorem naturalLines_append_return (text rest : List Char) (alone : rest.head? ≠ some '\n') :
    naturalLines (text ++ '\r' :: rest) = naturalLines text ++ naturalLines rest := by
  rw [naturalLines, unifyLineEnds_append _ _ (by simp), unifyLineEnds_return _ alone,
    List.splitOn_append_cons_self]
  rfl

theorem naturalLines_append_returnFeed (text rest : List Char) :
    naturalLines (text ++ '\r' :: '\n' :: rest) = naturalLines text ++ naturalLines rest := by
  rw [naturalLines, unifyLineEnds_append _ _ (by simp), unifyLineEnds,
    List.splitOn_append_cons_self]
  rfl

theorem OneLine.naturalLines (whole : OneLine line) : naturalLines line = [line] := by
  rw [Text.naturalLines, whole.unifyLineEnds, List.splitOn_eq_singleton whole.not_mem_feed]

theorem Lines.eq_naturalLines (parsed : Lines text lines) : lines = naturalLines text := by
  induction parsed with
  | last whole => exact whole.naturalLines.symm
  | feed whole _ ih =>
    rw [naturalLines_append_feed _ _ whole.getLast?_ne_return, whole.naturalLines, ← ih]
    rfl
  | returnFeed whole _ ih =>
    rw [naturalLines_append_returnFeed, whole.naturalLines, ← ih]
    rfl
  | loneReturn whole alone _ ih =>
    rw [naturalLines_append_return _ _ alone, whole.naturalLines, ← ih]
    rfl

theorem oneLine_cons_iff : OneLine (c :: line) ↔ (c ≠ '\n' ∧ c ≠ '\r') ∧ OneLine line :=
  List.forall_mem_cons

theorem OneLine.cons (ordinary : c ≠ '\n' ∧ c ≠ '\r') (whole : OneLine line) :
    OneLine (c :: line) :=
  oneLine_cons_iff.mpr ⟨ordinary, whole⟩

theorem Lines.cons (ordinary : c ≠ '\n' ∧ c ≠ '\r') (parsed : Lines text lines) :
    ∃ line rest, lines = line :: rest ∧ Lines (c :: text) ((c :: line) :: rest) := by
  cases parsed with
  | last whole => exact ⟨_, _, rfl, .last (whole.cons ordinary)⟩
  | feed whole rest => exact ⟨_, _, rfl, .feed (whole.cons ordinary) rest⟩
  | returnFeed whole rest => exact ⟨_, _, rfl, .returnFeed (whole.cons ordinary) rest⟩
  | loneReturn whole alone rest => exact ⟨_, _, rfl, .loneReturn (whole.cons ordinary) alone rest⟩

private theorem exists_lines (text : List Char) : ∃ lines, Lines text lines := by
  have empty : OneLine [] := by simp [OneLine]
  fun_induction Text.unifyLineEnds text with
  | case1 => exact ⟨_, .last empty⟩
  | case2 text ih =>
    obtain ⟨lines, parsed⟩ := ih
    exact ⟨_, .returnFeed empty parsed⟩
  | case3 text alone ih =>
    obtain ⟨lines, parsed⟩ := ih
    refine ⟨_, .loneReturn empty ?_ parsed⟩
    intro head
    obtain ⟨rest, same⟩ := List.head?_eq_some_iff.mp head
    exact alone rest same
  | case4 c text _ other ih =>
    obtain ⟨lines, parsed⟩ := ih
    by_cases ends : c = '\n'
    · exact ⟨_, by simpa [ends] using Lines.feed empty parsed⟩
    · obtain ⟨_, _, _, extended⟩ := parsed.cons ⟨ends, other⟩
      exact ⟨_, extended⟩

/-- The reader finds exactly the lines of the grammar. -/
theorem lines_iff : Lines text lines ↔ naturalLines text = lines := by
  constructor
  · exact fun parsed => parsed.eq_naturalLines.symm
  · rintro rfl
    obtain ⟨lines, parsed⟩ := exists_lines text
    exact parsed.eq_naturalLines ▸ parsed

theorem Lines.oneLine (parsed : Lines text lines) : ∀ line ∈ lines, OneLine line := by
  induction parsed with
  | last whole => simpa using whole
  | feed whole _ ih => exact List.forall_mem_cons.mpr ⟨whole, ih⟩
  | returnFeed whole _ ih => exact List.forall_mem_cons.mpr ⟨whole, ih⟩
  | loneReturn whole _ _ ih => exact List.forall_mem_cons.mpr ⟨whole, ih⟩

theorem lines_intercalate {lines : List (List Char)} (present : lines ≠ [])
    (whole : ∀ line ∈ lines, OneLine line) : Lines (['\n'].intercalate lines) lines := by
  induction lines with
  | nil => exact (present rfl).elim
  | cons line rest ih =>
    obtain ⟨first, others⟩ := List.forall_mem_cons.mp whole
    cases rest with
    | nil => simpa using Lines.last first
    | cons next rest => simpa using Lines.feed first (ih (by simp) others)

theorem Lines.head?_iff (parsed : Lines text (line :: rest)) (ordinary : c ≠ '\n' ∧ c ≠ '\r') :
    text.head? = some c ↔ line.head? = some c := by
  obtain ⟨feed, back⟩ := ordinary
  cases parsed with
  | last whole => rfl
  | feed whole _ => cases line <;> simp [feed.symm]
  | returnFeed whole _ => cases line <;> simp [back.symm]
  | loneReturn whole _ _ => cases line <;> simp [back.symm]

theorem oneLine_append_iff : OneLine (line ++ other) ↔ OneLine line ∧ OneLine other :=
  List.forall_mem_append

theorem OneLine.append (whole : OneLine line) (rest : OneLine other) :
    OneLine (line ++ other) :=
  oneLine_append_iff.mpr ⟨whole, rest⟩

theorem OneLine.intercalate (mark : OneLine separator) (whole : ∀ part ∈ parts, OneLine part) :
    OneLine (separator.intercalate parts) := by
  induction parts with
  | nil =>
    intro c member
    cases member
  | cons part rest ih =>
    obtain ⟨first, others⟩ := List.forall_mem_cons.mp whole
    cases rest with
    | nil => rwa [List.intercalate_singleton]
    | cons next rest =>
      rw [List.intercalate_cons_cons]
      exact (first.append mark).append (ih others)

theorem oneLine_of_blank {blanks : List Char} (blank : ∀ c ∈ blanks, isBlank c = true) :
    OneLine blanks := by
  intro c member
  have blank := blank c member
  constructor <;> rintro rfl <;> cases blank

/-- Where two texts meet, the last line of the one and the first line of the other are one. -/
theorem Lines.append (left : Lines text (before ++ [start])) (right : Lines other (rest :: after))
    (plain : '\r' ∉ text) : Lines (text ++ other) (before ++ (start ++ rest) :: after) := by
  generalize same : before ++ [start] = lines at left
  induction left generalizing before with
  | @last line whole =>
    obtain ⟨rfl, rfl⟩ : before = [] ∧ start = line := by
      cases before <;> simp_all
    clear same plain
    induction start with
    | nil => simpa using right
    | cons c start ih =>
      have whole := List.forall_mem_cons.mp whole
      obtain ⟨first, lines, same, extended⟩ := (ih whole.2).cons whole.1
      obtain ⟨rfl, rfl⟩ : start ++ rest = first ∧ after = lines := by simpa using same
      exact extended
  | @feed line text lines whole tail ih =>
    cases before with
    | nil =>
      obtain ⟨rfl, rfl⟩ : start = line ∧ lines = [] := by simp_all
      cases tail
    | cons first before =>
      obtain ⟨rfl, others⟩ : first = line ∧ before ++ [start] = lines := by simpa using same
      simpa using Lines.feed whole (ih (by simp_all) others)
  | returnFeed => simp at plain
  | loneReturn => simp at plain

end PropertyStore.Text
