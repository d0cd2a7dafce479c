import PropertyStore.Proofs.Document.Grammar

namespace PropertyStore.Document

open Grammar

theorem endsKey_slash : endsKey '\\' = false := by decide

private theorem keyEnds_nil : KeyEnds [] [] [] where
  whole := rfl
  first := by simp
  stops := by simp

theorem keyEnds_stop (c : Char) (rest : List Char) (ends : endsKey c = true) :
    KeyEnds (c :: rest) [] (c :: rest) where
  whole := rfl
  first := by simp
  stops := by
    rintro _ ⟨rfl⟩
    exact ⟨ends, by simp [← isContinued_iff_openEnd, isContinued_nil]⟩

theorem Grammar.KeyEnds.escape (ends : KeyEnds rest key after) (c : Char) :
    KeyEnds ('\\' :: c :: rest) ('\\' :: c :: key) after where
  whole := by simp [ends.whole]
  first := by
    intro before d tail same stop
    match before with
    | [] =>
      obtain ⟨rfl, _⟩ : d = '\\' ∧ c :: key = tail := by simpa [eq_comm] using same
      simp [endsKey_slash] at stop
    | [slash] =>
      obtain ⟨rfl, _⟩ := List.cons.inj same
      exact (isContinued_iff_openEnd _).mp isContinued_slash
    | slash :: first :: before =>
      obtain ⟨rfl, rfl, inner⟩ : '\\' = slash ∧ c = first ∧ key = before ++ d :: tail := by
        simpa using same
      rw [← isContinued_iff_openEnd, isContinued_escape, isContinued_iff_openEnd]
      exact ends.first before d tail inner stop
  stops := by
    intro d head
    rw [← isContinued_iff_openEnd, isContinued_escape, isContinued_iff_openEnd]
    exact ends.stops d head

theorem Grammar.KeyEnds.literal (ends : KeyEnds rest key after) (c : Char) (plain : c ≠ '\\')
    (stays : endsKey c = false) : KeyEnds (c :: rest) (c :: key) after where
  whole := by simp [ends.whole]
  first := by
    intro before d tail same stop
    match before with
    | [] =>
      obtain ⟨rfl, _⟩ := List.cons.inj same
      simp [stays] at stop
    | first :: before =>
      obtain ⟨rfl, inner⟩ : c = first ∧ key = before ++ d :: tail := by simpa using same
      rw [← isContinued_iff_openEnd, isContinued_cons _ _ plain, isContinued_iff_openEnd]
      exact ends.first before d tail inner stop
  stops := by
    intro d head
    rw [← isContinued_iff_openEnd, isContinued_cons _ _ plain, isContinued_iff_openEnd]
    exact ends.stops d head

private theorem keyEnds_slash : KeyEnds ['\\'] ['\\'] [] where
  whole := rfl
  first := by
    intro before d tail same stop
    match before with
    | [] =>
      obtain ⟨rfl, _⟩ := List.cons.inj same
      simp [endsKey_slash] at stop
    | _ :: _ => simp at same
  stops := by simp

theorem keyEnds_splitKey (line : List Char) :
    KeyEnds line (splitKey line).1 (splitKey line).2 := by
  fun_induction splitKey line with
  | case1 => exact keyEnds_nil
  | case2 c rest key after same ih =>
    rw [same] at ih
    exact ih.escape c
  | case3 c rest _ ends => exact keyEnds_stop c rest ends
  | case4 c rest lone stays key after same ih =>
    rw [same] at ih
    by_cases slash : c = '\\'
    · cases rest with
      | nil =>
        obtain ⟨rfl, rfl⟩ : key = [] ∧ after = [] := by simpa [splitKey, eq_comm] using same
        exact slash ▸ keyEnds_slash
      | cons d rest => exact absurd rfl (lone d rest slash)
    · exact ih.literal c slash (by simpa using stays)

private theorem Grammar.KeyEnds.not_shorter (shorter : KeyEnds line key (c :: after))
    (longer : KeyEnds line (key ++ c :: rest) tail) : False := by
  obtain ⟨ends, closed⟩ := shorter.stops c rfl
  exact closed (longer.first key c rest rfl ends)

theorem Grammar.KeyEnds.unique (first : KeyEnds line key after) (second : KeyEnds line key' after') :
    key = key' ∧ after = after' := by
  have same : key ++ after = key' ++ after' := first.whole.symm.trans second.whole
  rcases List.append_eq_append_iff.mp same with ⟨more, rfl, rfl⟩ | ⟨more, rfl, rfl⟩
  · cases more with
    | nil => simp
    | cons c rest => exact (first.not_shorter second).elim
  · cases more with
    | nil => simp
    | cons c rest => exact (second.not_shorter first).elim

theorem dropBlanks_append (blanks rest : List Char) (blank : ∀ c ∈ blanks, Text.isBlank c = true)
    (stops : ∀ c, rest.head? = some c → Text.isBlank c = false) :
    Text.dropBlanks (blanks ++ rest) = rest := by
  rw [Text.dropBlanks, List.dropWhile_append_of_pos blank]
  cases rest with
  | nil => rfl
  | cons c rest => simp [stops c rfl]

private theorem exists_dropBlanks (line : List Char) :
    ∃ blanks, line = blanks ++ Text.dropBlanks line ∧
      (∀ c ∈ blanks, Text.isBlank c = true) ∧
      ∀ c, (Text.dropBlanks line).head? = some c → Text.isBlank c = false := by
  refine ⟨line.takeWhile Text.isBlank, List.takeWhile_append_dropWhile.symm, ?_, ?_⟩
  · exact fun c member => List.all_eq_true.mp List.all_takeWhile c member
  · intro c head
    have stopped := List.head?_dropWhile_not Text.isBlank line
    rw [← Text.dropBlanks, head] at stopped
    exact stopped

private theorem valueBegins_dropSeparator (after : List Char) :
    ValueBegins after (dropSeparator after) := by
  obtain ⟨leading, same, blank, stops⟩ := exists_dropBlanks after
  rw [dropSeparator]
  split
  · rename_i value found
    rw [found] at same
    obtain ⟨trailing, rest, blank', stops'⟩ := exists_dropBlanks value
    refine ⟨⟨leading, ['='], trailing, ?_, ?_, .inl rfl⟩, stops'⟩
    · rw [same]
      simpa using rest
    · intro c member
      exact (List.mem_append.mp member).elim (blank c) (blank' c)
  · rename_i value found
    rw [found] at same
    obtain ⟨trailing, rest, blank', stops'⟩ := exists_dropBlanks value
    refine ⟨⟨leading, [':'], trailing, ?_, ?_, .inr (.inl rfl)⟩, stops'⟩
    · rw [same]
      simpa using rest
    · intro c member
      exact (List.mem_append.mp member).elim (blank c) (blank' c)
  · rename_i noEquals noColon
    refine ⟨⟨leading, [], [], by simpa using same, by simpa using blank, .inr (.inr ⟨rfl, ?_, ?_⟩)⟩,
      stops⟩
    · intro head
      obtain ⟨rest, found⟩ := List.head?_eq_some_iff.mp head
      exact noEquals rest found
    · intro head
      obtain ⟨rest, found⟩ := List.head?_eq_some_iff.mp head
      exact noColon rest found

private theorem dropSeparator_sign (leading rest : List Char) (sign : Char)
    (blank : ∀ c ∈ leading, Text.isBlank c = true) (either : sign = '=' ∨ sign = ':') :
    dropSeparator (leading ++ sign :: rest) = Text.dropBlanks rest := by
  have stops : ∀ c, (sign :: rest).head? = some c → Text.isBlank c = false := by
    rintro _ ⟨rfl⟩
    rcases either with rfl | rfl <;> decide
  rw [dropSeparator, dropBlanks_append leading _ blank stops]
  rcases either with rfl | rfl <;> rfl

theorem Grammar.ValueBegins.eq_dropSeparator (begins : ValueBegins after value) :
    value = dropSeparator after := by
  obtain ⟨⟨leading, sign, trailing, rfl, blank, signed⟩, stops⟩ := begins
  have leads : ∀ c ∈ leading, Text.isBlank c = true :=
    fun c member => blank c (List.mem_append_left _ member)
  have trails : ∀ c ∈ trailing, Text.isBlank c = true :=
    fun c member => blank c (List.mem_append_right _ member)
  rcases signed with rfl | rfl | ⟨rfl, noEquals, noColon⟩
  · have skipped := dropSeparator_sign leading (trailing ++ value) '=' leads (.inl rfl)
    rw [dropBlanks_append trailing value trails stops] at skipped
    simpa using skipped.symm
  · have skipped := dropSeparator_sign leading (trailing ++ value) ':' leads (.inr rfl)
    rw [dropBlanks_append trailing value trails stops] at skipped
    simpa using skipped.symm
  · rw [List.append_nil, dropSeparator, dropBlanks_append _ value blank stops]
    split
    · simp at noEquals
    · simp at noColon
    · rfl

/-- The reader divides a line exactly where the grammar does. -/
theorem splits_iff (line key value : List Char) :
    Splits line key value ↔ splitEntry line = (key, value) := by
  constructor
  · intro splits
    obtain ⟨after, ends, begins⟩ := splits
    obtain ⟨rfl, rfl⟩ := ends.unique (keyEnds_splitKey line)
    rw [begins.eq_dropSeparator]
    rfl
  · intro same
    obtain ⟨rfl, rfl⟩ := Prod.mk.inj same
    exact ⟨_, keyEnds_splitKey line, valueBegins_dropSeparator _⟩

theorem exists_splits (line : List Char) :
    ∃ key value, splitEntry line = (key, value) ∧ Splits line key value :=
  ⟨_, _, rfl, (splits_iff line _ _).mpr rfl⟩

theorem isBlank_ne_slash (c : Char) (blank : Text.isBlank c = true) : c ≠ '\\' := by
  intro slash
  rw [slash] at blank
  contradiction

theorem isContinued_dropBlanks (line : List Char) :
    isContinued (Text.dropBlanks line) = isContinued line := by
  obtain ⟨blanks, whole, blank, _⟩ := exists_dropBlanks line
  have plain := isContinued_of_plain blanks fun c member => isBlank_ne_slash c (blank c member)
  rw [whole, isContinued_append _ _ plain, ← whole]

theorem Grammar.KeyEnds.closed (ends : KeyEnds line key after) (clear : isContinued line = false) :
    isContinued key = false := by
  cases after with
  | nil => simpa [ends.whole] using clear
  | cons c rest =>
    obtain ⟨_, closed⟩ := ends.stops c rfl
    rwa [← isContinued_iff_openEnd, Bool.not_eq_true] at closed

theorem Grammar.ValueBegins.exists_between (begins : ValueBegins after value) :
    ∃ between, after = between ++ value ∧ ∀ c ∈ between, c ≠ '\\' := by
  obtain ⟨leading, sign, trailing, whole, blank, signed⟩ := begins.parts
  refine ⟨leading ++ sign ++ trailing, whole, fun c member => ?_⟩
  simp only [List.mem_append] at member blank
  rcases member with (member | member) | member
  · exact isBlank_ne_slash c (blank c (.inl member))
  · rcases signed with rfl | rfl | ⟨rfl, _⟩ <;> simp_all
  · exact isBlank_ne_slash c (blank c (.inr member))

/-- A line without an open end is cut at two places, and no part up to or from one of them has an
open end. -/
theorem Grammar.Splits.exists_between (splits : Splits line key value)
    (clear : isContinued line = false) : ∃ between, line = key ++ between ++ value ∧
      isContinued key = false ∧ isContinued (key ++ between) = false ∧
      isContinued value = false := by
  obtain ⟨after, ends, begins⟩ := splits
  have keyClosed := ends.closed clear
  obtain ⟨between, rfl, plain⟩ := begins.exists_between
  have bothClosed : isContinued (key ++ between) = false := by
    rw [isContinued_append _ _ keyClosed, isContinued_of_plain between plain]
  have whole : line = key ++ between ++ value := by rw [ends.whole, List.append_assoc]
  refine ⟨between, whole, keyClosed, bothClosed, ?_⟩
  rwa [whole, isContinued_append _ _ bothClosed] at clear

theorem Grammar.Splits.closed (splits : Splits line key value) (clear : isContinued line = false) :
    isContinued key = false ∧ isContinued value = false := by
  obtain ⟨_, _, keyClosed, _, valueClosed⟩ := splits.exists_between clear
  exact ⟨keyClosed, valueClosed⟩

end PropertyStore.Document
