import PropertyStore.Proofs.Document.Reading

namespace PropertyStore.Document

open Grammar

/-- A text of LF-ended lines with blanks put before each line. -/
def indent (indents : Nat → List Char) (text : List Char) : List Char :=
  ['\n'].intercalate ((text.splitOn '\n').mapIdx fun i line => indents i ++ line)

/-- A natural line, with those before it, that belongs to the logical line of a property. -/
inductive Grammar.Belongs : List (List Char) → List Char → Prop where
  | begins (something : ¬ HoldsNothing line) : Belongs before line
  | continues (belongs : Belongs before line) (opened : OpenEnd (Text.dropBlanks line)) :
      Belongs (before ++ [line]) next

/-- A place in a text where the line of a property can be broken: behind no open end and before no
blank, and so not among the blanks that the line begins with. -/
inductive Grammar.Breakable : List Char → List Char → Prop where
  | inside (left : Text.Lines text (before ++ [start])) (right : Text.Lines other (rest :: after))
      (belongs : Belongs before (start ++ rest)) (closed : ¬ OpenEnd start)
      (visible : ∀ c, rest.head? = some c → Text.isBlank c = false) : Breakable text other

private theorem dropBlanks_append_visible (line : List Char)
    (visible : ∀ c, rest.head? = some c → Text.isBlank c = false) :
    Text.dropBlanks (line ++ rest) = Text.dropBlanks line ++ rest := by
  induction line with
  | nil => exact dropBlanks_append [] rest (by simp) visible
  | cons c line ih =>
    cases blank : Text.isBlank c with
    | true => simpa [Text.dropBlanks, blank] using ih
    | false => simp [Text.dropBlanks, blank]

private theorem dropBlanks_blanks (blank : ∀ c ∈ blanks, Text.isBlank c = true) (line : List Char) :
    Text.dropBlanks (blanks ++ line) = Text.dropBlanks line :=
  List.dropWhile_append_of_pos blank

private theorem joinLines_congr (waiting : Option LogicalLine) (number : Nat)
    {lines other : List (List Char)}
    (same : lines.map Text.dropBlanks = other.map Text.dropBlanks) :
    joinLines waiting number lines = joinLines waiting number other := by
  induction lines generalizing waiting number other with
  | nil =>
    obtain rfl : other = [] := by simpa using same.symm
    rfl
  | cons line lines ih =>
    obtain ⟨first, rest, rfl, stripped, others⟩ := List.map_eq_cons_iff.mp same.symm
    simp only [joinLines, stripped, ih _ _ others.symm]

private theorem texts_joinLines {waiting other : Option LogicalLine}
    (same : waiting.map LogicalLine.text = other.map LogicalLine.text) (number start : Nat)
    (lines : List (List Char)) :
    (joinLines waiting number lines).map LogicalLine.text =
      (joinLines other start lines).map LogicalLine.text := by
  induction lines generalizing waiting other number start with
  | nil => cases waiting <;> cases other <;> simp_all [joinLines]
  | cons line lines ih =>
    have extended : (LogicalLine.extend? waiting number (Text.dropBlanks line)).map
        LogicalLine.text =
          (LogicalLine.extend? other start (Text.dropBlanks line)).map LogicalLine.text := by
      cases waiting <;> cases other <;> simp_all [LogicalLine.extend?]
      split <;> rfl
    rw [joinLines, joinLines]
    generalize LogicalLine.extend? waiting number (Text.dropBlanks line) = current at extended
    generalize LogicalLine.extend? other start (Text.dropBlanks line) = current' at extended
    cases current with
    | none =>
      obtain rfl : current' = none := by simpa using extended.symm
      exact ih rfl _ _
    | some current =>
      obtain ⟨current', rfl, text⟩ : ∃ line, current' = some line ∧ line.text = current.text := by
        simpa using extended.symm
      simp only [text]
      split
      · exact ih (by simp) _ _
      · rw [List.map_cons, List.map_cons, text, ih rfl _ _]

/-- What lines come to before others: some logical lines and, if the next line belongs to a
property that they began, the line begun. -/
theorem joinLines_before (number : Nat) (before : List (List Char)) :
    ∃ completed waiting,
      (∀ lines, joinLines none number (before ++ lines) =
        completed ++ joinLines waiting (number + before.length) lines) ∧
      (∀ begun ∈ waiting, isContinued begun.text = false) ∧
      ∀ line, Belongs before line → waiting = none → ¬ HoldsNothing line := by
  induction before using List.reverseRecOn with
  | nil =>
    refine ⟨[], none, fun _ => rfl, by simp, fun line belongs _ => ?_⟩
    generalize whole : ([] : List (List Char)) = before at belongs
    cases belongs with
    | begins something => exact something
    | continues => simp at whole
  | append_singleton before last ih =>
    obtain ⟨completed, waiting, same, clear, belongs⟩ := ih
    obtain ⟨more, next, step, _, nextClear, _, goesOn⟩ :=
      joinLines_step waiting (number + before.length) last clear
    refine ⟨completed ++ more, next, fun lines => ?_, nextClear, fun line inside afresh => ?_⟩
    · have length : number + (before ++ [last]).length = number + before.length + 1 := by
        simp [Nat.add_assoc]
      rw [List.append_assoc, List.singleton_append, same, step, length, List.append_assoc]
    -- A line that only continues the one before it finds that one begun.
    · generalize whole : before ++ [last] = lines at inside
      cases inside with
      | begins something => exact something
      | continues inside opened =>
        obtain ⟨rfl, ends⟩ := List.append_inj' whole rfl
        cases ends
        exact absurd afresh (goesOn (belongs last inside) opened)

/-- The end of a line and the next line, its blanks dropped, come to what the whole line does. -/
theorem joinLines_broken (waiting : Option LogicalLine) (number : Nat)
    {start rest blanks : List Char} (lines : List (List Char))
    (clear : ∀ begun ∈ waiting, isContinued begun.text = false)
    (belongs : waiting = none → ¬ HoldsNothing (start ++ rest)) (closed : ¬ OpenEnd start)
    (visible : ∀ c, rest.head? = some c → Text.isBlank c = false)
    (blank : ∀ c ∈ blanks, Text.isBlank c = true) :
    (joinLines waiting number ((start ++ ['\\']) :: (blanks ++ rest) :: lines)).map
        LogicalLine.text =
      (joinLines waiting number ((start ++ rest) :: lines)).map LogicalLine.text := by
  have first : Text.dropBlanks (start ++ ['\\']) = Text.dropBlanks start ++ ['\\'] :=
    dropBlanks_append_visible start (by simp [Text.isBlank])
  have second : Text.dropBlanks (blanks ++ rest) = rest := dropBlanks_append _ _ blank visible
  have whole := dropBlanks_append_visible start visible
  have opened : isContinued (Text.dropBlanks (start ++ ['\\'])) = true := by
    have closed : isContinued (Text.dropBlanks start) = false := by
      rwa [isContinued_dropBlanks, ← Bool.not_eq_true, isContinued_iff_openEnd]
    simp [first, isContinued_concat, closed]
  -- The first part of a line holds something if the line does.
  have belongsFirst : waiting = none → ¬ HoldsNothing (start ++ ['\\']) := by
    intro afresh
    have something := belongs afresh
    rw [HoldsNothing, whole] at something
    rw [HoldsNothing, first]
    cases same : Text.dropBlanks start with
    | nil => simp
    | cons c line => simpa [same] using something
  have clear := isContinued_getD number clear
  rw [joinLines_belongs waiting number _ belongsFirst, joinLines_belongs waiting number _ belongs,
    joinLines_opened _ number _ _ clear opened, first, List.dropLast_concat]
  -- Both come to the same text so far; only the number of the next line differs.
  simp only [joinLines, LogicalLine.extend?, second, whole, List.append_assoc]
  split
  · exact texts_joinLines rfl _ _ _
  · rw [List.map_cons, List.map_cons, texts_joinLines rfl]

theorem Grammar.Entries.of_texts {lines other : List LogicalLine}
    (read : Entries lines (.ok entries))
    (same : lines.map LogicalLine.text = other.map LogicalLine.text) :
    Entries other (.ok entries) := by
  induction lines generalizing other entries with
  | nil =>
    obtain rfl : other = [] := by simpa using same.symm
    exact read
  | cons line lines ih =>
    obtain ⟨first, rest, rfl, text, others⟩ := List.map_eq_cons_iff.mp same.symm
    cases read with
    | entry splits key value tail =>
      rw [← text] at splits
      exact .entry splits key value (ih tail others.symm)

theorem Grammar.Breakable.texts (place : Breakable left right) (plain : '\r' ∉ left ++ right)
    (blank : ∀ c ∈ blanks, Text.isBlank c = true) :
    (logicalLines (Text.naturalLines (left ++ '\\' :: '\n' :: (blanks ++ right)))).map
        LogicalLine.text =
      (logicalLines (Text.naturalLines (left ++ right))).map LogicalLine.text := by
  obtain ⟨leftLines, rightLines, belongs, closed, visible⟩ := place
  rename_i before start rest after
  have plainLeft : '\r' ∉ left := fun member => plain (List.mem_append_left _ member)
  have whole := leftLines.append rightLines plainLeft
  have slash : Text.Lines ['\\'] [['\\']] := .last (by simp [Text.OneLine])
  have blankLine := Text.oneLine_of_blank blank
  have blankLines : Text.Lines blanks ([] ++ [blanks]) := .last blankLine
  have broken : Text.naturalLines (left ++ '\\' :: '\n' :: (blanks ++ right)) =
      before ++ (start ++ ['\\']) :: (blanks ++ rest) :: after := by
    have upper := Text.lines_iff.mp (leftLines.append slash plainLeft)
    have lower := Text.lines_iff.mp (blankLines.append rightLines blankLine.not_mem_return)
    have text : left ++ '\\' :: '\n' :: (blanks ++ right) =
        (left ++ ['\\']) ++ '\n' :: (blanks ++ right) := by simp
    rw [text, Text.naturalLines_append_feed _ _ (by simp), upper, lower]
    simp
  obtain ⟨completed, waiting, joined, clear, begins⟩ := joinLines_before 1 before
  rw [broken, Text.lines_iff.mp whole, logicalLines, logicalLines, joined, joined,
    List.map_append, List.map_append,
    joinLines_broken waiting _ after clear (begins _ belongs) closed visible blank]

private theorem dropMark_append (marked : Body (mark ++ body) body)
    (bare : other.head? = some '\uFEFF' → body.head? = some '\uFEFF') :
    dropMark (mark ++ other) = other := by
  generalize whole : mark ++ body = text at marked
  cases marked with
  | marked =>
    obtain rfl : mark = ['\uFEFF'] := (List.append_left_inj body).mp whole
    rfl
  | plain unmarked =>
    obtain rfl : mark = [] := by simpa using whole
    exact dropMark_of_unmarked fun head => unmarked (bare head)

private theorem lines_indent (plain : '\r' ∉ text)
    (blank : ∀ i, ∀ c ∈ indents i, Text.isBlank c = true) :
    Text.Lines (indent indents text)
      ((Text.naturalLines text).mapIdx fun i line => indents i ++ line) := by
  have parsed : Text.Lines text (Text.naturalLines text) := Text.lines_iff.mpr rfl
  have same : text.splitOn '\n' = Text.naturalLines text := by
    rw [Text.naturalLines, Text.unifyLineEnds_eq_self plain]
  rw [indent, same]
  refine Text.lines_intercalate ?_ ?_
  · intro empty
    rw [List.mapIdx_eq_nil_iff] at empty
    rw [empty] at parsed
    cases parsed
  · intro line member
    obtain ⟨i, inside, rfl⟩ := List.mem_mapIdx.mp member
    exact (Text.oneLine_of_blank (blank i)).append (parsed.oneLine _ (List.getElem_mem inside))

private theorem head?_indent (plain : '\r' ∉ text)
    (blank : ∀ i, ∀ c ∈ indents i, Text.isBlank c = true)
    (head : (indent indents text).head? = some '\uFEFF') : text.head? = some '\uFEFF' := by
  have parsed : Text.Lines text (Text.naturalLines text) := Text.lines_iff.mpr rfl
  have indented := lines_indent plain blank
  cases lines : Text.naturalLines text with
  | nil => rw [lines] at parsed; cases parsed
  | cons first rest =>
    rw [lines] at parsed indented
    rw [List.mapIdx_cons] at indented
    have head := (indented.head?_iff (by decide)).mp head
    rw [parsed.head?_iff (by decide)]
    cases first_blank : indents 0 with
    | nil => simpa [first_blank] using head
    | cons c blanks =>
      obtain rfl : c = '\uFEFF' := by simpa [first_blank] using head
      have : Text.isBlank '\uFEFF' = true := blank 0 _ (by simp [first_blank])
      cases this

private theorem naturalLines_indent (plain : '\r' ∉ text)
    (blank : ∀ i, ∀ c ∈ indents i, Text.isBlank c = true) :
    (Text.naturalLines (indent indents text)).map Text.dropBlanks =
      (Text.naturalLines text).map Text.dropBlanks := by
  rw [Text.lines_iff.mp (lines_indent plain blank)]
  apply List.ext_getElem
  · simp
  · intro i _ _
    simp [dropBlanks_blanks (blank i)]

/-- The layout of a text whose lines end in LF means nothing: it reads the same, fault and line
number included, with blanks put before any of its lines, and if it reads as entries, it reads as
the same with a line of a property broken anywhere. -/
theorem parse_layout (text : String) (mark body : List Char) (whole : text.toList = mark ++ body)
    (marked : Body text.toList body) (plain : '\r' ∉ text.toList) :
    (∀ indents : Nat → List Char, (∀ i, ∀ c ∈ indents i, Text.isBlank c = true) →
      parse (String.ofList (mark ++ indent indents body)) = parse text) ∧
    ∀ left right blanks entries, body = left ++ right → Breakable left right →
      (∀ c ∈ blanks, Text.isBlank c = true) → parse text = .ok entries →
      parse (String.ofList (mark ++ (left ++ '\\' :: '\n' :: (blanks ++ right)))) =
        .ok entries := by
  have plain : '\r' ∉ body := fun member => plain (by simp [whole, member])
  have bare : dropMark text.toList = body := (body_iff _ _).mp marked
  rw [whole] at marked
  constructor
  · intro indents blank
    rw [parse, parse, String.toList_ofList, bare,
      dropMark_append marked (head?_indent plain blank), logicalLines, logicalLines,
      joinLines_congr none 1 (naturalLines_indent plain blank)]
  · rintro left right blanks entries rfl place blank read
    have unmarked : (left ++ '\\' :: '\n' :: (blanks ++ right)).head? = some '\uFEFF' →
        (left ++ right).head? = some '\uFEFF' := by
      cases left <;> simp
    obtain ⟨logical, lines, holds⟩ := (reads_iff _ _).mpr read
    rw [logicalLinesOf_iff, bare] at lines
    subst lines
    rw [parse, String.toList_ofList, dropMark_append marked unmarked]
    exact (holds.of_texts (place.texts plain blank).symm).eq_mapM

/-- A line broken inside an escape; the line continues another one and begins like a comment. -/
theorem parse_layout_escape :
    ("\uFEFF#c\na=\\\n  #\\u0041\n".toList =
        ['\uFEFF'] ++ ("#c\na=\\\n  #\\u00".toList ++ "41\n".toList) ∧
      '\r' ∉ "\uFEFF#c\na=\\\n  #\\u0041\n".toList ∧
      Breakable "#c\na=\\\n  #\\u00".toList "41\n".toList) ∧
      parse "\uFEFF\t#c\n\ta=\\\n\t  #\\u0041\n\t" = .ok [("a", "#A")] ∧
      parse "\uFEFF#c\na=\\\n  #\\u00\\\n 41\n" = .ok [("a", "#A")] := by
  have whole : "\uFEFF#c\na=\\\n  #\\u0041\n".toList =
      ['\uFEFF'] ++ ("#c\na=\\\n  #\\u00".toList ++ "41\n".toList) := by simp
  have plain : '\r' ∉ "\uFEFF#c\na=\\\n  #\\u0041\n".toList := by simp
  have place : Breakable "#c\na=\\\n  #\\u00".toList "41\n".toList := by
    have left : Text.Lines "#c\na=\\\n  #\\u00".toList
        (["#c".toList, "a=\\".toList] ++ ["  #\\u00".toList]) := Text.lines_iff.mpr rfl
    have right : Text.Lines "41\n".toList ["41".toList, []] := Text.lines_iff.mpr rfl
    have something : ¬ HoldsNothing "a=\\".toList := by
      rw [← isIgnored_iff]
      decide
    have opened : OpenEnd (Text.dropBlanks "a=\\".toList) := by
      rw [← isContinued_iff_openEnd]
      decide
    have closed : ¬ OpenEnd "  #\\u00".toList := by
      rw [← isContinued_iff_openEnd]
      decide
    have belongs : Belongs (["#c".toList] ++ ["a=\\".toList]) ("  #\\u00".toList ++ "41".toList) :=
      .continues (.begins something) opened
    exact .inside left right belongs closed (by simp [Text.isBlank])
  have read : parse "\uFEFF#c\na=\\\n  #\\u0041\n" = .ok [("a", "#A")] := by rfl
  have marked : Body "\uFEFF#c\na=\\\n  #\\u0041\n".toList
      ("#c\na=\\\n  #\\u00".toList ++ "41\n".toList) := by
    rw [whole]
    exact .marked
  obtain ⟨indented, broken⟩ := parse_layout _ _ _ whole marked plain
  have indented := indented (fun _ => ['\t']) (by simp [Text.isBlank])
  have broken := broken _ _ [' '] _ rfl place (by simp [Text.isBlank]) read
  rw [read] at indented
  exact ⟨⟨whole, plain, place⟩, indented, broken⟩

end PropertyStore.Document
