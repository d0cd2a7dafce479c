import PropertyStore.Proofs.Document.Header
import PropertyStore.Proofs.Moment

/-! Reading back what was written. A printed file reads as its properties in key order, and
its head reads as nothing, unless a comment has a lone CR with more than blanks and comments
behind it: then what stands there is read before the properties. -/

namespace PropertyStore.Document

open Grammar

private theorem dropMark_header (comment : Option String) (stamp : String) (rest : List Char) :
    dropMark (header comment stamp ++ rest) = header comment stamp ++ rest := by
  have first : (header comment stamp ++ rest).head? = some '#' := by
    cases comment with
    | none => rfl
    | some text => cases same : commentLines text.toList <;> simp [header, headerLine, same]
  refine (body_iff _ _).mp (.plain ?_)
  simp [first]

theorem parse_header (comment : Option String) (stamp : String) (rest : List Char) :
    parse (String.ofList (header comment stamp ++ rest)) =
      (joinLines none 1 (headerLines comment stamp ++ Text.naturalLines rest)).mapM
        LogicalLine.entry := by
  rw [parse, String.toList_ofList, dropMark_header, naturalLines_header]
  rfl

theorem print_eq (properties : Properties) (comment : Option String) (stamp : String) :
    print properties comment stamp =
      String.ofList (header comment stamp ++ properties.toList.flatMap entryLine) := rfl

/-- A file with a harmless comment reads as its properties. -/
theorem parse_print_of_harmless (properties : Properties) (comment : Option String)
    (stamp : String) (whole : Text.OneLine stamp.toList) (harmless : Harmless comment) :
    parse (print properties comment stamp) = .ok properties.toList := by
  rw [print_eq, parse_header, joinLines_ignored_append _ _ _
    ((holdsNothing_headerLines comment stamp whole).mpr harmless), naturalLines_entryLines]
  exact mapM_entry_entryLines _ _

/-- Every CR of a text is the first half of a CR LF. -/
def returnsPaired : List Char → Bool
  | [] => true
  | '\r' :: '\n' :: rest => returnsPaired rest
  | '\r' :: _ => false
  | _ :: rest => returnsPaired rest

private theorem oneLine_of_returnsPaired (text : List Char) (paired : returnsPaired text = true)
    (lone : '\n' ∉ text) : Text.OneLine text := by
  fun_induction returnsPaired text with
  | case1 => simp [Text.OneLine]
  | case2 rest => simp at lone
  | case3 rest => simp at paired
  | case4 c rest _ other ih =>
    simp only [List.mem_cons, not_or] at lone
    intro d member
    rcases List.mem_cons.mp member with rfl | member
    · exact ⟨Ne.symm lone.1, other⟩
    · exact ih paired lone.2 d member

private theorem returnsPaired_append (line rest : List Char) (lone : '\n' ∉ line)
    (paired : returnsPaired (line ++ '\n' :: rest) = true) :
    Text.OneLine (dropReturn line) ∧ returnsPaired rest = true := by
  induction line with
  | nil => exact ⟨by simp [dropReturn, Text.OneLine], by simpa [returnsPaired] using paired⟩
  | cons c line ih =>
    simp only [List.mem_cons, not_or] at lone
    by_cases back : c = '\r'
    · subst c
      cases line with
      | nil => exact ⟨by simp [dropReturn, Text.OneLine], by simpa [returnsPaired] using paired⟩
      | cons next line =>
        simp only [List.mem_cons, not_or] at lone
        simp [returnsPaired, Ne.symm lone.2.1] at paired
    · have later : returnsPaired (line ++ '\n' :: rest) = true := by
        simpa [returnsPaired, back] using paired
      obtain ⟨whole, restPaired⟩ := ih lone.2 later
      rw [dropReturn_cons c line back]
      exact ⟨whole.cons ⟨Ne.symm lone.1, back⟩, restPaired⟩

private theorem commentLines_append (line rest : List Char) (lone : '\n' ∉ line) :
    commentLines (line ++ '\n' :: rest) = dropReturn line :: commentLines rest := by
  simp only [commentLines, List.splitOn_append_cons_self_of_not_mem lone]
  cases parts : List.splitOn '\n' rest with
  | nil => exact absurd parts (List.splitOn_ne_nil _ _)
  | cons first more =>
    simp only [List.dropLast_cons_cons, List.map_cons, List.getLast?_cons_cons]
    split <;> simp

private theorem oneLine_of_mem_commentLines (text : List Char)
    (paired : returnsPaired text = true) :
    ∀ line ∈ commentLines text, Text.OneLine line := by
  induction length : text.length using Nat.strongRecOn generalizing text with
  | ind size ih =>
    by_cases feed : '\n' ∈ text
    · obtain ⟨line, rest, rfl, lone⟩ := List.eq_append_cons_of_mem feed
      obtain ⟨whole, later⟩ := returnsPaired_append line rest lone paired
      rw [commentLines_append line rest lone]
      intro other member
      rcases List.mem_cons.mp member with rfl | member
      · exact whole
      · refine ih rest.length ?_ rest later rfl other member
        simp [← length]
        omega
    · have whole := oneLine_of_returnsPaired text paired feed
      intro line member
      simp only [commentLines, List.splitOn_eq_singleton feed] at member
      cases text with
      | nil => simp at member
      | cons c text =>
        obtain rfl : line = c :: text := by simpa using member
        exact whole

theorem harmless_of_returnsPaired (comment : Option String)
    (paired : ∀ text ∈ comment, returnsPaired text.toList = true) : Harmless comment := by
  intro text present line member
  have whole := oneLine_of_mem_commentLines text.toList (paired text present) line member
  simp [whole.naturalLines]

theorem keys_increasing (properties : Properties) :
    properties.toList.Pairwise fun first second => first.1 < second.1 := by
  refine properties.ordered_keys_toList.imp fun less => ?_
  exact compareOfLessAndEq_eq_lt.mp less

/-- What is printed is read back: every property once, in the order of the keys, whatever the
comment says as long as its CRs are parts of line ends. -/
theorem parse_print (properties : Properties) (comment : Option String) (stamp : String)
    (paired : ∀ text ∈ comment, returnsPaired text.toList = true)
    (whole : Text.OneLine stamp.toList) :
    parse (print properties comment stamp) = .ok properties.toList ∧
      (properties.toList.Pairwise fun first second => first.1 < second.1) ∧
      ∀ key value, (key, value) ∈ properties.toList ↔ properties[key]? = some value := by
  refine ⟨?_, keys_increasing properties, fun key value => ?_⟩
  · exact parse_print_of_harmless properties comment stamp whole
      (harmless_of_returnsPaired comment paired)
  · exact Std.ExtTreeMap.mem_toList_iff_getElem?_eq_some

/-- A comment of two lines over properties with an empty key, line ends and control
characters. -/
theorem parse_print_two_lines :
    let properties := Properties.ofEntries
      [("", "\r\n #"), (" a=b\\", "\t\x07\x85"), ("# k", "")]
    (∀ text ∈ some "first\r\nsecond", returnsPaired text.toList = true) ∧
      Text.OneLine "Thu Jan 01 00:00:00 UTC 1970".toList ∧
      parse (print properties (some "first\r\nsecond") "Thu Jan 01 00:00:00 UTC 1970") =
        .ok properties.toList := by
  intro properties
  have paired : ∀ text ∈ some "first\r\nsecond", returnsPaired text.toList = true := by
    intro text given
    cases given
    decide
  have whole : Text.OneLine "Thu Jan 01 00:00:00 UTC 1970".toList := by
    simp [Text.OneLine]
  exact ⟨paired, whole, (parse_print properties _ _ paired whole).1⟩

/-- What the head of a file reads as by itself. -/
def headEntries (comment : Option String) (time : Calendar) : Except Malformed (List Entry) :=
  parse (String.ofList (header comment time.stamp))

private theorem joinLines_headerLines (comment : Option String) (time : Calendar)
    (rest : List (List Char)) :
    joinLines none 1 (headerLines comment time.stamp ++ rest) =
      joinLines none 1 (headerLines comment time.stamp) ++
        joinLines none (1 + (headerLines comment time.stamp).length) rest := by
  have closed : isContinued (Text.dropBlanks ('#' :: time.stamp.toList)) = false := by
    have same : Text.dropBlanks ('#' :: time.stamp.toList) = '#' :: time.stamp.toList := rfl
    rw [same, isContinued_cons _ _ (by decide), time.isContinued_stamp]
  obtain ⟨lines, same⟩ : ∃ lines, headerLines comment time.stamp =
      lines ++ ['#' :: time.stamp.toList] := by
    refine ⟨((comment.map fun text => commentLines text.toList).getD []).flatMap headerParts, ?_⟩
    rw [headerLines, List.flatMap_append, List.flatMap_singleton,
      headerParts_of_oneLine _ time.oneLine_stamp]
  rw [same, List.append_assoc, List.singleton_append,
    joinLines_append none 1 lines _ rest (by simp) closed]
  simp

private theorem headEntries_eq (comment : Option String) (time : Calendar) :
    headEntries comment time =
      (joinLines none 1 (headerLines comment time.stamp)).mapM LogicalLine.entry := by
  have read := parse_header comment time.stamp []
  rw [List.append_nil] at read
  rw [headEntries, read, joinLines_headerLines]
  simp [Text.naturalLines, Text.unifyLineEnds, joinLines, LogicalLine.extend?, isIgnored,
    Text.dropBlanks]

/-- What the head reads as stands before the properties and leaves them as they are. -/
theorem parse_print_eq (properties : Properties) (comment : Option String) (time : Calendar) :
    parse (print properties comment time.stamp) =
      (headEntries comment time).map (· ++ properties.toList) := by
  rw [print_eq, parse_header, joinLines_headerLines, naturalLines_entryLines, List.mapM_append,
    mapM_entry_entryLines, headEntries_eq]
  cases (joinLines none 1 (headerLines comment time.stamp)).mapM LogicalLine.entry <;> rfl

private theorem headEntries_eq_nil_iff (comment : Option String) (time : Calendar) :
    headEntries comment time = .ok [] ↔ Harmless comment := by
  rw [← holdsNothing_headerLines comment time.stamp time.oneLine_stamp,
    ← joinLines_eq_nil_iff 1, headEntries_eq]
  constructor
  · intro read
    cases same : joinLines none 1 (headerLines comment time.stamp) with
    | nil => rfl
    | cons line lines =>
      rw [same, List.mapM_cons] at read
      cases first : line.entry <;> cases rest : lines.mapM LogicalLine.entry <;>
        simp [first, rest, bind, Except.bind, pure, Except.pure] at read
  · intro nothing
    rw [nothing]
    rfl

/-- A comment has no say in what a file reads as exactly if it is harmless. Any other adds
entries before the properties or makes the file unreadable, and two comments are read alike
exactly if the heads with them are. -/
theorem print_comment_inert_iff (properties : Properties) (first second : Option String)
    (time other : Calendar) :
    (parse (print properties first time.stamp) = .ok properties.toList ↔ Harmless first) ∧
      (parse (print properties first time.stamp) =
        (headEntries first time).map (· ++ properties.toList)) ∧
      (parse (print properties first time.stamp) = parse (print properties second other.stamp) ↔
        headEntries first time = headEntries second other) := by
  refine ⟨?_, parse_print_eq properties first time, ?_⟩
  · rw [← headEntries_eq_nil_iff first time, parse_print_eq]
    cases headEntries first time <;> simp [Except.map]
  · rw [parse_print_eq, parse_print_eq]
    cases headEntries first time <;> cases headEntries second other <;> simp [Except.map]

/-- A lone CR in a comment makes the rest of it a property. -/
theorem parse_print_lone_return :
    parse (print ∅ (some "a\rk=v") "Thu Jan 01 00:00:00 UTC 1970") ≠
      parse (print ∅ none "Thu Jan 01 00:00:00 UTC 1970") := by
  decide +kernel

end PropertyStore.Document
