import PropertyStore.Proofs.Document.Header
import PropertyStore.Proofs.Store.Loading

namespace PropertyStore.Document

def LogicalLine.later (lines : Nat) (line : LogicalLine) : LogicalLine :=
  { line with number := line.number + lines }

def Malformed.later (lines : Nat) (fault : Malformed) : Malformed :=
  { fault with line := fault.line + lines }

private theorem extend?_later (lines number : Nat) (waiting : Option LogicalLine)
    (stripped : List Char) :
    LogicalLine.extend? (waiting.map (.later lines)) (number + lines) stripped =
      (LogicalLine.extend? waiting number stripped).map (.later lines) := by
  cases waiting with
  | some begun => rfl
  | none =>
    simp only [LogicalLine.extend?, Option.map_none]
    split <;> rfl

private theorem joinLines_later (before number : Nat) (waiting : Option LogicalLine)
    (lines : List (List Char)) :
    joinLines (waiting.map (.later before)) (number + before) lines =
      (joinLines waiting number lines).map (.later before) := by
  induction lines generalizing waiting number with
  | nil => cases waiting <;> rfl
  | cons line rest ih =>
    have next : number + before + 1 = number + 1 + before := by omega
    rw [joinLines, joinLines, extend?_later, next]
    cases LogicalLine.extend? waiting number (Text.dropBlanks line) with
    | none => exact ih (number + 1) none
    | some current =>
      simp only [Option.map_some]
      cases opened : isContinued current.text with
      | true =>
        have same : isContinued (current.later before).text = true := opened
        simp only [same, if_true]
        exact ih (number + 1) (some { current with text := current.text.dropLast })
      | false =>
        have same : isContinued (current.later before).text = false := opened
        simp only [same, Bool.false_eq_true, if_false, List.map_cons]
        exact congrArg _ (ih (number + 1) none)

private theorem entry_later (before : Nat) (line : LogicalLine) :
    (line.later before).entry = line.entry.mapError (.later before) := by
  simp only [LogicalLine.entry, LogicalLine.later]
  generalize (do
    let key ← unescape (splitEntry line.text).1
    let value ← unescape (splitEntry line.text).2
    return (String.ofList key, String.ofList value) : Except BadEscape Entry) = read
  cases read <;> rfl

private theorem mapM_entry_later (before : Nat) (lines : List LogicalLine) :
    (lines.map (.later before)).mapM LogicalLine.entry =
      (lines.mapM LogicalLine.entry).mapError (.later before) := by
  rw [List.mapM_map]
  exact mapM_mapError fun line _ => entry_later before line

private theorem last_naturalLine {text : List Char} {lines : List (List Char)}
    (parsed : Text.Lines text lines) (closed : text.getLast? ≠ some '\\') :
    ∃ before last, lines = before ++ [last] ∧ last.getLast? ≠ some '\\' := by
  have behind (line : List Char) (c : Char) (text : List Char)
      (closed : (line ++ c :: text).getLast? ≠ some '\\') : text.getLast? ≠ some '\\' := by
    intro slash
    simp [List.getLast?_append, List.getLast?_cons, slash] at closed
  induction parsed with
  | last whole => exact ⟨[], _, rfl, closed⟩
  | feed whole _ ih =>
    obtain ⟨before, last, rfl, clear⟩ := ih (behind _ _ _ closed)
    exact ⟨_ :: before, last, rfl, clear⟩
  | @returnFeed line text lines whole _ ih =>
    obtain ⟨before, last, rfl, clear⟩ := ih (behind (line ++ ['\r']) '\n' text (by simpa using closed))
    exact ⟨_ :: before, last, rfl, clear⟩
  | loneReturn whole _ _ ih =>
    obtain ⟨before, last, rfl, clear⟩ := ih (behind _ _ _ closed)
    exact ⟨_ :: before, last, rfl, clear⟩

private theorem isContinued_of_getLast? {line : List Char} (closed : line.getLast? ≠ some '\\') :
    isContinued line = false := by
  rcases List.eq_nil_or_concat line with rfl | ⟨before, c, rfl⟩
  · exact isContinued_nil
  · have ordinary : c ≠ '\\' := by simpa using closed
    simp [List.concat_eq_append, isContinued_concat, ordinary]

private theorem dropMark_append_feed (text rest : List Char) :
    dropMark (text ++ '\n' :: rest) = dropMark text ++ '\n' :: rest := by
  cases text with
  | nil => rfl
  | cons c text =>
    by_cases mark : c = '\uFEFF'
    · subst mark
      rfl
    · have plain (text : List Char) : dropMark (c :: text) = c :: text :=
        dropMark_of_unmarked (by simpa using mark)
      rw [List.cons_append, plain, plain, List.cons_append]

private theorem getLast?_dropMark {text : List Char} {c : Char} (other : text.getLast? ≠ some c) :
    (dropMark text).getLast? ≠ some c := by
  have body : Grammar.Body text (dropMark text) := (body_iff text _).mpr rfl
  generalize dropMark text = bare at body
  cases body with
  | marked =>
    intro last
    exact other (by simp [List.getLast?_cons, last])
  | plain _ => exact other

private theorem length_naturalLines_dropMark (text : List Char) :
    (Text.naturalLines (dropMark text)).length = (Text.naturalLines text).length := by
  have body : Grammar.Body text (dropMark text) := (body_iff text _).mpr rfl
  generalize dropMark text = bare at body
  cases body with
  | marked =>
    obtain ⟨first, rest, same, marked⟩ := naturalLines_cons '\uFEFF' bare (by simp)
    rw [same, marked]
    rfl
  | plain _ => rfl

private theorem logicalLines_append_feed {first : List Char} (second : List Char)
    (closed : first.getLast? ≠ some '\\') (ended : first.getLast? ≠ some '\r') :
    logicalLines (Text.naturalLines (first ++ '\n' :: second)) =
      logicalLines (Text.naturalLines first) ++
        (logicalLines (Text.naturalLines second)).map
          (.later (Text.naturalLines first).length) := by
  obtain ⟨lines, last, same, clear⟩ := last_naturalLine (Text.lines_iff.mpr rfl) closed
  have length : (Text.naturalLines first).length = lines.length + 1 := by simp [same]
  have lastClosed : isContinued (Text.dropBlanks last) = false := by
    rw [isContinued_dropBlanks, isContinued_of_getLast? clear]
  rw [Text.naturalLines_append_feed first second ended, length, same, logicalLines, logicalLines,
    logicalLines, List.append_assoc, List.singleton_append,
    joinLines_append none 1 lines last _ (by simp) lastClosed]
  exact congrArg _ (joinLines_later (lines.length + 1) 1 none (Text.naturalLines second))

private theorem parse_append {first second : String} (closed : first.toList.getLast? ≠ some '\\')
    (ended : first.toList.getLast? ≠ some '\r')
    (unmarked : second.toList.head? ≠ some '\uFEFF') :
    parse (first ++ "\n" ++ second) =
      match parse first, parse second with
      | .error fault, _ => .error fault
      | .ok _, .error fault => .error (fault.later (Text.naturalLines first.toList).length)
      | .ok before, .ok after => .ok (before ++ after) := by
  have text : (first ++ "\n" ++ second).toList = first.toList ++ '\n' :: second.toList := by simp
  have lines := logicalLines_append_feed second.toList (getLast?_dropMark closed)
    (getLast?_dropMark ended)
  rw [length_naturalLines_dropMark] at lines
  rw [parse, parse, parse, text, dropMark_append_feed, dropMark_of_unmarked unmarked, lines,
    List.mapM_append, mapM_entry_later]
  cases (logicalLines (Text.naturalLines (dropMark first.toList))).mapM LogicalLine.entry with
  | error fault => rfl
  | ok before =>
    cases (logicalLines (Text.naturalLines second.toList)).mapM LogicalLine.entry <;> rfl

/-- Two texts with a line end between them read as the first and then the second. A fault of the
second is reported with the lines of the first before it. To load the one and then the
other makes the same store as to load them together, if both can be read. -/
theorem parse_append_feed (first second : String) (closed : first.toList.getLast? ≠ some '\\')
    (ended : first.toList.getLast? ≠ some '\r')
    (unmarked : second.toList.head? ≠ some '\uFEFF') :
    (parse (first ++ "\n" ++ second) =
      match parse first, parse second with
      | .error fault, _ => .error fault
      | .ok _, .error fault => .error (fault.later (Text.naturalLines first.toList).length)
      | .ok before, .ok after => .ok (before ++ after)) ∧
    ∀ (store : Store) (one other both : ByteStream), one.Carries first → other.Carries second →
      both.Carries (first ++ "\n" ++ second) →
      (∃ before, parse first = .ok before) → (∃ after, parse second = .ok after) →
      ∃ middle last, (store.loadStream one).value = .ok middle ∧
        (middle.loadStream other).value = .ok last ∧ (store.loadStream both).value = .ok last := by
  have appended := parse_append closed ended unmarked
  refine ⟨appended, ?_⟩
  rintro store one other both carriesFirst carriesSecond carriesBoth ⟨before, firstParsed⟩
    ⟨after, secondParsed⟩
  rw [firstParsed, secondParsed] at appended
  have together : (store.merge before).merge after = store.merge (before ++ after) := by
    rw [Store.merge, Store.merge, Store.merge, Properties.overlay_append]
  refine ⟨_, _, store.loadStream_of_carries carriesFirst firstParsed,
    Store.loadStream_of_carries _ carriesSecond secondParsed, ?_⟩
  rw [together]
  exact store.loadStream_of_carries carriesBoth appended

/-- A first text with a byte order mark, a CR LF and a joined line, and a second with an escape. -/
theorem parse_append_feed_joined :
    ("\uFEFFa=1\r\nb=\\\n 2".toList.getLast? ≠ some '\\' ∧
        "\uFEFFa=1\r\nb=\\\n 2".toList.getLast? ≠ some '\r' ∧
        "c=\\u0033".toList.head? ≠ some '\uFEFF') ∧
      parse ("\uFEFFa=1\r\nb=\\\n 2" ++ "\n" ++ "c=\\u0033") =
        .ok [("a", "1"), ("b", "2"), ("c", "3")] ∧
      ∃ middle last : Store,
        (({} : Store).loadStream
          (.whole (Text.Utf8.encode "\uFEFFa=1\r\nb=\\\n 2"))).value = .ok middle ∧
        (middle.loadStream (.whole (Text.Utf8.encode "c=\\u0033"))).value = .ok last ∧
        (({} : Store).loadStream (.whole (Text.Utf8.encode
          ("\uFEFFa=1\r\nb=\\\n 2" ++ "\n" ++ "c=\\u0033")))).value = .ok last := by
  have closed : "\uFEFFa=1\r\nb=\\\n 2".toList.getLast? ≠ some '\\' := by simp
  have ended : "\uFEFFa=1\r\nb=\\\n 2".toList.getLast? ≠ some '\r' := by simp
  have unmarked : "c=\\u0033".toList.head? ≠ some '\uFEFF' := by simp
  have readFirst : parse "\uFEFFa=1\r\nb=\\\n 2" = .ok [("a", "1"), ("b", "2")] := by rfl
  have readSecond : parse "c=\\u0033" = .ok [("c", "3")] := by rfl
  obtain ⟨appended, loaded⟩ := parse_append_feed _ _ closed ended unmarked
  rw [readFirst, readSecond] at appended
  refine ⟨⟨closed, ended, unmarked⟩, appended, ?_⟩
  exact loaded {} _ _ _ (carries_whole _) (carries_whole _) (carries_whole _)
    ⟨_, readFirst⟩ ⟨_, readSecond⟩

example : parse "\uFEFFa=1\r\nb=\\\n 2\n!\nc=\\u00" = .error ⟨5, ⟨['0', '0']⟩⟩ := by
  rfl

end PropertyStore.Document
