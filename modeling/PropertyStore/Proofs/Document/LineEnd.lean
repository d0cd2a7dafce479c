import PropertyStore.Proofs.Document.Reading

namespace PropertyStore.Document

open Grammar

/-- A text with each LF written as `ending`. -/
def endLines (ending text : List Char) : List Char :=
  text.flatMap fun c => if c = '\n' then ending else [c]

theorem endLines_feed (ending text : List Char) :
    endLines ending ('\n' :: text) = ending ++ endLines ending text := by
  simp [endLines]

theorem endLines_cons (ending text : List Char) (inside : c ≠ '\n') :
    endLines ending (c :: text) = c :: endLines ending text := by
  simp [endLines, inside]

private theorem head?_endLines_return
    (text : List Char) : (endLines ['\r'] text).head? ≠ some '\n' := by
  cases text with
  | nil => simp [endLines]
  | cons c text =>
    by_cases feed : c = '\n'
    · simp [feed, endLines_feed]
    · simp [feed, endLines_cons]

/-- The line ends of a text that has none but LF are read as they were, however they are written:
neighbouring ones neither merge nor split. -/
theorem unifyLineEnds_endLines (plain : '\r' ∉ text)
    (either : ending = ['\r', '\n'] ∨ ending = ['\r']) :
    Text.unifyLineEnds (endLines ending text) = text := by
  induction text with
  | nil => rfl
  | cons c text ih =>
    obtain ⟨other, behind⟩ : c ≠ '\r' ∧ '\r' ∉ text := by simpa [eq_comm] using plain
    by_cases feed : c = '\n'
    · subst feed
      rw [endLines_feed]
      rcases either with rfl | rfl
      · simpa [Text.unifyLineEnds] using ih behind
      -- A lone CR is one line end as long as no LF stands behind it.
      · rw [List.singleton_append, Text.unifyLineEnds_return _ (head?_endLines_return text),
          ih behind]
    · rw [endLines_cons _ _ feed, Text.unifyLineEnds_cons _ _ other, ih behind]

private theorem dropMark_endLines
    (either : ending = ['\r', '\n'] ∨ ending = ['\r']) (text : List Char) :
    dropMark (endLines ending text) = endLines ending (dropMark text) := by
  have body : Body text (dropMark text) := (body_iff text _).mpr rfl
  generalize dropMark text = bare at body ⊢
  cases body with
  | marked =>
    rw [endLines_cons _ _ (by decide)]
    rfl
  | plain unmarked =>
    apply dropMark_of_unmarked
    cases text with
    | nil => simp [endLines]
    | cons c text =>
      by_cases feed : c = '\n'
      · rcases either with rfl | rfl <;> simp [feed, endLines_feed]
      · rw [endLines_cons _ _ feed]
        exact unmarked

private theorem mem_of_mem_dropMark {text : List Char} (member : c ∈ dropMark text) : c ∈ text := by
  have body : Body text (dropMark text) := (body_iff text _).mpr rfl
  generalize dropMark text = bare at body member
  cases body with
  | marked => exact List.mem_cons_of_mem _ member
  | plain _ => exact member

/-- A text whose lines end in LF reads the same, fault and line number included, with CR LF or CR
in place of each LF. -/
theorem parse_endLines (text : String) (plain : '\r' ∉ text.toList) :
    parse (String.ofList (endLines ['\r', '\n'] text.toList)) = parse text ∧
      parse (String.ofList (endLines ['\r'] text.toList)) = parse text := by
  have reads (ending : List Char) (either : ending = ['\r', '\n'] ∨ ending = ['\r']) :
      parse (String.ofList (endLines ending text.toList)) = parse text := by
    have plain : '\r' ∉ dropMark text.toList := fun member => plain (mem_of_mem_dropMark member)
    rw [parse, parse, String.toList_ofList, dropMark_endLines either, Text.naturalLines,
      unifyLineEnds_endLines plain either, Text.naturalLines, Text.unifyLineEnds_eq_self plain]
  exact ⟨reads _ (.inl rfl), reads _ (.inr rfl)⟩

/-- Blank lines, a comment, a joined line and a malformed escape between and after line ends. -/
theorem parse_endLines_malformed :
    '\r' ∉ "\n\n#c\\\na=\\\n  b\n\n\\u12\n".toList ∧
      parse "\r\n\r\n#c\\\r\na=\\\r\n  b\r\n\r\n\\u12\r\n" = .error ⟨7, ⟨['1', '2']⟩⟩ ∧
      parse "\r\r#c\\\ra=\\\r  b\r\r\\u12\r" = .error ⟨7, ⟨['1', '2']⟩⟩ := by
  have plain : '\r' ∉ "\n\n#c\\\na=\\\n  b\n\n\\u12\n".toList := by simp
  have fault : parse "\n\n#c\\\na=\\\n  b\n\n\\u12\n" = .error ⟨7, ⟨['1', '2']⟩⟩ := by rfl
  have reads := parse_endLines _ plain
  rw [fault] at reads
  exact ⟨plain, reads⟩

end PropertyStore.Document
