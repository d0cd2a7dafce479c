import PropertyStore.Proofs.Document.Printed

/-! The head of a printed file. The writer breaks a comment at LF and CR LF, the reader also at
a lone CR, so a line of a comment may come back as several natural lines, and only the first
of them is sure to be a comment. -/

namespace PropertyStore.Document

open Grammar

/-- Behind no lone CR of a comment stands anything but blanks or another comment. -/
def Harmless (comment : Option String) : Prop :=
  ∀ text ∈ comment, ∀ line ∈ commentLines text.toList,
    ∀ part ∈ (Text.naturalLines line).tail, HoldsNothing part

/-- The natural lines that a line of the head is read as. -/
def headerParts (line : List Char) : List (List Char) :=
  Text.naturalLines (dropReturn ('#' :: line))

def headerLines (comment : Option String) (stamp : String) : List (List Char) :=
  ((comment.map fun text => commentLines text.toList).getD [] ++ [stamp.toList]).flatMap headerParts

private theorem naturalLines_append_end (text rest : List Char) :
    Text.naturalLines (text ++ '\n' :: rest) =
      Text.naturalLines (dropReturn text) ++ Text.naturalLines rest := by
  unfold dropReturn
  split
  · rename_i last
    obtain ⟨before, same⟩ := List.getLast?_eq_some_iff.mp last
    rw [same, List.dropLast_concat, List.append_assoc]
    exact Text.naturalLines_append_returnFeed before rest
  · rename_i last
    exact Text.naturalLines_append_feed text rest last

private theorem naturalLines_headerLines (lines : List (List Char)) (rest : List Char) :
    Text.naturalLines (lines.flatMap headerLine ++ rest) =
      lines.flatMap headerParts ++ Text.naturalLines rest := by
  induction lines with
  | nil => rfl
  | cons line lines ih =>
    have text : (line :: lines).flatMap headerLine ++ rest =
        ('#' :: line) ++ '\n' :: (lines.flatMap headerLine ++ rest) := by
      simp [headerLine]
    rw [text, naturalLines_append_end, ih, List.flatMap_cons, List.append_assoc]
    rfl

theorem naturalLines_header (comment : Option String) (stamp : String) (rest : List Char) :
    Text.naturalLines (header comment stamp ++ rest) =
      headerLines comment stamp ++ Text.naturalLines rest := by
  have text : header comment stamp =
      ((comment.map fun text => commentLines text.toList).getD [] ++ [stamp.toList]).flatMap
        headerLine := by
    cases comment <;> simp [header]
  rw [text, naturalLines_headerLines]
  rfl

theorem naturalLines_cons (c : Char) (text : List Char) (ordinary : c ≠ '\n' ∧ c ≠ '\r') :
    ∃ first rest, Text.naturalLines text = first :: rest ∧
      Text.naturalLines (c :: text) = (c :: first) :: rest := by
  have parsed : Text.Lines text (Text.naturalLines text) := Text.lines_iff.mpr rfl
  obtain ⟨first, rest, same, extended⟩ := parsed.cons ordinary
  exact ⟨first, rest, same, Text.lines_iff.mp extended⟩

theorem dropReturn_cons (c : Char) (line : List Char) (other : c ≠ '\r') :
    dropReturn (c :: line) = c :: dropReturn line := by
  cases line with
  | nil => simp [dropReturn, other]
  | cons next line =>
    simp only [dropReturn, List.getLast?_cons_cons]
    split <;> rfl

private theorem holdsNothing_nil : HoldsNothing [] := by
  simp [HoldsNothing, Text.dropBlanks]

private theorem holdsNothing_hash (line : List Char) : HoldsNothing ('#' :: line) := by
  rw [← isIgnored_iff]
  rfl

/-- Of a line of the head, what stands behind its first lone CR is all that can hold anything. -/
theorem holdsNothing_headerParts (line : List Char) :
    (∀ part ∈ headerParts line, HoldsNothing part) ↔
      ∀ part ∈ (Text.naturalLines line).tail, HoldsNothing part := by
  obtain ⟨first, rest, same, extended⟩ := naturalLines_cons '#' (dropReturn line) (by decide)
  have parts : (∀ part ∈ headerParts line, HoldsNothing part) ↔
      ∀ part ∈ rest, HoldsNothing part := by
    rw [headerParts, dropReturn_cons _ _ (by decide), extended]
    simp [holdsNothing_hash]
  rw [parts]
  unfold dropReturn at same
  split at same
  · rename_i last
    obtain ⟨before, whole⟩ := List.getLast?_eq_some_iff.mp last
    have lines : Text.naturalLines line = (first :: rest) ++ [[]] := by
      rw [whole, List.dropLast_concat] at same
      rw [whole, Text.naturalLines_append_return _ [] (by simp), same]
      rfl
    rw [lines]
    simp [or_imp, forall_and, holdsNothing_nil]
  · rw [same]
    rfl

theorem headerParts_of_oneLine (line : List Char) (whole : Text.OneLine line) :
    headerParts line = ['#' :: line] := by
  have same : dropReturn ('#' :: line) = '#' :: line := by
    rw [dropReturn_cons _ _ (by decide), dropReturn, if_neg whole.getLast?_ne_return]
  rw [headerParts, same]
  refine Text.OneLine.naturalLines fun c member => ?_
  rcases List.mem_cons.mp member with rfl | member
  · decide
  · exact whole c member

/-- The head of a file comes to nothing exactly if its comment is harmless. -/
theorem holdsNothing_headerLines (comment : Option String) (stamp : String)
    (whole : Text.OneLine stamp.toList) :
    (∀ part ∈ headerLines comment stamp, HoldsNothing part) ↔ Harmless comment := by
  have stampLine : ∀ part ∈ headerParts stamp.toList, HoldsNothing part := by
    rw [headerParts_of_oneLine _ whole]
    simp [holdsNothing_hash]
  simp only [headerLines, List.flatMap_append, List.flatMap_singleton, List.mem_append, or_imp,
    forall_and, List.mem_flatMap, forall_exists_index, and_imp]
  constructor
  · rintro ⟨comments, _⟩ text ⟨⟩ line member
    rw [← holdsNothing_headerParts]
    exact fun part inside => comments part line member inside
  · intro harmless
    refine ⟨fun part line member inside => ?_, stampLine⟩
    cases comment with
    | none => simp at member
    | some text => exact (holdsNothing_headerParts line).mpr (harmless text rfl line member) part inside

end PropertyStore.Document
