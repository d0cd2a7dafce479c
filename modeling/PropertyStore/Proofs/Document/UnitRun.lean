import Mathlib.Data.List.Forall2
import PropertyStore.Proofs.Document.Spelling

/-! Raw texts by their runs of units. Neighbouring escapes of units are decoded together, and a
character or a simple escape between two runs stands for one character in its place: none of
them moves, gets lost or lets the runs pair. -/

namespace PropertyStore.Document

open Grammar

/-- A part of a raw text: a run of escapes of units, or a character that is not written by units. -/
inductive Part where
  | run (units : List UInt16)
  | char (c : Char)

/-- The ways to write a character without units: as itself or by a simple escape. -/
inductive Direct (c : Char) : List Char → Prop where
  | literal (plain : c ≠ '\\') : Direct c [c]
  | escape (sign : Char) (simple : sign ≠ 'u') (stands : simpleEscape sign = c) :
      Direct c ['\\', sign]

/-- A raw text and its parts, the runs as long as can be. A backslash at the very end belongs to
none of them. -/
inductive Divides : List Char → List Part → Prop where
  | nil : Divides [] []
  | dangling : Divides ['\\'] []
  | char (direct : Direct c written) (rest : Divides raw parts) :
      Divides (written ++ raw) (.char c :: parts)
  | run (present : units ≠ []) (written : UnitsText units text)
      (maximal : ∀ more, parts.head? ≠ some (.run more)) (rest : Divides raw parts) :
      Divides (text ++ raw) (.run units :: parts)

/-- What a part stands for: the text that is encoded by the units of a run, or the character. -/
inductive Part.StandsFor : Part → List Char → Prop where
  | run (decodes : Text.Utf16.Decodes units text) : StandsFor (.run units) text
  | char : StandsFor (.char c) [c]

def Part.text : Part → List Char
  | .run units => Text.Utf16.decode units
  | .char c => [c]

def Part.pieces : Part → List Piece
  | .run units => units.map .unit
  | .char c => [.char c]

theorem Part.standsFor_iff (part : Part) (read : List Char) :
    part.StandsFor read ↔ part.text = read := by
  constructor
  · rintro (decodes | _)
    · exact Text.Utf16.decodes_iff.mp decodes
    · rfl
  · rintro rfl
    cases part with
    | run units => exact .run (Text.Utf16.decodes_decode units)
    | char c => exact .char

theorem Direct.pieces (direct : Direct c written) (rest : List Char) :
    Document.pieces (written ++ rest) = (Document.pieces rest).map (.char c :: ·) := by
  cases direct with
  | literal plain => exact pieces_token (.literal c plain) rest
  | escape sign simple stands => exact stands ▸ pieces_token (.escape sign simple) rest

theorem UnitsText.pieces (written : UnitsText units text) (rest : List Char) :
    Document.pieces (text ++ rest) = (Document.pieces rest).map (units.map .unit ++ ·) := by
  obtain ⟨tokens, rfl, same⟩ := written.tokens
  rw [pieces_append, same]

theorem Divides.pieces (divides : Divides raw parts) :
    Document.pieces raw = .ok (parts.flatMap Part.pieces) := by
  induction divides with
  | nil => rfl
  | dangling => rfl
  | char direct _ ih =>
    rw [direct.pieces, ih]
    rfl
  | run _ written _ _ ih =>
    rw [written.pieces, ih]
    rfl

private theorem joinPieces_apart (waiting : List UInt16) (parts : List Piece)
    (apart : ∀ unit, parts.head? ≠ some (.unit unit)) :
    joinPieces waiting parts = Text.Utf16.decode waiting ++ joinPieces [] parts := by
  cases parts with
  | nil => simp [joinPieces, Text.Utf16.decode]
  | cons piece parts =>
    cases piece with
    | char c => simp [joinPieces, Text.Utf16.decode]
    | unit value => exact absurd rfl (apart value)

private theorem head?_flatMap_pieces {parts : List Part}
    (apart : ∀ more, parts.head? ≠ some (.run more))
    (unit : UInt16) : (parts.flatMap Part.pieces).head? ≠ some (.unit unit) := by
  match parts, apart with
  | [], _ => simp
  | .char c :: parts, _ => simp [Part.pieces]
  | .run more :: parts, apart => exact absurd rfl (apart more)

theorem Divides.joinPieces (divides : Divides raw parts) :
    Document.joinPieces [] (parts.flatMap Part.pieces) = parts.flatMap Part.text := by
  induction divides with
  | nil => rfl
  | dangling => rfl
  | char _ _ ih => simp [Part.pieces, Part.text, Document.joinPieces, Text.Utf16.decode, ih]
  | run _ _ maximal _ ih =>
    rw [List.flatMap_cons, Part.pieces, joinPieces_units,
      joinPieces_apart _ _ (head?_flatMap_pieces maximal), ih]
    rfl

/-- A unit in front of a raw text begins a run or belongs to the run that the text begins with. -/
theorem Divides.cons_unit {unit : UInt16} (digits : four.map Char.toUpper = Text.hexDigits unit)
    (rest : Divides raw parts) : ∃ parts, Divides ('\\' :: 'u' :: four ++ raw) parts := by
  by_cases begins : ∃ more, parts.head? = some (.run more)
  · obtain ⟨more, first⟩ := begins
    cases rest with
    | nil => simp at first
    | dangling => simp at first
    | char => simp at first
    | run _ written maximal rest =>
      have run := Divides.run (by simp) (.cons digits written) maximal rest
      exact ⟨_, by simpa using run⟩
  · have run := Divides.run (by simp) (.cons digits .nil) (by simpa using begins) rest
    exact ⟨_, by simpa using run⟩

private theorem exists_of_map_eq_ok {result : Except ε α} {f : α → β}
    (read : result.map f = .ok value) :
    ∃ before, result = .ok before := by
  cases result with
  | error fault => cases read
  | ok before => exact ⟨before, rfl⟩

private theorem exists_divides (read : pieces raw = .ok found) : ∃ parts, Divides raw parts := by
  fun_induction pieces raw generalizing found with
  | case1 => exact ⟨_, .nil⟩
  | case2 => exact ⟨_, .dangling⟩
  | case3 a b c d rest value spelled ih =>
    obtain ⟨_, later⟩ := exists_of_map_eq_ok read
    obtain ⟨parts, divides⟩ := ih later
    exact divides.cons_unit ((Text.hexUnit?_eq_some_iff a b c d value).mp spelled)
  | case4 => cases read
  | case5 => cases read
  | case6 c rest _ simple ih =>
    obtain ⟨_, later⟩ := exists_of_map_eq_ok read
    obtain ⟨parts, divides⟩ := ih later
    exact ⟨_, .char (.escape c simple rfl) divides⟩
  | case7 c rest lone _ _ escapes ih =>
    obtain ⟨_, later⟩ := exists_of_map_eq_ok read
    obtain ⟨parts, divides⟩ := ih later
    exact ⟨_, .char (.literal (ne_slash_of_unescaping lone escapes)) divides⟩

private theorem forall₂_standsFor_iff (parts : List Part) (texts : List (List Char)) :
    List.Forall₂ Part.StandsFor parts texts ↔ parts.map Part.text = texts := by
  have same : Part.StandsFor = fun part read => part.text = read :=
    funext₂ fun part read => propext (part.standsFor_iff read)
  rw [same, ← List.forall₂_map_left_iff (R := Eq), List.forall₂_eq_eq_eq]

theorem Divides.unescape (divides : Divides raw parts) :
    Document.unescape raw = .ok (parts.flatMap Part.text) := by
  rw [Document.unescape, divides.pieces, ← divides.joinPieces]
  rfl

theorem UnitsText.unescape (written : UnitsText (Text.Utf16.encode text) raw) :
    Document.unescape raw = .ok text := by
  have read := written.pieces []
  have joined := joinPieces_units [] (Text.Utf16.encode text) []
  simp only [List.append_nil, List.nil_append] at read joined
  rw [Document.unescape, read]
  simp only [Document.pieces, Except.map, joined, joinPieces, List.append_nil,
    Text.Utf16.decode_encode]

private theorem joinPieces_append_char (waiting : List UInt16) (before after : List Piece)
    (c : Char) :
    joinPieces waiting (before ++ .char c :: after) =
      joinPieces waiting before ++ c :: joinPieces [] after := by
  induction before generalizing waiting with
  | nil => rfl
  | cons piece before ih =>
    cases piece with
    | char first => simp [joinPieces, ih]
    | unit value => exact ih _

/-- A character behind a raw text that leaves no open end takes its place between the text and
what follows: units on its two sides are decoded apart. -/
theorem unescape_append_direct (read : unescape raw = .ok text) (closed : isContinued raw = false)
    (direct : Direct c written) (after : List Char) :
    unescape (raw ++ written ++ after) = (unescape after).map (text ++ c :: ·) := by
  obtain ⟨tokens, rfl, rfl⟩ := (unescape_eq_ok_iff closed).mp read
  rw [List.append_assoc, unescape, pieces_append, direct.pieces, unescape]
  cases pieces after with
  | error escape => rfl
  | ok parts => exact congrArg Except.ok (joinPieces_append_char [] _ parts c)

/-- A raw text is read part by part: each run of units as the text that they encode, with U+FFFD
for every surrogate that has no partner in the run, and all else character by character. So any
text can be written by its units alone, and what stands between two runs keeps them apart. -/
theorem unescape_by_runs (raw text : List Char) :
    (unescape raw = .ok text ↔ ∃ parts texts, Divides raw parts ∧
      List.Forall₂ Part.StandsFor parts texts ∧ text = texts.flatten) ∧
    (UnitsText (Text.Utf16.encode text) raw → unescape raw = .ok text) ∧
    ∀ c written after, unescape raw = .ok text → isContinued raw = false → Direct c written →
      unescape (raw ++ written ++ after) = (unescape after).map (text ++ c :: ·) := by
  refine ⟨⟨fun read => ?_, ?_⟩, fun written => ?_, fun c written after read closed direct => ?_⟩
  · obtain ⟨_, pieces⟩ := exists_of_map_eq_ok read
    obtain ⟨parts, divides⟩ := exists_divides pieces
    have same : text = (parts.map Part.text).flatten :=
      Except.ok.inj (read.symm.trans divides.unescape)
    exact ⟨parts, _, divides, (forall₂_standsFor_iff parts _).mpr rfl, same⟩
  · rintro ⟨parts, texts, divides, stand, rfl⟩
    rw [divides.unescape, ← (forall₂_standsFor_iff parts texts).mp stand, List.flatMap]
  · exact written.unescape
  · exact unescape_append_direct read closed direct after

/-- Two halves of a pair side by side, with digits of either case, and with an escaped `x` between
them. -/
theorem unescape_by_runs_halves :
    UnitsText (Text.Utf16.encode ['😀']) "\\uD83D\\ude00".toList ∧
      unescape "\\uD83D\\ude00".toList = .ok ['😀'] ∧
      unescape "\\uD83D".toList = .ok ['\uFFFD'] ∧ isContinued "\\uD83D".toList = false ∧
      Direct 'x' ['\\', 'x'] ∧
      unescape ("\\uD83D".toList ++ ['\\', 'x'] ++ "\\uDE00".toList) =
        .ok ['\uFFFD', 'x', '\uFFFD'] := by
  have high : ['D', '8', '3', 'D'].map Char.toUpper = Text.hexDigits 0xD83D := by decide
  have low : ['d', 'e', '0', '0'].map Char.toUpper = Text.hexDigits 0xDE00 := by decide
  have pair : UnitsText (Text.Utf16.encode ['😀']) "\\uD83D\\ude00".toList := by
    rw [String.toList_ofList]
    exact .cons high (.cons low .nil)
  have half : unescape "\\uD83D".toList = .ok ['\uFFFD'] := by decide
  have direct : Direct 'x' ['\\', 'x'] := .escape 'x' (by decide) rfl
  have apart := (unescape_by_runs "\\uD83D".toList ['\uFFFD']).2.2 'x' _ "\\uDE00".toList half
    (by decide) direct
  exact ⟨pair, (unescape_by_runs _ _).2.1 pair, half, by decide, direct, apart⟩

end PropertyStore.Document
