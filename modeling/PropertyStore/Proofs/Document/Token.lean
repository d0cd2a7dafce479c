import PropertyStore.Proofs.Document.Grammar

namespace PropertyStore.Document

open Grammar

theorem isHexDigit_iff (c : Char) : (Text.hexDigit? c).isSome = true ↔ IsHexDigit c := by
  unfold Text.hexDigit? IsHexDigit
  split
  · simp_all
  · split
    · simp_all
    · split <;> simp_all

theorem isSome_hexUnit? (a b c d : Char) : (Text.hexUnit? a b c d).isSome = true ↔
    IsHexDigit a ∧ IsHexDigit b ∧ IsHexDigit c ∧ IsHexDigit d := by
  simp only [← isHexDigit_iff, Text.hexUnit?]
  cases Text.hexDigit? a <;> cases Text.hexDigit? b <;> cases Text.hexDigit? c <;>
    cases Text.hexDigit? d <;> simp

theorem fourDigits_iff (a b c d : Char) (rest : List Char) :
    FourDigits (a :: b :: c :: d :: rest) ↔ (Text.hexUnit? a b c d).isSome = true := by
  simp [FourDigits, isSome_hexUnit?]

theorem pieces_bad (after : List Char) (bad : ¬ FourDigits after) :
    pieces ('\\' :: 'u' :: after) = .error ⟨after.take 4⟩ := by
  match after with
  | a :: b :: c :: d :: rest =>
    rw [fourDigits_iff, Bool.not_eq_true, Option.isSome_eq_false_iff, Option.isNone_iff_eq_none]
      at bad
    simp [pieces, bad]
  | [] | [_] | [_, _] | [_, _, _] => simp [pieces]

theorem pieces_token (token : Token) (rest : List Char) :
    pieces (token.text ++ rest) = (pieces rest).map (token.piece :: ·) := by
  cases token with
  | literal c plain => simp [Token.text, Token.piece, pieces, plain]
  | escape c simple => simp [Token.text, Token.piece, pieces, simple]
  | unit a b c d value spelled => simp [Token.text, Token.piece, pieces, spelled]

theorem pieces_append (tokens : List Token) (rest : List Char) :
    pieces (textOf tokens ++ rest) = (pieces rest).map (tokens.map Token.piece ++ ·) := by
  induction tokens with
  | nil => cases same : pieces rest <;> simp [textOf, Except.map, same]
  | cons token tokens ih =>
    have whole : textOf (token :: tokens) ++ rest = token.text ++ (textOf tokens ++ rest) := by
      simp [textOf]
    rw [whole, pieces_token, ih]
    cases pieces rest <;> rfl

theorem Grammar.IsHexDigit.ne_slash (digit : IsHexDigit c) : c ≠ '\\' := by
  rintro rfl
  exact absurd digit (by unfold IsHexDigit; decide)

theorem isContinued_token (token : Token) (rest : List Char) :
    isContinued (token.text ++ rest) = isContinued rest := by
  cases token with
  | literal c plain => exact isContinued_cons c rest plain
  | escape c simple => exact isContinued_escape c rest
  | unit a b c d value spelled =>
    obtain ⟨first, second, third, fourth⟩ :=
      (isSome_hexUnit? a b c d).mp (Option.isSome_of_eq_some spelled)
    have digits : isContinued [a, b, c, d] = false := by
      apply isContinued_of_plain
      simp [first.ne_slash, second.ne_slash, third.ne_slash, fourth.ne_slash]
    exact (isContinued_escape 'u' _).trans (isContinued_append [a, b, c, d] rest digits)

theorem isContinued_textOf (tokens : List Token) (rest : List Char) :
    isContinued (textOf tokens ++ rest) = isContinued rest := by
  induction tokens with
  | nil => rfl
  | cons token tokens ih =>
    rw [textOf, List.flatMap_cons, List.append_assoc, isContinued_token]
    exact ih

/-- A raw text that is tokens, or tokens and a malformed escape behind them. -/
inductive Tokenized (raw : List Char) : Prop where
  | whole (tokens : List Token) (same : raw = textOf tokens)
  | bad (tokens : List Token) (after : List Char)
      (same : raw = textOf tokens ++ '\\' :: 'u' :: after) (bad : ¬ FourDigits after)

theorem Tokenized.cons (token : Token) (rest : Tokenized raw) : Tokenized (token.text ++ raw) := by
  cases rest with
  | whole tokens same => exact .whole (token :: tokens) (by simp [same, textOf])
  | bad tokens after same bad => exact .bad (token :: tokens) after (by simp [same, textOf]) bad

/-- A character that begins no escape, not even one that is cut off, is no backslash. -/
theorem ne_slash_of_unescaping {rest : List Char} (lone : c = '\\' → rest = [] → False)
    (escapes : ∀ next more, c = '\\' → rest = next :: more → False) : c ≠ '\\' := by
  intro slash
  cases rest with
  | nil => exact lone slash rfl
  | cons next more => exact escapes next more slash rfl

private theorem tokenized (raw : List Char) (closed : isContinued raw = false) : Tokenized raw := by
  fun_induction pieces raw with
  | case1 => exact .whole [] rfl
  | case2 => simp at closed
  | case3 a b c d rest value spelled ih =>
    have clear := (isContinued_token (.unit a b c d value spelled) rest).symm.trans closed
    exact (ih clear).cons (.unit a b c d value spelled)
  | case4 a b c d rest unspelled =>
    exact .bad [] _ rfl (by simp [fourDigits_iff, unspelled])
  | case5 short few =>
    refine .bad [] short rfl ?_
    intro digits
    obtain ⟨enough, _⟩ := digits
    match short with
    | a :: b :: c :: d :: rest => exact few a b c d rest rfl
    | [] | [_] | [_, _] | [_, _, _] => simp at enough
  | case6 c rest _ simple ih =>
    exact (ih (by simpa using closed)).cons (.escape c simple)
  | case7 c rest lone _ _ escapes ih =>
    have plain : c ≠ '\\' := ne_slash_of_unescaping lone escapes
    rw [isContinued_cons c rest plain] at closed
    exact (ih closed).cons (.literal c plain)

private theorem pieces_textOf (tokens : List Token) :
    pieces (textOf tokens) = .ok (tokens.map Token.piece) := by
  have read := pieces_append tokens []
  rw [List.append_nil] at read
  simpa [pieces, Except.map] using read

private theorem pieces_firstBad (tokens : List Token) (after : List Char)
    (bad : ¬ FourDigits after) :
    pieces (textOf tokens ++ '\\' :: 'u' :: after) = .error ⟨after.take 4⟩ := by
  rw [pieces_append, pieces_bad after bad]
  rfl

theorem Grammar.Denotes.unescape (denotes : Denotes raw text) : unescape raw = .ok text := by
  obtain ⟨tokens, rfl, rfl⟩ := denotes
  rw [Document.unescape, pieces_textOf]
  rfl

theorem Grammar.FirstBad.unescape (first : FirstBad raw escape) :
    unescape raw = .error escape := by
  obtain ⟨tokens, after, rfl, bad, rfl⟩ := first
  rw [Document.unescape, pieces_firstBad tokens after bad]
  rfl

/-- A raw text without an open end stands for a text or has a first malformed escape. -/
theorem denotes_or_firstBad (raw : List Char) (closed : isContinued raw = false) :
    (∃ text, Denotes raw text) ∨ ∃ escape, FirstBad raw escape := by
  cases tokenized raw closed with
  | whole tokens same => exact .inl ⟨_, tokens, same, rfl⟩
  | bad tokens after same bad => exact .inr ⟨_, tokens, after, same, bad, rfl⟩

/-- What is read of a raw text without an open end is what all of its characters stand for. -/
theorem unescape_eq_ok_iff (closed : isContinued raw = false) :
    unescape raw = .ok text ↔ Denotes raw text := by
  refine ⟨fun read => ?_, fun denotes => denotes.unescape⟩
  rcases denotes_or_firstBad raw closed with ⟨other, denotes⟩ | ⟨escape, first⟩
  · have same := denotes.unescape.symm.trans read
    exact Except.ok.inj same ▸ denotes
  · cases first.unescape.symm.trans read

private theorem unescape_eq_error_iff (closed : isContinued raw = false) :
    unescape raw = .error escape ↔ FirstBad raw escape := by
  refine ⟨fun read => ?_, fun first => first.unescape⟩
  rcases denotes_or_firstBad raw closed with ⟨text, denotes⟩ | ⟨other, first⟩
  · cases denotes.unescape.symm.trans read
  · have same := first.unescape.symm.trans read
    exact Except.error.inj same ▸ first

private theorem fourDigits_of_append (digits : FourDigits (text ++ '\\' :: rest)) :
    FourDigits text := by
  obtain ⟨_, hex⟩ := digits
  have enough : 4 ≤ text.length := by
    by_contra few
    have member : '\\' ∈ (text ++ '\\' :: rest).take 4 := by
      rw [List.take_append]
      refine List.mem_append_right _ ?_
      obtain ⟨more, positive⟩ : ∃ more, 4 - text.length = more + 1 := ⟨3 - text.length, by omega⟩
      simp [positive]
    exact (hex _ member).ne_slash rfl
  refine ⟨enough, fun c member => hex c ?_⟩
  rwa [List.take_append_of_le_length enough]

theorem hasBadEscape_iff (closed : isContinued raw = false) :
    HasBadEscape raw ↔ ∃ escape, unescape raw = .error escape := by
  constructor
  · intro found
    obtain ⟨before, after, rfl, clear, bad⟩ := found
    rw [← isContinued_iff_openEnd, Bool.not_eq_true] at clear
    cases tokenized before clear with
    | whole tokens same =>
      exact ⟨_, FirstBad.unescape ⟨tokens, after, by rw [same], bad, rfl⟩⟩
    | bad tokens short same early =>
      refine ⟨_, FirstBad.unescape ⟨tokens, short ++ '\\' :: 'u' :: after, by simp [same], ?_, rfl⟩⟩
      exact fun digits => early (fourDigits_of_append digits)
  · intro failed
    obtain ⟨escape, read⟩ := failed
    obtain ⟨tokens, after, same, bad, _⟩ := (unescape_eq_error_iff closed).mp read
    have clear : isContinued (textOf tokens) = false := by
      simpa [isContinued_nil] using isContinued_textOf tokens []
    exact ⟨textOf tokens, after, same, by simp [← isContinued_iff_openEnd, clear], bad⟩

end PropertyStore.Document
