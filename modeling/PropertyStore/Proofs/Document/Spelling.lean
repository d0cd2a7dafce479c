import PropertyStore.Document.Print
import PropertyStore.Proofs.Document.Splitting
import PropertyStore.Proofs.Document.Token
import PropertyStore.Proofs.Text.Hex
import PropertyStore.Proofs.Text.Utf16

namespace PropertyStore.Document

open Grammar

/-- Pieces that stand for a text: each character is a piece of its own or all of its units. -/
inductive Spells : List Piece → List Char → Prop where
  | nil : Spells [] []
  | char (c : Char) (rest : Spells parts text) : Spells (.char c :: parts) (c :: text)
  | units (c : Char) (rest : Spells parts text) :
      Spells ((Text.Utf16.encodeChar c).map .unit ++ parts) (c :: text)

theorem joinPieces_units (waiting units : List UInt16) (rest : List Piece) :
    joinPieces waiting (units.map .unit ++ rest) = joinPieces (waiting ++ units) rest := by
  induction units generalizing waiting with
  | nil => simp
  | cons unit units ih =>
    rw [List.map_cons, List.cons_append, joinPieces, ih, List.append_assoc, List.singleton_append]

/-- Units that wait are those of the text so far, so neighbouring ones never pair wrongly. -/
theorem Spells.joinPieces_encode (spells : Spells parts text) (before : List Char) :
    joinPieces (Text.Utf16.encode before) parts = before ++ text := by
  induction spells generalizing before with
  | nil => rw [joinPieces, Text.Utf16.decode_encode, List.append_nil]
  | char c _ ih =>
    have rest := ih []
    rw [Text.Utf16.encode, List.flatMap_nil, List.nil_append] at rest
    rw [joinPieces, Text.Utf16.decode_encode, rest]
  | units c _ ih =>
    have more : Text.Utf16.encode before ++ Text.Utf16.encodeChar c =
        Text.Utf16.encode (before ++ [c]) := by simp [Text.Utf16.encode]
    rw [joinPieces_units, more, ih, List.append_assoc, List.singleton_append]

theorem Spells.joinPieces (spells : Spells parts text) :
    Document.joinPieces [] parts = text := by
  simpa [Text.Utf16.encode] using spells.joinPieces_encode []

/-- Units as escapes. The digits may be of either case. -/
inductive UnitsText : List UInt16 → List Char → Prop where
  | nil : UnitsText [] []
  | cons {four : List Char} (digits : four.map Char.toUpper = Text.hexDigits unit)
      (rest : UnitsText units written) :
      UnitsText (unit :: units) ('\\' :: 'u' :: four ++ written)

/-- The ways to write a character: as the escapes of its units, by the letter that stands for it,
behind a backslash, or as itself where that is `allowed`. -/
inductive Spelling (allowed : Prop) (c : Char) : List Char → Prop where
  | units (units : UnitsText (Text.Utf16.encodeChar c) written) : Spelling allowed c written
  | named (letter : Char)
      (pair : (letter, c) ∈ [('t', '\t'), ('n', '\n'), ('r', '\r'), ('f', '\x0c')]) :
      Spelling allowed c ['\\', letter]
  | behind (other : c ∉ ['t', 'n', 'r', 'f', 'u', '\n', '\r']) : Spelling allowed c ['\\', c]
  | plain (visible : c ∉ ['\\', '\n', '\r']) (fits : allowed) : Spelling allowed c [c]

/-- A text written character by character; which of them may be written as themselves depends on
whether they are the first. -/
inductive Spelled (literal : (first : Bool) → Char → Prop) :
    (first : Bool) → List Char → List Char → Prop where
  | nil : Spelled literal first [] []
  | cons (spelling : Spelling (literal first c) c written)
      (rest : Spelled literal false text raw) :
      Spelled literal first (c :: text) (written ++ raw)

private theorem textOf_append (first second : List Token) :
    textOf (first ++ second) = textOf first ++ textOf second :=
  List.flatMap_append

theorem UnitsText.tokens (written : UnitsText units text) : ∃ tokens : List Token,
    text = textOf tokens ∧ tokens.map Token.piece = units.map .unit := by
  induction written with
  | nil => exact ⟨[], rfl, rfl⟩
  | cons digits _ ih =>
    obtain ⟨a, b, c, d, rfl, spelled⟩ := Text.hexUnit?_of_toUpper digits
    obtain ⟨tokens, rfl, pieces⟩ := ih
    exact ⟨.unit a b c d _ spelled :: tokens, rfl, by rw [List.map_cons, pieces]; rfl⟩

theorem Spelling.tokens (spelling : Spelling allowed c written) : ∃ tokens : List Token,
    written = textOf tokens ∧
      ∀ parts text, Spells parts text → Spells (tokens.map Token.piece ++ parts) (c :: text) := by
  cases spelling with
  | units units =>
    obtain ⟨tokens, same, pieces⟩ := units.tokens
    exact ⟨tokens, same, fun parts text rest => pieces ▸ .units c rest⟩
  | named letter pair =>
    have simple : letter ≠ 'u' ∧ simpleEscape letter = c := by
      simp only [List.mem_cons, Prod.mk.injEq, List.not_mem_nil, or_false] at pair
      rcases pair with ⟨rfl, rfl⟩ | ⟨rfl, rfl⟩ | ⟨rfl, rfl⟩ | ⟨rfl, rfl⟩ <;> decide
    exact ⟨[.escape letter simple.1], rfl, fun parts text rest => simple.2 ▸ .char _ rest⟩
  | behind other =>
    have simple : c ≠ 'u' ∧ simpleEscape c = c := by
      unfold simpleEscape
      split <;> simp_all
    refine ⟨[.escape c simple.1], rfl, fun parts text rest => ?_⟩
    rw [List.map_singleton, Token.piece, simple.2]
    exact .char c rest
  | plain visible _ =>
    have ordinary : c ≠ '\\' := by simp_all
    exact ⟨[.literal c ordinary], rfl, fun parts text rest => .char c rest⟩

theorem Spelled.denotes (spelled : Spelled literal first text raw) : Denotes raw text := by
  have tokens : ∃ tokens : List Token, raw = textOf tokens ∧
      Spells (tokens.map Token.piece) text := by
    induction spelled with
    | nil => exact ⟨[], rfl, .nil⟩
    | cons spelling _ ih =>
      obtain ⟨before, rfl, spells⟩ := spelling.tokens
      obtain ⟨tokens, rfl, rest⟩ := ih
      exact ⟨before ++ tokens, (textOf_append _ _).symm, List.map_append ▸ spells _ _ rest⟩
  obtain ⟨tokens, same, spells⟩ := tokens
  exact ⟨tokens, same, spells.joinPieces.symm⟩

theorem Grammar.IsHexDigit.plain (digit : IsHexDigit c) :
    endsKey c = false ∧ c ≠ '\\' ∧ c ≠ '\n' ∧ c ≠ '\r' := by
  have other (strange : Char) (noValue : Text.hexDigit? strange = none) : c ≠ strange := by
    rintro rfl
    have value := (isHexDigit_iff c).mpr digit
    simp [noValue] at value
  have equals : c ≠ '=' := other _ rfl
  have colon : c ≠ ':' := other _ rfl
  have space : c ≠ ' ' := other _ rfl
  have tab : c ≠ '\t' := other _ rfl
  have page : c ≠ '\x0c' := other _ rfl
  refine ⟨?_, other _ rfl, other _ rfl, other _ rfl⟩
  simp [endsKey, Text.isBlank, equals, colon, space, tab, page]

private theorem isHexDigit_of_mem {digits : List Char}
    (upper : digits.map Char.toUpper = Text.hexDigits unit) (member : c ∈ digits) :
    IsHexDigit c := by
  obtain ⟨a, b, c', d, rfl, spelled⟩ := Text.hexUnit?_of_toUpper upper
  obtain ⟨first, second, third, fourth⟩ :=
    (isSome_hexUnit? a b c' d).mp (Option.isSome_of_eq_some spelled)
  simp only [List.mem_cons, List.not_mem_nil, or_false] at member
  rcases member with rfl | rfl | rfl | rfl <;> assumption

theorem Grammar.KeyEnds.plain (ends : KeyEnds rest key after)
    (stays : ∀ c ∈ text, endsKey c = false ∧ c ≠ '\\') :
    KeyEnds (text ++ rest) (text ++ key) after := by
  induction text with
  | nil => exact ends
  | cons c text ih =>
    obtain ⟨ordinary, noSlash⟩ := stays c List.mem_cons_self
    exact (ih fun other member => stays other (List.mem_cons_of_mem _ member)).literal c noSlash
      ordinary

theorem UnitsText.keyEnds (written : UnitsText units text) (ends : KeyEnds rest key after) :
    KeyEnds (text ++ rest) (text ++ key) after := by
  induction written with
  | nil => exact ends
  | @cons unit units text four digits _ ih =>
    have stays : ∀ c ∈ four, endsKey c = false ∧ c ≠ '\\' := by
      intro c member
      obtain ⟨ordinary, noSlash, _⟩ := (isHexDigit_of_mem digits member).plain
      exact ⟨ordinary, noSlash⟩
    have goesOn := (ih.plain stays).escape 'u'
    simpa using goesOn

theorem Spelling.keyEnds (spelling : Spelling allowed c written)
    (stays : allowed → endsKey c = false) (ends : KeyEnds rest key after) :
    KeyEnds (written ++ rest) (written ++ key) after := by
  cases spelling with
  | units units => exact units.keyEnds ends
  | named letter pair => exact ends.escape letter
  | behind other => exact ends.escape c
  | plain visible literal => exact ends.literal c (by simp_all) (stays literal)

theorem Spelled.keyEnds (spelled : Spelled literal first text raw)
    (stays : ∀ first c, literal first c → endsKey c = false) (ends : KeyEnds rest [] rest) :
    KeyEnds (raw ++ rest) raw rest := by
  induction spelled with
  | nil => exact ends
  | cons spelling _ ih =>
    rw [List.append_assoc]
    exact spelling.keyEnds (stays _ _) ih

theorem UnitsText.oneLine (written : UnitsText units text) : Text.OneLine text := by
  induction written with
  | nil => simp [Text.OneLine]
  | cons digits _ ih =>
    have hex : Text.OneLine _ := fun c member => (isHexDigit_of_mem digits member).plain.2.2
    exact ((hex.append ih).cons (by decide)).cons (by decide)

theorem Spelling.oneLine (spelling : Spelling allowed c written) : Text.OneLine written := by
  cases spelling with
  | units units => exact units.oneLine
  | named letter pair =>
    simp only [List.mem_cons, Prod.mk.injEq, List.not_mem_nil, or_false] at pair
    rcases pair with ⟨rfl, rfl⟩ | ⟨rfl, rfl⟩ | ⟨rfl, rfl⟩ | ⟨rfl, rfl⟩ <;> simp [Text.OneLine]
  | behind other => simp_all [Text.OneLine]
  | plain visible _ => simp_all [Text.OneLine]

theorem Spelled.oneLine (spelled : Spelled literal first text raw) : Text.OneLine raw := by
  induction spelled with
  | nil => simp [Text.OneLine]
  | cons spelling _ ih => exact spelling.oneLine.append ih

theorem Spelling.head (spelling : Spelling allowed c written) :
    ∃ d rest, written = d :: rest ∧ (d = '\\' ∨ d = c ∧ allowed) := by
  cases spelling with
  | units units =>
    have nonempty : Text.Utf16.encodeChar c ≠ [] := by
      unfold Text.Utf16.encodeChar
      split <;> simp
    generalize Text.Utf16.encodeChar c = values at units nonempty
    cases units with
    | nil => exact (nonempty rfl).elim
    | cons digits _ => exact ⟨_, _, rfl, .inl rfl⟩
  | named letter pair => exact ⟨_, _, rfl, .inl rfl⟩
  | behind other => exact ⟨_, _, rfl, .inl rfl⟩
  | plain visible literal => exact ⟨_, _, rfl, .inr ⟨rfl, literal⟩⟩

theorem Spelled.head (spelled : Spelled literal first text raw) (starts : raw.head? = some d) :
    d = '\\' ∨ text.head? = some d ∧ literal first d := by
  cases spelled with
  | nil => simp at starts
  | cons spelling _ =>
    obtain ⟨begins, rest, rfl, either⟩ := spelling.head
    obtain rfl : begins = d := by simpa using starts
    rcases either with slash | ⟨rfl, allowed⟩
    · exact .inl slash
    · exact .inr ⟨rfl, allowed⟩

/-- The form in which a character is written: behind a backslash, by its unit or as itself. A
blank is written as itself only if it is a space and `spaces` may be. -/
inductive Form (spaces : Bool) (c : Char) : List Char → Prop where
  | escaped (sign : Char) (simple : sign ≠ 'u') (stands : simpleEscape sign = c)
      (visible : sign ≠ '\n' ∧ sign ≠ '\r') : Form spaces c ['\\', sign]
  | unit (basic : c.toNat < 0x10000) :
      Form spaces c ('\\' :: 'u' :: Text.hexDigits c.toNat.toUInt16)
  | plain (visible : c ≠ '\n' ∧ c ≠ '\r') (mark : c ≠ '#' ∧ c ≠ '!' ∧ c ≠ '\\')
      (stays : endsKey c = true → spaces = true ∧ c = ' ') : Form spaces c [c]

theorem form_escapeChar (c : Char) : Form true c (escapeChar c) := by
  unfold escapeChar
  split
  · exact .escaped 't' (by decide) rfl (by decide)
  · exact .escaped 'n' (by decide) rfl (by decide)
  · exact .escaped 'r' (by decide) rfl (by decide)
  · exact .escaped 'f' (by decide) rfl (by decide)
  iterate 5 exact .escaped _ (by decide) rfl (by decide)
  · rename_i tab feed back page equals colon hash bang slash
    split
    · rename_i control
      refine .unit ?_
      simp only [isControl, Bool.or_eq_true, Bool.and_eq_true, decide_eq_true_eq] at control
      omega
    · refine .plain ⟨feed, back⟩ ⟨hash, bang, slash⟩ fun ends => ⟨rfl, ?_⟩
      simp only [endsKey, Text.isBlank, Bool.or_eq_true, beq_iff_eq] at ends
      rcases ends with (same | same) | (same | same) | same
      · exact (equals same).elim
      · exact (colon same).elim
      · exact same
      · exact (tab same).elim
      · exact (page same).elim

theorem form_keyChar (c : Char) :
    Form false c (if c = ' ' then ['\\', ' '] else escapeChar c) := by
  split
  · rename_i space
    exact .escaped ' ' (by decide) space.symm (by decide)
  · rename_i space
    have form := form_escapeChar c
    generalize escapeChar c = written at form ⊢
    cases form with
    | escaped sign simple stands visible => exact .escaped sign simple stands visible
    | unit basic => exact .unit basic
    | plain visible mark stays => exact .plain visible mark fun ends => absurd (stays ends).2 space

/-- What a written character may be that is written as itself. -/
def Unmistaken (spaces : Bool) (c : Char) : Prop :=
  c ≠ '#' ∧ c ≠ '!' ∧ (endsKey c = true → spaces = true ∧ c = ' ')

theorem Form.spelling (form : Form spaces c written) : Spelling (Unmistaken spaces c) c written := by
  cases form with
  | escaped sign simple stands visible =>
    subst stands
    unfold simpleEscape
    split
    · exact .named 't' (by simp)
    · exact .named 'n' (by simp)
    · exact .named 'r' (by simp)
    · exact .named 'f' (by simp)
    · exact .behind (by simp_all)
  | unit basic =>
    have units : Text.Utf16.encodeChar c = [c.toNat.toUInt16] := by
      simp [Text.Utf16.encodeChar, basic]
    have written := UnitsText.cons (Text.hexDigits_toUpper c.toNat.toUInt16) .nil
    rw [List.append_nil, ← units] at written
    exact .units written
  | plain visible mark stays => exact .plain (by simp_all) ⟨mark.1, mark.2.1, stays⟩

inductive Forms (spaces : Bool) : List Char → List Char → Prop where
  | nil : Forms spaces [] []
  | cons (form : Form spaces c written) (rest : Forms spaces text raw) :
      Forms spaces (c :: text) (written ++ raw)

theorem Forms.spelled (forms : Forms spaces text raw) (first : Bool) :
    Spelled (fun _ => Unmistaken spaces) first text raw := by
  induction forms generalizing first with
  | nil => exact .nil
  | cons form _ ih => exact .cons form.spelling (ih false)

theorem Forms.denotes (forms : Forms spaces text raw) : Denotes raw text :=
  (forms.spelled true).denotes

theorem Grammar.Denotes.closed (denotes : Denotes raw text) : isContinued raw = false := by
  obtain ⟨tokens, rfl, _⟩ := denotes
  simpa [isContinued_nil] using isContinued_textOf tokens []

theorem Forms.head (forms : Forms spaces text raw) (first : raw.head? = some d) :
    d ≠ '#' ∧ d ≠ '!' ∧ (endsKey d = true → spaces = true ∧ text.head? = some ' ') := by
  rcases (forms.spelled true).head first with rfl | ⟨starts, noHash, noBang, ends⟩
  · exact ⟨by decide, by decide, by simp [endsKey_slash]⟩
  · refine ⟨noHash, noBang, fun stop => ?_⟩
    obtain ⟨blank, rfl⟩ := ends stop
    exact ⟨blank, starts⟩

theorem Forms.oneLine (forms : Forms spaces text raw) : Text.OneLine raw :=
  (forms.spelled true).oneLine

theorem Forms.keyEnds (forms : Forms false text raw) (ends : KeyEnds rest [] rest) :
    KeyEnds (raw ++ rest) raw rest := by
  refine (forms.spelled true).keyEnds (fun _ c unmistaken => ?_) ends
  exact Bool.eq_false_iff.mpr fun stop => by simpa using unmistaken.2.2 stop

end PropertyStore.Document
