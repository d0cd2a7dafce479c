import PropertyStore.Document.Cautious
import PropertyStore.Proofs.Document.Reading
import PropertyStore.Proofs.Text.Hex
import PropertyStore.Proofs.Text.Utf8

/-! Reading comes to none of the places that it should not come to. Joined lines end in an even
number of backslashes, so a scanner is outside an escape wherever such a line is cut and at its end.
Each raw text is then made of whole tokens, up to its end or to a malformed `\u`, and only that can
stop the reader. -/

namespace PropertyStore.Document.Cautious

open Grammar

/-- Whether a scanner that has gone through the text is inside an escape. -/
def endsInside (text : List Char) : Bool := text.foldl insideAfter false

private theorem endsInside_eq_isContinued (text : List Char) :
    endsInside text = isContinued text := by
  induction text using List.reverseRecOn with
  | nil => rfl
  | append_singleton text c ih =>
    rw [isContinued_concat, ← ih, Bool.and_comm, endsInside, List.foldl_concat]
    rfl

/-- A line cut into a raw key, what separates the two, and a raw value, each of which begins and
ends outside an escape. -/
structure CutOutside (line key between value : List Char) : Prop where
  whole : line = key ++ between ++ value
  keyEnds : endsInside key = false
  valueBegins : endsInside (key ++ between) = false
  valueEnds : endsInside line = false
  /-- The same holds for who reads nothing but the value. -/
  valueAlone : endsInside value = false

private theorem exists_cutOutside (splits : Splits line key value)
    (closed : isContinued line = false) :
    ∃ between, CutOutside line key between value := by
  obtain ⟨between, whole, keyClosed, bothClosed, valueClosed⟩ := splits.exists_between closed
  simp only [← endsInside_eq_isContinued] at closed keyClosed bothClosed valueClosed
  exact ⟨between, whole, keyClosed, bothClosed, closed, valueClosed⟩

private theorem utf8ByteSize_ofList_cons (c : Char) (text : List Char) :
    (String.ofList (c :: text)).utf8ByteSize =
      c.utf8Size + (String.ofList text).utf8ByteSize := by
  rw [String.ofList_cons, String.utf8ByteSize_append, String.utf8ByteSize_singleton]

theorem keyEnd_escape (byte : Nat) (c : Char) (rest : List Char) :
    keyEnd false byte ('\\' :: c :: rest) =
      keyEnd false (byte + '\\'.utf8Size + c.utf8Size) rest :=
  rfl

private theorem keyEnd_literal (byte : Nat) (rest : List Char) (plain : c ≠ '\\')
    (stays : endsKey c = false) :
    keyEnd false byte (c :: rest) = keyEnd false (byte + c.utf8Size) rest := by
  simp [keyEnd, insideAfter, stays, beq_false_of_ne plain]

private theorem keyEnd_eq (line : List Char) (byte : Nat) :
    keyEnd false byte line = byte + (String.ofList (splitKey line).1).utf8ByteSize := by
  fun_induction splitKey line generalizing byte with
  | case1 => rfl
  | case2 c rest key after same ih =>
    rw [same] at ih
    simp only [keyEnd_escape, ih, utf8ByteSize_ofList_cons, Nat.add_assoc]
  | case3 c rest _ ends => simp [keyEnd, ends]
  | case4 c rest lone stays key after same ih =>
    rw [same] at ih
    by_cases slash : c = '\\'
    · cases rest with
      | nil =>
        obtain ⟨rfl, rfl⟩ : key = [] ∧ after = [] := by simpa [splitKey, eq_comm] using same
        subst slash
        rfl
      | cons d rest => exact absurd rfl (lone d rest slash)
    · rw [keyEnd_literal byte rest slash (by simpa using stays), ih, utf8ByteSize_ofList_cons,
        Nat.add_assoc]

private theorem splitEntry_eq (line : List Char) :
    splitEntry line = .ok (Document.splitEntry line) := by
  obtain ⟨key, after, same⟩ : ∃ key after, splitKey line = (key, after) := ⟨_, _, rfl⟩
  have ends := keyEnds_splitKey line
  have cut := keyEnd_eq line 0
  rw [same] at ends cut
  have before := Text.Utf8.slice?_append "" (String.ofList key) (String.ofList after)
  have behind := Text.Utf8.slice?_append (String.ofList key) (String.ofList after) ""
  simp only [String.empty_append, String.append_empty, ← String.ofList_append, ← ends.whole,
    String.utf8ByteSize_empty] at before behind
  simp only [splitEntry, cut, Nat.zero_add, before, behind, String.toList_ofList,
    Document.splitEntry, same]

private theorem isHexDigit_iff (c : Char) : isHexDigit c = true ↔ IsHexDigit c := by
  simp [isHexDigit, IsHexDigit, or_assoc]

private theorem fourDigits_iff_checked (after : List Char) :
    FourDigits after ↔ (after.take 4).length = 4 ∧ (after.take 4).all isHexDigit = true := by
  have enough : 4 ≤ after.length ↔ (after.take 4).length = 4 := by
    rw [List.length_take]
    omega
  simp only [FourDigits, enough, List.all_eq_true, isHexDigit_iff]

private theorem hexValue_cons {value digit : Nat} (read : Text.hexDigit? c = some digit)
    (fits : value * 16 + digit < 0x10000) (rest : List Char) :
    hexValue value (c :: rest) = hexValue (value * 16 + digit) rest := by
  simp [hexValue, read, fits]

private theorem unitOf_digits (spelled : Text.hexUnit? a b c d = some unit) :
    unitOf [a, b, c, d] = .ok unit := by
  simp only [Text.hexUnit?, Option.bind_eq_bind, Option.bind_eq_some_iff, Option.pure_def,
    Option.some.injEq] at spelled
  obtain ⟨first, readFirst, second, readSecond, third, readThird, fourth, readFourth, rfl⟩ :=
    spelled
  obtain ⟨firstSmall, _⟩ := Text.toUpper_of_hexDigit? readFirst
  obtain ⟨secondSmall, _⟩ := Text.toUpper_of_hexDigit? readSecond
  obtain ⟨thirdSmall, _⟩ := Text.toUpper_of_hexDigit? readThird
  obtain ⟨fourthSmall, _⟩ := Text.toUpper_of_hexDigit? readFourth
  have unsigned : a ≠ '+' := by
    rintro rfl
    simp [Text.hexDigit?] at readFirst
  have whole : unitOf [a, b, c, d] = (hexValue 0 [a, b, c, d]).map Nat.toUInt16 := by
    simp [unitOf, unsigned]
  rw [whole, hexValue_cons readFirst (by omega), hexValue_cons readSecond (by omega),
    hexValue_cons readThird (by omega), hexValue_cons readFourth (by omega)]
  simp [hexValue, Except.map]

private theorem exists_unit (digits : FourDigits after) : ∃ (token : Token) (unit : UInt16),
    '\\' :: 'u' :: after = token.text ++ after.drop 4 ∧ token.piece = .unit unit ∧
      unitOf (after.take 4) = .ok unit := by
  match after with
  | a :: b :: c :: d :: rest =>
    obtain ⟨unit, spelled⟩ := Option.isSome_iff_exists.mp ((fourDigits_iff a b c d rest).mp digits)
    exact ⟨.unit a b c d unit spelled, unit, rfl, rfl, unitOf_digits spelled⟩
  | [] | [_] | [_, _] | [_, _, _] => simp [FourDigits] at digits

/-- All that a reader does: it takes a token, or it stops. Digits that were checked never stop it. -/
inductive Step : List Char → Move → Prop where
  | finish : Step [] .finish
  | piece (token : Token) (rest : List Char) : Step (token.text ++ rest) (.piece token.piece rest)
  | dangling : Step ['\\'] (.stop .dangling)
  | malformed (bad : ¬ FourDigits after) :
      Step ('\\' :: 'u' :: after) (.stop (.malformed ⟨after.take 4⟩))

private theorem step_move (raw : List Char) : Step raw (move raw) := by
  fun_cases move raw with
  | case1 => exact .finish
  | case2 => exact .dangling
  | case3 after digits checked unit read =>
    obtain ⟨token, other, whole, piece, found⟩ :=
      exists_unit ((fourDigits_iff_checked after).mpr checked)
    obtain rfl : other = unit := Except.ok.inj (found.symm.trans read)
    rw [whole, ← piece]
    exact .piece token _
  | case4 after digits checked cause failed =>
    obtain ⟨_, _, _, _, found⟩ := exists_unit ((fourDigits_iff_checked after).mpr checked)
    cases found.symm.trans failed
  | case5 after digits unchecked =>
    exact .malformed fun four => unchecked ((fourDigits_iff_checked after).mp four)
  | case6 c rest simple => exact .piece (.escape c simple) rest
  | case7 c rest lone _ escapes =>
    exact .piece (.literal c (ne_slash_of_unescaping lone escapes)) rest

/-- Only a malformed escape stops the reader of a raw text that ends outside an escape. -/
theorem pieces_eq (raw : List Char) (closed : isContinued raw = false) :
    pieces raw = (Document.pieces raw).mapError .malformed := by
  fun_induction pieces raw with
  | case1 raw found =>
    have step := found ▸ step_move raw
    cases step
    rfl
  | case2 raw piece rest found ih =>
    have step := found ▸ step_move raw
    cases step with
    | piece token rest =>
      rw [isContinued_token] at closed
      rw [ih closed, pieces_token]
      cases Document.pieces rest <;> rfl
  | case3 raw cause found =>
    have step := found ▸ step_move raw
    cases step with
    | dangling => simp at closed
    | malformed bad =>
      rw [pieces_bad _ bad]
      rfl

private theorem unescape_eq (raw : List Char) (closed : isContinued raw = false) :
    unescape raw = (Document.unescape raw).mapError .malformed := by
  rw [unescape, pieces_eq raw closed, Document.unescape]
  cases Document.pieces raw <;> rfl

-- Inside an escape the two readers would part: one stops, the other drops the backslash.
example : unescape ['a', '\\'] = .error .dangling ∧ Document.unescape ['a', '\\'] = .ok ['a'] :=
  ⟨by cbv, rfl⟩

private theorem entry_eq (line : LogicalLine) (closed : isContinued line.text = false) :
    entry line = line.entry.mapError ofMalformed := by
  obtain ⟨key, value, same, splits⟩ := exists_splits line.text
  obtain ⟨keyClosed, valueClosed⟩ := splits.closed closed
  rw [Document.entry_eq line same, entry, splitEntry_eq, same]
  dsimp only [bind, Except.bind]
  rw [unescape_eq key keyClosed, unescape_eq value valueClosed]
  cases Document.unescape key <;> cases Document.unescape value <;> rfl

private theorem parse_eq (text : String) :
    parse text = (Document.parse text).mapError ofMalformed :=
  mapM_mapError fun line member => entry_eq line (closed_of_mem_logicalLines text line member)

/-- Nothing but a malformed escape stops the reading of a text. Every logical line, also one that the
end of the text cuts off, ends in an even number of backslashes. Its raw key and its raw value are
cut out between characters, and they begin and end outside an escape. Neither has a backslash at its
end that escapes nothing, and if it is read, none of its characters is left out. Four digits that
were checked come to a unit. -/
theorem parse_stops_only_at_malformed (text : String) :
    (∀ line ∈ logicalLines (Text.naturalLines (dropMark text.toList)),
      EvenEnd line.text ∧
      ∃ key between value, Document.splitEntry line.text = (key, value) ∧
        splitEntry line.text = .ok (key, value) ∧ CutOutside line.text key between value ∧
        ∀ raw ∈ [key, value],
          unescape raw = (Document.unescape raw).mapError .malformed ∧
          ∀ found, Document.unescape raw = .ok found → Denotes raw found) ∧
    (∀ digits : List Char, digits.length = 4 ∧ digits.all isHexDigit = true →
      ∃ unit, unitOf digits = .ok unit) ∧
    parse text = (Document.parse text).mapError ofMalformed ∧
    ∀ problem, parse text = .error problem →
      ∃ fault, Document.parse text = .error fault ∧ problem = ofMalformed fault := by
  refine ⟨fun line member => ?_, fun digits checked => ?_, parse_eq text, fun problem stopped => ?_⟩
  · have closed := closed_of_mem_logicalLines text line member
    obtain ⟨key, value, same, splits⟩ := exists_splits line.text
    obtain ⟨between, cut⟩ := exists_cutOutside splits closed
    obtain ⟨keyClosed, valueClosed⟩ := splits.closed closed
    refine ⟨evenEnd_of_closed line.text closed, key, between, value, same,
      (splitEntry_eq line.text).trans (congrArg Except.ok same), cut, fun raw either => ?_⟩
    have rawClosed : isContinued raw = false := by
      rcases List.mem_pair.mp either with rfl | rfl
      · exact keyClosed
      · exact valueClosed
    exact ⟨unescape_eq raw rawClosed, fun found => (unescape_eq_ok_iff rawClosed).mp⟩
  · have whole : digits.take 4 = digits := List.take_of_length_le (Nat.le_of_eq checked.1)
    obtain ⟨_, unit, _, _, found⟩ :=
      exists_unit ((fourDigits_iff_checked digits).mpr (by rwa [whole]))
    exact ⟨unit, whole ▸ found⟩
  · rw [parse_eq] at stopped
    cases read : Document.parse text with
    | error fault =>
      rw [read] at stopped
      exact ⟨fault, rfl, (Except.error.inj stopped).symm⟩
    | ok entries =>
      rw [read] at stopped
      cases stopped

/-- A line that goes on in the next one, which the end of the text cuts off. -/
theorem parse_stops_only_at_malformed_cut :
    (⟨1, "é\\=b=\\u0041\\\\".toList⟩ : LogicalLine) ∈
        logicalLines (Text.naturalLines (dropMark "é\\=b=\\u00\\\n 41\\\\\\".toList)) ∧
      EvenEnd "é\\=b=\\u0041\\\\".toList ∧
      splitEntry "é\\=b=\\u0041\\\\".toList = .ok ("é\\=b".toList, "\\u0041\\\\".toList) ∧
      unescape "\\u0041\\\\".toList = .ok ['A', '\\'] ∧
      Denotes "\\u0041\\\\".toList ['A', '\\'] := by
  have member : (⟨1, "é\\=b=\\u0041\\\\".toList⟩ : LogicalLine) ∈
      logicalLines (Text.naturalLines (dropMark "é\\=b=\\u00\\\n 41\\\\\\".toList)) := by decide
  have parts : Document.splitEntry "é\\=b=\\u0041\\\\".toList =
      ("é\\=b".toList, "\\u0041\\\\".toList) := by decide
  have plain : Document.unescape "\\u0041\\\\".toList = .ok ['A', '\\'] := by decide
  obtain ⟨lines, _⟩ := parse_stops_only_at_malformed "é\\=b=\\u00\\\n 41\\\\\\"
  obtain ⟨even, key, between, value, same, cut, _, read⟩ := lines _ member
  obtain ⟨rfl, rfl⟩ := Prod.mk.inj (parts.symm.trans same)
  obtain ⟨cautious, whole⟩ := read "\\u0041\\\\".toList (by simp)
  exact ⟨member, even, cut, by rw [cautious, plain]; rfl, whole _ plain⟩

end PropertyStore.Document.Cautious
