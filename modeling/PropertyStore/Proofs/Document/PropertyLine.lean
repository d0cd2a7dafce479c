import PropertyStore.Proofs.Document.Reading
import PropertyStore.Proofs.Document.Spelling

namespace PropertyStore.Document

open Grammar

/-- What can stand between a key and a value: blanks and at most one sign, but not nothing. -/
inductive Separator : (signed : Bool) → List Char → Prop where
  | blanks (present : separator ≠ []) (blank : ∀ c ∈ separator, Text.isBlank c = true) :
      Separator false separator
  | sign (sign : Char) (either : sign = '=' ∨ sign = ':')
      (blank : ∀ c ∈ leading ++ trailing, Text.isBlank c = true) :
      Separator true (leading ++ sign :: trailing)

/-- A character that can stand for itself in a key. -/
def KeyLiteral (first : Bool) (c : Char) : Prop :=
  endsKey c = false ∧ (first = true → c ≠ '#' ∧ c ≠ '!')

/-- A character that can stand for itself in a value behind a separator with a sign or without. -/
def ValueLiteral (signed first : Bool) (c : Char) : Prop :=
  first = true → Text.isBlank c = false ∧ (signed = false → c ≠ '=' ∧ c ≠ ':')

private theorem parse_of_splits {leading line : List Char}
    (blank : ∀ c ∈ leading, Text.isBlank c = true)
    (whole : Text.OneLine (leading ++ line)) (present : line ≠ [])
    (begins : ∀ c, line.head? = some c → Text.isBlank c = false ∧ c ≠ '#' ∧ c ≠ '!')
    (closed : isContinued line = false) (splits : Splits line rawKey rawValue)
    (key : Denotes rawKey keyText) (value : Denotes rawValue valueText)
    (unmarked : (leading ++ line).head? ≠ some '\uFEFF') :
    parse (String.ofList (leading ++ line)) =
      .ok [(String.ofList keyText, String.ofList valueText)] := by
  have stripped : Text.dropBlanks (leading ++ line) = line :=
    dropBlanks_append leading line blank fun c first => (begins c first).1
  have something : ¬ HoldsNothing (leading ++ line) := by
    intro nothing
    rw [HoldsNothing, stripped] at nothing
    obtain ⟨c, rest, same⟩ := List.exists_cons_of_ne_nil present
    have first : line.head? = some c := by simp [same]
    obtain ⟨_, noHash, noBang⟩ := begins c first
    exact (nothing c first).elim noHash noBang
  have joins : Joins [leading ++ line] line false := by
    have ends : ¬ OpenEnd (Text.dropBlanks (leading ++ line)) := by
      rw [stripped, ← isContinued_iff_openEnd, closed]
      decide
    have joins := Joins.whole ends
    rwa [stripped] at joins
  have logical : LogicalLinesOf (String.ofList (leading ++ line)) [⟨1, line⟩] := by
    refine ⟨leading ++ line, [leading ++ line], ?_, .last whole, ?_⟩
    · rw [String.toList_ofList]
      exact .plain unmarked
    · exact .joined something joins (fun _ => rfl) .nil
  exact (reads_iff _ _).mp ⟨_, logical, .entry splits key value .nil⟩

theorem Separator.oneLine (separates : Separator signed separator) : Text.OneLine separator := by
  cases separates with
  | blanks present blank => exact Text.oneLine_of_blank blank
  | sign sign either blank =>
    simp only [List.mem_append, or_imp, forall_and] at blank
    have ordinary : sign ≠ '\n' ∧ sign ≠ '\r' := by rcases either with rfl | rfl <;> decide
    exact (Text.oneLine_of_blank blank.1).append ((Text.oneLine_of_blank blank.2).cons ordinary)

theorem Separator.plain (separates : Separator signed separator) :
    isContinued separator = false := by
  apply isContinued_of_plain
  intro c member
  cases separates with
  | blanks present blank => exact isBlank_ne_slash c (blank c member)
  | sign sign either blank =>
    simp only [List.mem_append, List.mem_cons] at member blank
    rcases member with member | rfl | member
    · exact isBlank_ne_slash c (blank c (.inl member))
    · rcases either with rfl | rfl <;> decide
    · exact isBlank_ne_slash c (blank c (.inr member))

theorem Separator.keyEnds (separates : Separator signed separator) (value : List Char) :
    KeyEnds (separator ++ value) [] (separator ++ value) := by
  obtain ⟨c, rest, same, ends⟩ : ∃ c rest, separator = c :: rest ∧ endsKey c = true := by
    cases separates with
    | blanks present blank =>
      obtain ⟨c, rest, same⟩ := List.exists_cons_of_ne_nil present
      exact ⟨c, rest, same, by simp [endsKey, blank c (by simp [same])]⟩
    | @sign leading trailing sign either blank =>
      cases leading with
      | nil => exact ⟨sign, trailing, rfl, by rcases either with rfl | rfl <;> rfl⟩
      | cons c rest => exact ⟨c, _, rfl, by simp [endsKey, blank c (by simp)]⟩
  rw [same]
  exact keyEnds_stop c _ ends

theorem Separator.valueBegins (separates : Separator signed separator)
    (begins : ∀ c, value.head? = some c →
      Text.isBlank c = false ∧ (signed = false → c ≠ '=' ∧ c ≠ ':')) :
    ValueBegins (separator ++ value) value where
  parts := by
    cases separates with
    | blanks present blank =>
      refine ⟨separator, [], [], by simp, by simpa using blank, .inr (.inr ⟨rfl, ?_, ?_⟩)⟩
      · exact fun first => ((begins _ first).2 rfl).1 rfl
      · exact fun first => ((begins _ first).2 rfl).2 rfl
    | @sign leading trailing sign either blank =>
      refine ⟨leading, [sign], trailing, by simp, blank, ?_⟩
      rcases either with rfl | rfl
      · exact .inl rfl
      · exact .inr (.inl rfl)
  noBlank c first := (begins c first).1

theorem Spelled.value_begins (spelled : Spelled (ValueLiteral signed) true text raw) :
    ∀ c, raw.head? = some c → Text.isBlank c = false ∧ (signed = false → c ≠ '=' ∧ c ≠ ':') := by
  intro c first
  rcases spelled.head first with rfl | ⟨_, literal⟩
  · exact ⟨rfl, fun _ => by decide⟩
  · exact literal rfl

theorem Spelled.key_begins (spelled : Spelled KeyLiteral true text raw) (present : raw ≠ [])
    (rest : List Char) : ∀ c, (raw ++ rest).head? = some c →
      Text.isBlank c = false ∧ c ≠ '#' ∧ c ≠ '!' := by
  intro c first
  have starts : raw.head? = some c := by
    obtain ⟨d, more, rfl⟩ := List.exists_cons_of_ne_nil present
    simpa using first
  rcases spelled.head starts with rfl | ⟨_, stays, noMark⟩
  · decide
  · simp only [endsKey, Bool.or_eq_false_iff] at stays
    exact ⟨stays.2, noMark rfl⟩

theorem Spelled.eq_nil (spelled : Spelled literal first text []) : text = [] := by
  generalize written : ([] : List Char) = raw at spelled
  cases spelled with
  | nil => rfl
  | cons spelling _ =>
    obtain ⟨d, rest, rfl, _⟩ := spelling.head
    simp at written

private theorem parse_of_spelled {leading rawKey separator rawValue : List Char}
    (blank : ∀ c ∈ leading, Text.isBlank c = true)
    (begins : ∀ c, (rawKey ++ (separator ++ rawValue)).head? = some c →
      Text.isBlank c = false ∧ c ≠ '#' ∧ c ≠ '!')
    (spelledKey : Spelled KeyLiteral true keyText rawKey) (separates : Separator signed separator)
    (spelledValue : Spelled (ValueLiteral signed) true valueText rawValue)
    (unmarked : (leading ++ (rawKey ++ (separator ++ rawValue))).head? ≠ some '\uFEFF') :
    parse (String.ofList (leading ++ (rawKey ++ (separator ++ rawValue)))) =
      .ok [(String.ofList keyText, String.ofList valueText)] := by
  have key := spelledKey.denotes
  have value := spelledValue.denotes
  have stays (first : Bool) (c : Char) (literal : KeyLiteral first c) : endsKey c = false :=
    literal.1
  have splits : Splits (rawKey ++ (separator ++ rawValue)) rawKey rawValue :=
    ⟨_, spelledKey.keyEnds stays (separates.keyEnds rawValue),
      separates.valueBegins spelledValue.value_begins⟩
  have present : rawKey ++ (separator ++ rawValue) ≠ [] := by
    cases separates with
    | blanks present _ => simp [present]
    | sign => simp
  have closed : isContinued (rawKey ++ (separator ++ rawValue)) = false := by
    rw [isContinued_append _ _ key.closed, isContinued_append _ _ separates.plain, value.closed]
  have whole : Text.OneLine (leading ++ (rawKey ++ (separator ++ rawValue))) :=
    (Text.oneLine_of_blank blank).append
      (spelledKey.oneLine.append (separates.oneLine.append spelledValue.oneLine))
  exact parse_of_splits blank whole present begins closed splits key value unmarked

/-- A line reads as its property however its key and its value are written, whatever separates
them and whatever blanks come first. Only an empty key needs a sign behind it. -/
theorem parse_spelled_line {leading rawKey separator rawValue : List Char} {key value : String}
    {signed : Bool} (blank : ∀ c ∈ leading, Text.isBlank c = true)
    (spelledKey : Spelled KeyLiteral true key.toList rawKey)
    (separates : Separator signed separator) (named : key = "" → signed = true)
    (spelledValue : Spelled (ValueLiteral signed) true value.toList rawValue)
    (unmarked : (leading ++ rawKey ++ separator ++ rawValue).head? ≠ some '\uFEFF') :
    parse (String.ofList (leading ++ rawKey ++ separator ++ rawValue)) = .ok [(key, value)] := by
  by_cases present : rawKey = []
  · subst present
    have empty := spelledKey.eq_nil
    have unnamed : key = "" := String.toList_eq_nil_iff.mp empty
    -- The blanks before the sign stand at the start of the line, too.
    cases separates with
    | blanks => cases named unnamed
    | @sign before trailing sign either blanks =>
      have line : leading ++ [] ++ (before ++ sign :: trailing) ++ rawValue =
          (leading ++ before) ++ ([] ++ ((sign :: trailing) ++ rawValue)) := by
        simp
      rw [line] at unmarked ⊢
      have leads : ∀ c ∈ leading ++ before, Text.isBlank c = true := fun c member =>
        (List.mem_append.mp member).elim (blank c) fun member => blanks c (by simp [member])
      have begins : ∀ c, ([] ++ ((sign :: trailing) ++ rawValue)).head? = some c →
          Text.isBlank c = false ∧ c ≠ '#' ∧ c ≠ '!' := by
        rintro c ⟨rfl⟩
        rcases either with rfl | rfl <;> decide
      have separates : Separator true (sign :: trailing) :=
        @Separator.sign [] trailing sign either fun c member => blanks c (by simp_all)
      have read := parse_of_spelled leads begins spelledKey separates spelledValue unmarked
      simpa using read
  · have line : leading ++ rawKey ++ separator ++ rawValue =
        leading ++ (rawKey ++ (separator ++ rawValue)) := by
      simp
    rw [line] at unmarked ⊢
    have read := parse_of_spelled blank (spelledKey.key_begins present _) spelledKey separates
      spelledValue unmarked
    simpa using read

theorem parse_spelled_line_mixed :
    (∀ c ∈ [' ', '\t'], Text.isBlank c = true) ∧
      Spelled KeyLiteral true "k=😀".toList
        ['k', '\\', '=', '\\', 'u', 'D', '8', '3', 'D', '\\', 'u', 'D', 'e', '0', '0'] ∧
      Separator true [' ', ':', ' '] ∧ ("k=😀" = "" → true = true) ∧
      Spelled (ValueLiteral true) true "=\tv".toList ['=', '\\', 't', '\\', 'v'] ∧
      parse " \tk\\=\\uD83D\\uDe00 : =\\t\\v" = .ok [("k=😀", "=\tv")] := by
  have blank : ∀ c ∈ [' ', '\t'], Text.isBlank c = true := by simp [Text.isBlank]
  have key : Spelled KeyLiteral true "k=😀".toList
      ['k', '\\', '=', '\\', 'u', 'D', '8', '3', 'D', '\\', 'u', 'D', 'e', '0', '0'] := by
    have high : ['D', '8', '3', 'D'].map Char.toUpper = Text.hexDigits 0xD83D := by decide
    have low : ['D', 'e', '0', '0'].map Char.toUpper = Text.hexDigits 0xDE00 := by decide
    have pair : UnitsText (Text.Utf16.encodeChar '😀')
        ['\\', 'u', 'D', '8', '3', 'D', '\\', 'u', 'D', 'e', '0', '0'] :=
      .cons high (.cons low .nil)
    rw [String.toList_ofList]
    exact .cons (.plain (by decide) ⟨by decide, by decide⟩)
      (.cons (.behind (by decide)) (.cons (.units pair) .nil))
  have separator : Separator true [' ', ':', ' '] :=
    @Separator.sign [' '] [' '] ':' (.inr rfl) (by simp [Text.isBlank])
  have value : Spelled (ValueLiteral true) true "=\tv".toList ['=', '\\', 't', '\\', 'v'] := by
    rw [String.toList_ofList]
    exact .cons (.plain (by decide) fun _ => ⟨by decide, by decide⟩)
      (.cons (.named 't' (by decide)) (.cons (.behind (by decide)) .nil))
  have unmarked : ([' ', '\t'] ++
      ['k', '\\', '=', '\\', 'u', 'D', '8', '3', 'D', '\\', 'u', 'D', 'e', '0', '0'] ++
      [' ', ':', ' '] ++ ['=', '\\', 't', '\\', 'v']).head? ≠ some '\uFEFF' := by decide
  have read := parse_spelled_line blank key separator (fun _ => rfl) value unmarked
  exact ⟨blank, key, separator, fun _ => rfl, value, read⟩

end PropertyStore.Document
