import Mathlib.Data.List.Induction
import PropertyStore.Store.Basic

/-! Numbers as stored text, said without a reader: which texts spell a number, which numbers have
a width, and at which place a text stops being such a number. The reader returns the number or the
fault that this gives, at both widths and whatever the default is. -/

namespace PropertyStore

/-- The numbers of a width, signed 32-bit or 64-bit. -/
def Width.Holds (width : Width) (number : Int) : Prop :=
  match width with
  | .int => -0x80000000 ≤ number ∧ number < 0x80000000
  | .long => -0x8000000000000000 ≤ number ∧ number < 0x8000000000000000

instance (width : Width) (number : Int) : Decidable (width.Holds number) :=
  match width with
  | .int => inferInstanceAs (Decidable (_ ∧ _))
  | .long => inferInstanceAs (Decidable (_ ∧ _))

namespace Number

/-- A text, whether a minus sign is its first character, and what stands behind its sign. -/
inductive Signed : List Char → (negative : Bool) → List Char → Prop where
  | minus : Signed ('-' :: body) true body
  | plus : Signed ('+' :: body) false body
  | bare (noMinus : text.head? ≠ some '-') (noPlus : text.head? ≠ some '+') :
      Signed text false text

def Digits (text : List Char) : Prop := ∀ c ∈ text, c.isDigit = true

instance (text : List Char) : Decidable (Digits text) := List.decidableBAll _ text

def signedValue (negative : Bool) (digits : List Char) : Int :=
  if negative then -(Nat.ofDigitChars 10 digits 0 : Int) else Nat.ofDigitChars 10 digits 0

/-- A text that is at most one sign and at least one digit, and its number. -/
def Spells (text : String) (number : Int) : Prop :=
  ∃ negative digits, Signed text.toList negative digits ∧ digits ≠ [] ∧ Digits digits ∧
    number = signedValue negative digits

/-- Why a text is no number of a width. It is empty, or the first place behind its sign at which
it goes wrong decides: there is no digit, or the digit there makes the number too long for the
width. -/
inductive Fails (width : Width) (text : List Char) : NumberFault → Prop where
  | empty (nothing : text = []) : Fails width text .empty
  | signAlone (signed : Signed text negative []) (something : text ≠ []) :
      Fails width text .invalidDigit
  | strange (signed : Signed text negative (before ++ c :: rest)) (digits : Digits before)
      (fits : width.Holds (signedValue negative before)) (other : c.isDigit = false) :
      Fails width text .invalidDigit
  | leaves (signed : Signed text negative (before ++ c :: rest)) (digits : Digits before)
      (fits : width.Holds (signedValue negative before)) (digit : c.isDigit = true)
      (beyond : ¬ width.Holds (signedValue negative (before ++ [c]))) :
      Fails width text (if negative then .tooSmall else .tooLarge)

theorem digit?_eq (c : Char) :
    digit? c = if c.isDigit then some (c.toNat - '0'.toNat) else none := by
  unfold digit? Char.isDigit
  simp only [ge_iff_le, Bool.and_eq_true, decide_eq_true_eq]
  rfl

theorem holds_signedValue_iff (width : Width) (negative : Bool) (digits : List Char) :
    width.Holds (signedValue negative digits) ↔
      Nat.ofDigitChars 10 digits 0 ≤ width.limit negative := by
  unfold signedValue Width.Holds Width.limit
  cases width <;> cases negative <;> simp <;> omega

private theorem le_ofDigitChars (digits : List Char) (value : Nat) :
    value ≤ Nat.ofDigitChars 10 digits value := by
  have positive : 1 ≤ 10 ^ digits.length := Nat.one_le_pow _ _ (by decide)
  rw [Nat.ofDigitChars_eq_ofDigitChars_zero]
  exact Nat.le_add_right_of_le (Nat.le_mul_of_pos_left value positive)

/-- Digits are read as long as the number that they make stays within the limit. -/
theorem magnitude_append {limit : Nat} {overflow : NumberFault} {digits : List Char}
    (all : Digits digits) (value : Nat) (within : Nat.ofDigitChars 10 digits value ≤ limit)
    (rest : List Char) : magnitude limit overflow value (digits ++ rest) =
      magnitude limit overflow (Nat.ofDigitChars 10 digits value) rest := by
  induction digits generalizing value with
  | nil => rfl
  | cons c digits ih =>
    obtain ⟨digit, others⟩ := List.forall_mem_cons.mp all
    rw [Nat.ofDigitChars_cons] at within ⊢
    have first : 10 * value + (c.toNat - '0'.toNat) ≤ limit :=
      Nat.le_trans (le_ofDigitChars digits _) within
    rw [List.cons_append, magnitude, digit?_eq, if_pos digit, ← ih others _ within]
    simp only [Nat.mul_comm value 10, if_pos first]

private theorem magnitude_digits {limit : Nat} {overflow : NumberFault} {digits : List Char}
    (all : Digits digits) (value : Nat) (within : Nat.ofDigitChars 10 digits value ≤ limit) :
    magnitude limit overflow value digits = .ok (Nat.ofDigitChars 10 digits value) := by
  simpa [magnitude] using magnitude_append all value within []

private theorem magnitude_strange {limit : Nat} {overflow : NumberFault} {value : Nat}
    (other : c.isDigit = false) (rest : List Char) :
    magnitude limit overflow value (c :: rest) = .error .invalidDigit := by
  rw [magnitude, digit?_eq, other]
  rfl

private theorem magnitude_leaves {limit : Nat} {overflow : NumberFault} {value : Nat}
    (digit : c.isDigit = true) (beyond : limit < 10 * value + (c.toNat - '0'.toNat))
    (rest : List Char) : magnitude limit overflow value (c :: rest) = .error overflow := by
  rw [magnitude, digit?_eq, if_pos digit]
  exact if_neg (by omega)

private theorem exists_signed (text : List Char) : ∃ negative body, Signed text negative body := by
  by_cases minus : text.head? = some '-'
  · obtain ⟨body, rfl⟩ := List.head?_eq_some_iff.mp minus
    exact ⟨_, _, .minus⟩
  by_cases plus : text.head? = some '+'
  · obtain ⟨body, rfl⟩ := List.head?_eq_some_iff.mp plus
    exact ⟨_, _, .plus⟩
  exact ⟨_, _, .bare minus plus⟩

private theorem parse_of_signed {text : String} (signed : Signed text.toList negative body)
    (something : text.toList ≠ []) (width : Width) :
    parse width text = unsigned width negative body := by
  unfold parse
  generalize text.toList = chars at signed something
  cases signed with
  | minus => rfl
  | plus => rfl
  | bare noMinus noPlus =>
    split
    · exact absurd rfl something
    · exact absurd rfl noMinus
    · exact absurd rfl noPlus
    · rfl

theorem Signed.ne_nil (signed : Signed text negative body) (something : body ≠ []) : text ≠ [] := by
  cases signed <;> simp_all

private theorem parse_of_body {text : String} (signed : Signed text.toList negative body)
    (something : body ≠ []) (width : Width) : parse width text =
      (magnitude (width.limit negative) (if negative then .tooSmall else .tooLarge) 0 body).map
        fun value => if negative then -(value : Int) else value := by
  rw [parse_of_signed signed (signed.ne_nil something), unsigned, if_neg (by simpa using something)]

theorem parse_of_spells {width : Width} {text : String} {number : Int}
    (spells : Spells text number) (fits : width.Holds number) : parse width text = .ok number := by
  obtain ⟨negative, digits, signed, something, all, rfl⟩ := spells
  have within := (holds_signedValue_iff width negative digits).mp fits
  rw [parse_of_body signed something, magnitude_digits all 0 within]
  rfl

theorem parse_of_fails {width : Width} {text : String} {fault : NumberFault}
    (fails : Fails width text.toList fault) : parse width text = .error fault := by
  cases fails with
  | empty nothing => rw [parse, nothing]
  | signAlone signed something => rw [parse_of_signed signed something]; rfl
  | strange signed digits fits other =>
    have within := (holds_signedValue_iff width _ _).mp fits
    rw [parse_of_body signed (by simp), magnitude_append digits 0 within, magnitude_strange other]
    rfl
  | @leaves negative before c rest signed digits fits digit beyond =>
    have within := (holds_signedValue_iff width _ _).mp fits
    rw [holds_signedValue_iff, Nat.ofDigitChars_append, Nat.ofDigitChars_cons, Nat.ofDigitChars_nil,
      Nat.not_le] at beyond
    rw [parse_of_body signed (by simp), magnitude_append digits 0 within,
      magnitude_leaves digit beyond]
    rfl

/-- Behind the sign a text is digits of a number that fits, or there is a first place at which it
is no such digits any more. -/
theorem fits_or_stops (width : Width) (negative : Bool) (body : List Char) :
    (Digits body ∧ width.Holds (signedValue negative body)) ∨
      ∃ before c rest, body = before ++ c :: rest ∧ Digits before ∧
        width.Holds (signedValue negative before) ∧
        (c.isDigit = false ∨
          c.isDigit = true ∧ ¬ width.Holds (signedValue negative (before ++ [c]))) := by
  induction body using List.reverseRecOn with
  | nil =>
    refine .inl ⟨by simp [Digits], ?_⟩
    rw [holds_signedValue_iff]
    exact Nat.zero_le _
  | append_singleton body c ih =>
    rcases ih with ⟨digits, fits⟩ | ⟨before, stop, rest, rfl, found⟩
    · cases digit : c.isDigit with
      | false => exact .inr ⟨body, c, [], rfl, digits, fits, .inl digit⟩
      | true =>
        by_cases more : width.Holds (signedValue negative (body ++ [c]))
        · refine .inl ⟨?_, more⟩
          simpa [Digits, or_imp, forall_and, digit] using digits
        · exact .inr ⟨body, c, [], rfl, digits, fits, .inr ⟨digit, more⟩⟩
    · exact .inr ⟨before, stop, rest ++ [c], by simp, found⟩

/-- A text spells a number of the width or fails to, and there is no third. -/
theorem spells_or_fails (width : Width) (text : String) :
    (∃ number, Spells text number ∧ width.Holds number) ∨ ∃ fault, Fails width text.toList fault := by
  by_cases nothing : text.toList = []
  · exact .inr ⟨_, .empty nothing⟩
  obtain ⟨negative, body, signed⟩ := exists_signed text.toList
  by_cases alone : body = []
  · subst alone
    exact .inr ⟨_, .signAlone signed nothing⟩
  rcases fits_or_stops width negative body with
    ⟨digits, fits⟩ | ⟨before, c, rest, rfl, digits, fits, other | ⟨digit, beyond⟩⟩
  · exact .inl ⟨_, ⟨negative, body, signed, alone, digits, rfl⟩, fits⟩
  · exact .inr ⟨_, .strange signed digits fits other⟩
  · exact .inr ⟨_, .leaves signed digits fits digit beyond⟩

private theorem parse_eq_ok_iff (width : Width) (text : String) (number : Int) :
    parse width text = .ok number ↔ Spells text number ∧ width.Holds number := by
  refine ⟨fun read => ?_, fun ⟨spells, fits⟩ => parse_of_spells spells fits⟩
  rcases spells_or_fails width text with ⟨other, spells, fits⟩ | ⟨fault, fails⟩
  · obtain rfl : other = number := Except.ok.inj ((parse_of_spells spells fits).symm.trans read)
    exact ⟨spells, fits⟩
  · cases (parse_of_fails fails).symm.trans read

private theorem parse_eq_error_iff (width : Width) (text : String) (fault : NumberFault) :
    parse width text = .error fault ↔ Fails width text.toList fault := by
  refine ⟨fun read => ?_, parse_of_fails⟩
  rcases spells_or_fails width text with ⟨number, spells, fits⟩ | ⟨other, fails⟩
  · cases (parse_of_spells spells fits).symm.trans read
  · obtain rfl : other = fault := Except.error.inj ((parse_of_fails fails).symm.trans read)
    exact fails

private theorem render_eq_toString (number : Int) : render number = toString number := by
  rw [Int.toString_eq_repr, Int.repr_eq_if, render, Nat.repr_eq_ofList_toDigits,
    Nat.repr_eq_ofList_toDigits]
  split <;> split
  · omega
  · rw [show number.natAbs = (-number).toNat by omega]
  · rw [show number.natAbs = number.toNat by omega]
  · omega

theorem spells_render (number : Int) : Spells (render number) number := by
  have digits : Digits (Nat.toDigits 10 number.natAbs) := fun c member =>
    Nat.isDigit_of_mem_toDigits (by decide) (by decide) member
  have value : Nat.ofDigitChars 10 (Nat.toDigits 10 number.natAbs) 0 = number.natAbs :=
    Nat.ofDigitChars_ten_toDigits
  unfold render
  split
  · refine ⟨true, _, ?_, Nat.toDigits_ne_nil, digits, ?_⟩
    · simp only [String.toList_append, String.toList_ofList]
      exact .minus
    · rw [signedValue, value, if_pos rfl]
      omega
  · have bare {sign : Char} (other : sign.isDigit = false) :
        (Nat.toDigits 10 number.natAbs).head? ≠ some sign := by
      intro first
      have digit := digits sign (List.mem_of_head? first)
      simp [other] at digit
    refine ⟨false, _, ?_, Nat.toDigits_ne_nil, digits, ?_⟩
    · rw [String.toList_ofList]
      exact .bare (bare rfl) (bare rfl)
    · rw [signedValue, value, if_neg (by decide)]
      omega

end Number

theorem Width.holds_long {number : Int} (fits : Width.int.Holds number) :
    Width.long.Holds number := by
  unfold Width.Holds at fits ⊢
  omega

namespace Store

variable {store : Store} {key value : String}

theorem number_of_held (held : store.get? key = some value) (width : Width) (default : Int) :
    store.number width key default =
      (Number.parse width value).mapError (Fault.badNumber key value) := by
  rw [number, held]

private theorem number_eq_ok_iff (held : store.get? key = some value) (width : Width)
    (default result : Int) : store.number width key default = .ok result ↔
      Number.Spells value result ∧ width.Holds result := by
  rw [number_of_held held, ← Number.parse_eq_ok_iff]
  cases Number.parse width value <;> simp [Except.mapError]

private theorem number_eq_error_iff (held : store.get? key = some value) (width : Width)
    (default : Int)
    (fault : Fault) : store.number width key default = .error fault ↔
      ∃ cause, Number.Fails width value.toList cause ∧ fault = .badNumber key value cause := by
  simp only [number_of_held held, ← Number.parse_eq_error_iff]
  cases Number.parse width value <;> simp [Except.mapError, eq_comm]

/-- A stored text is read as the number that it spells if the number has the width, and else as
the fault of the first place at which it goes wrong, whatever the default is. So the widths agree
where both have the number, and the decimal text of each number reads back. -/
theorem number_exact (held : store.get? key = some value) (width : Width) (default : Int) :
    (∀ result, store.number width key default = .ok result ↔
      Number.Spells value result ∧ width.Holds result) ∧
    (∀ fault, store.number width key default = .error fault ↔
      ∃ cause, Number.Fails width value.toList cause ∧ fault = .badNumber key value cause) ∧
    (∀ cause, Number.Fails width value.toList cause → (cause = .empty ↔ value = "")) ∧
    (∀ result other, store.getInt key default = .ok result → store.getLong key other = .ok result) ∧
    (∀ result other, store.getLong key default = .ok result → Width.int.Holds result →
      store.getInt key other = .ok result) ∧
    ∀ result other, width.Holds result →
      (store.set key (toString result)).number width key other = .ok result := by
  refine ⟨number_eq_ok_iff held width default, number_eq_error_iff held width default, ?_, ?_, ?_, ?_⟩
  · intro cause fails
    rw [← String.toList_eq_nil_iff]
    cases fails with
    | empty nothing => simp [nothing]
    | signAlone _ something => simp [something]
    | strange signed => simp [signed.ne_nil]
    | @leaves negative _ _ _ signed =>
      have something := signed.ne_nil (by simp)
      cases negative <;> simp [something]
  · intro result other read
    obtain ⟨spells, fits⟩ := (number_eq_ok_iff held .int default result).mp read
    exact (number_eq_ok_iff held .long other result).mpr ⟨spells, Width.holds_long fits⟩
  · intro result other read fits
    obtain ⟨spells, _⟩ := (number_eq_ok_iff held .long default result).mp read
    exact (number_eq_ok_iff held .int other result).mpr ⟨spells, fits⟩
  · intro result other fits
    have stored : (store.set key (toString result)).get? key = some (toString result) := by simp
    rw [number_eq_ok_iff stored, ← Number.render_eq_toString]
    exact ⟨Number.spells_render result, fits⟩

/-- The least number of 32 bits, and a text that leaves them before it has a bad character. -/
theorem number_exact_limits :
    let least := ({} : Store).set "n" "-2147483648"
    let beyond := ({} : Store).set "n" "+02147483648x"
    least.get? "n" = some "-2147483648" ∧ least.getInt "n" = .ok (-2147483648) ∧
      least.getLong "n" 7 = .ok (-2147483648) ∧
      beyond.get? "n" = some "+02147483648x" ∧
      beyond.getInt "n" 7 = .error (.badNumber "n" "+02147483648x" .tooLarge) ∧
      beyond.getLong "n" = .error (.badNumber "n" "+02147483648x" .invalidDigit) := by
  intro least beyond
  have held : least.get? "n" = some "-2147483648" := by simp [least]
  have stored : beyond.get? "n" = some "+02147483648x" := by simp [beyond]
  have spells : Number.Spells "-2147483648" (-2147483648) := by
    refine ⟨true, "2147483648".toList, ?_, by decide, by decide, by decide⟩
    rw [String.toList_ofList]
    exact .minus
  have read : least.getInt "n" = .ok (-2147483648) :=
    ((number_exact held .int 0).1 _).mpr ⟨spells, by decide⟩
  have leaves : Number.Fails .int "+02147483648x".toList .tooLarge := by
    have signed : Number.Signed "+02147483648x".toList false
        ("0214748364".toList ++ '8' :: ['x']) := by
      rw [String.toList_ofList]
      exact .plus
    exact .leaves signed (by decide) (by decide) rfl (by decide)
  have strange : Number.Fails .long "+02147483648x".toList .invalidDigit := by
    have signed : Number.Signed "+02147483648x".toList false
        ("02147483648".toList ++ 'x' :: []) := by
      rw [String.toList_ofList]
      exact .plus
    exact .strange signed (by decide) (by decide) rfl
  exact ⟨held, read, (number_exact held .int 0).2.2.2.1 _ 7 read, stored,
    ((number_exact stored .int 7).2.1 _).mpr ⟨_, leaves, rfl⟩,
    ((number_exact stored .long 0).2.1 _).mpr ⟨_, strange, rfl⟩⟩

end Store

end PropertyStore
