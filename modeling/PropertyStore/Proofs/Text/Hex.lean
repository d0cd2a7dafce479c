import PropertyStore.Text.Hex

namespace PropertyStore.Text

private theorem hexDigit?_upperHexDigit :
    ∀ value < 16, hexDigit? (upperHexDigit value) = some value := by
  decide

private theorem toNat_digits (unit : UInt16) :
    ((unit.toNat / 4096 % 16 * 16 + unit.toNat / 256 % 16) * 16 + unit.toNat / 16 % 16) * 16 +
      unit.toNat % 16 = unit.toNat := by
  have bound := unit.toNat_lt
  omega

private theorem hexUnit?_hexDigits (unit : UInt16) :
    ∃ a b c d, hexDigits unit = [a, b, c, d] ∧ hexUnit? a b c d = some unit := by
  have digit (shifted : Nat) : hexDigit? (upperHexDigit (shifted % 16)) = some (shifted % 16) :=
    hexDigit?_upperHexDigit _ (Nat.mod_lt _ (by decide))
  refine ⟨_, _, _, _, rfl, ?_⟩
  simp only [hexUnit?, digit, Option.bind_eq_bind, Option.bind_some, toNat_digits]
  simp

private theorem hexDigit?_toUpper_letter : ∀ place < 26,
    hexDigit? (Char.ofNat ('a'.toNat + place)).toUpper =
      hexDigit? (Char.ofNat ('a'.toNat + place)) := by
  decide

private theorem hexDigit?_toUpper (c : Char) : hexDigit? c.toUpper = hexDigit? c := by
  by_cases lower : 'a' ≤ c ∧ c ≤ 'z'
  · have first : 'a'.toNat ≤ c.toNat := lower.1
    have last : c.toNat ≤ 'a'.toNat + 25 := lower.2
    obtain ⟨place, same⟩ := Nat.exists_eq_add_of_le first
    have letter := hexDigit?_toUpper_letter place (by omega)
    rwa [← same, Char.ofNat_toNat] at letter
  · have same : c.toUpper = c := dif_neg lower
    rw [same]

theorem hexDigits_toUpper (unit : UInt16) :
    (hexDigits unit).map Char.toUpper = hexDigits unit := by
  have idle : ∀ value < 16, (upperHexDigit value).toUpper = upperHexDigit value := by
    decide
  simp [hexDigits, idle _ (Nat.mod_lt _ (by decide))]

/-- Digits that in upper case are those of a unit spell the unit. -/
theorem hexUnit?_of_toUpper {digits : List Char} {unit : UInt16}
    (upper : digits.map Char.toUpper = hexDigits unit) :
    ∃ a b c d, digits = [a, b, c, d] ∧ hexUnit? a b c d = some unit := by
  obtain ⟨a', b', c', d', written, read⟩ := hexUnit?_hexDigits unit
  rw [written] at upper
  match digits, upper with
  | [a, b, c, d], upper =>
    obtain ⟨rfl, rfl, rfl, rfl⟩ :
        a.toUpper = a' ∧ b.toUpper = b' ∧ c.toUpper = c' ∧ d.toUpper = d' := by
      simpa using upper
    refine ⟨a, b, c, d, rfl, ?_⟩
    simpa only [hexUnit?, hexDigit?_toUpper] using read

private theorem hexDigit?_ascii : ∀ code < 128, ∀ value ∈ hexDigit? (Char.ofNat code),
    value < 16 ∧ (Char.ofNat code).toUpper = upperHexDigit value := by
  decide

theorem toUpper_of_hexDigit? (read : hexDigit? c = some value) :
    value < 16 ∧ c.toUpper = upperHexDigit value := by
  have ascii : c.toNat < 128 := by
    have last {limit : Char} (below : c ≤ limit) : c.toNat ≤ limit.toNat := below
    unfold hexDigit? at read
    split at read
    · exact Nat.lt_of_le_of_lt (last (by simp_all)) (by decide : '9'.toNat < 128)
    split at read
    · exact Nat.lt_of_le_of_lt (last (by simp_all)) (by decide : 'f'.toNat < 128)
    split at read
    · exact Nat.lt_of_le_of_lt (last (by simp_all)) (by decide : 'F'.toNat < 128)
    · cases read
  have found := hexDigit?_ascii c.toNat ascii
  rw [Char.ofNat_toNat] at found
  exact found value read

/-- Four digits spell a unit exactly if in upper case they are those that are written for it. -/
theorem hexUnit?_eq_some_iff (a b c d : Char) (unit : UInt16) :
    hexUnit? a b c d = some unit ↔ [a, b, c, d].map Char.toUpper = hexDigits unit := by
  constructor
  · intro spelled
    simp only [hexUnit?, Option.bind_eq_bind, Option.bind_eq_some_iff, Option.pure_def,
      Option.some.injEq] at spelled
    obtain ⟨first, readFirst, second, readSecond, third, readThird, fourth, readFourth, rfl⟩ :=
      spelled
    obtain ⟨_, firstDigit⟩ := toUpper_of_hexDigit? readFirst
    obtain ⟨_, secondDigit⟩ := toUpper_of_hexDigit? readSecond
    obtain ⟨_, thirdDigit⟩ := toUpper_of_hexDigit? readThird
    obtain ⟨_, fourthDigit⟩ := toUpper_of_hexDigit? readFourth
    have size : (((first * 16 + second) * 16 + third) * 16 + fourth).toUInt16.toNat =
        ((first * 16 + second) * 16 + third) * 16 + fourth := by
      simp
      omega
    simp only [hexDigits, size, List.map_cons, List.map_nil, firstDigit, secondDigit, thirdDigit,
      fourthDigit]
    congr <;> omega
  · intro upper
    obtain ⟨_, _, _, _, same, spelled⟩ := hexUnit?_of_toUpper upper
    obtain ⟨rfl, rfl, rfl, rfl⟩ : _ ∧ _ ∧ _ ∧ _ := by simpa using same
    exact spelled

end PropertyStore.Text
