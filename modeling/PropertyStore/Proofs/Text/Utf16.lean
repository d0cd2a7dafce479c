import PropertyStore.Text.Utf16

namespace PropertyStore.Text.Utf16

theorem isHigh_iff (unit : UInt16) :
    isHigh unit = true ↔ 0xD800 ≤ unit.toNat ∧ unit.toNat ≤ 0xDBFF := by
  simp [isHigh, UInt16.le_iff_toNat_le]

theorem isLow_iff (unit : UInt16) :
    isLow unit = true ↔ 0xDC00 ≤ unit.toNat ∧ unit.toNat ≤ 0xDFFF := by
  simp [isLow, UInt16.le_iff_toNat_le]

private theorem decode_pair (high : isHigh first = true) (low : isLow second = true)
    (rest : List UInt16) : decode (first :: second :: rest) = pair first second :: decode rest := by
  rw [decode, high, low]
  rfl

/-- A unit stands alone unless it is a high surrogate with a low one behind it. -/
theorem decode_cons {unit : UInt16} {units : List UInt16}
    (alone : isHigh unit = true → ∀ next ∈ units.head?, isLow next = false) :
    decode (unit :: units) = single unit :: decode units := by
  cases units with
  | nil => rfl
  | cons next units =>
    have apart : (isHigh unit && isLow next) = false := by
      cases high : isHigh unit with
      | false => rfl
      | true => simpa using alone high next rfl
    rw [decode, apart]
    rfl

private theorem toNat_ofNat {code : Nat} (valid : code.isValidChar) :
    (Char.ofNat code).toNat = code := by
  rw [Char.ofNat, dif_pos valid]
  rfl

theorem toNat_pair (high : isHigh first = true) (low : isLow second = true) :
    (pair first second).toNat =
      0x10000 + (first.toNat - 0xD800) * 0x400 + (second.toNat - 0xDC00) := by
  rw [isHigh_iff] at high
  rw [isLow_iff] at low
  apply toNat_ofNat
  unfold Nat.isValidChar
  omega

theorem toNat_single (high : isHigh unit = false) (low : isLow unit = false) :
    (single unit).toNat = unit.toNat := by
  have bound := unit.toNat_lt
  rw [single, high, low]
  apply toNat_ofNat
  rw [← Bool.not_eq_true, isHigh_iff] at high
  rw [← Bool.not_eq_true, isLow_iff] at low
  unfold Nat.isValidChar
  omega

private theorem single_of_half (half : isHigh unit = true ∨ isLow unit = true) :
    single unit = '\uFFFD' := by
  rw [single, if_pos (by simpa using half)]
  rfl

private theorem toNat_cases (c : Char) :
    c.toNat < 0xD800 ∨ (0xDFFF < c.toNat ∧ c.toNat < 0x110000) := c.valid

private theorem decode_encodeChar (c : Char) (rest : List UInt16) :
    decode (encodeChar c ++ rest) = c :: decode rest := by
  have valid := toNat_cases c
  by_cases basic : c.toNat < 0x10000
  · have units : encodeChar c = [c.toNat.toUInt16] := if_pos basic
    have size : c.toNat.toUInt16.toNat = c.toNat := by simp; omega
    have high : isHigh c.toNat.toUInt16 = false := by
      rw [← Bool.not_eq_true, isHigh_iff]
      omega
    have low : isLow c.toNat.toUInt16 = false := by
      rw [← Bool.not_eq_true, isLow_iff]
      omega
    have same : single c.toNat.toUInt16 = c :=
      Char.toNat_inj.mp ((toNat_single high low).trans size)
    rw [units, List.singleton_append, decode_cons (by simp [high]), same]
  · have units : encodeChar c = [(0xD800 + (c.toNat - 0x10000) / 0x400).toUInt16,
        (0xDC00 + (c.toNat - 0x10000) % 0x400).toUInt16] := if_neg basic
    have highSize : (0xD800 + (c.toNat - 0x10000) / 0x400).toUInt16.toNat =
        0xD800 + (c.toNat - 0x10000) / 0x400 := by simp; omega
    have lowSize : (0xDC00 + (c.toNat - 0x10000) % 0x400).toUInt16.toNat =
        0xDC00 + (c.toNat - 0x10000) % 0x400 := by simp; omega
    have high : isHigh (0xD800 + (c.toNat - 0x10000) / 0x400).toUInt16 = true := by
      rw [isHigh_iff]
      omega
    have low : isLow (0xDC00 + (c.toNat - 0x10000) % 0x400).toUInt16 = true := by
      rw [isLow_iff]
      omega
    have same : pair (0xD800 + (c.toNat - 0x10000) / 0x400).toUInt16
        (0xDC00 + (c.toNat - 0x10000) % 0x400).toUInt16 = c := by
      rw [← Char.toNat_inj, toNat_pair high low, highSize, lowSize]
      omega
    rw [units, List.cons_append, List.singleton_append, decode_pair high low, same]

theorem decode_encode (text : List Char) : decode (encode text) = text := by
  induction text with
  | nil => rfl
  | cons c rest ih => rw [encode, List.flatMap_cons, decode_encodeChar, ← encode, ih]

/-- Units and the text that they stand for. A high surrogate and a low one directly behind it are
one character; every other surrogate is read as U+FFFD, and every other unit as its character. -/
inductive Decodes : List UInt16 → List Char → Prop where
  | nil : Decodes [] []
  | pair (high : isHigh first = true) (low : isLow second = true)
      (code : c.toNat = 0x10000 + (first.toNat - 0xD800) * 0x400 + (second.toNat - 0xDC00))
      (rest : Decodes units text) : Decodes (first :: second :: units) (c :: text)
  | lone (half : isHigh unit = true ∨ isLow unit = true)
      (alone : isHigh unit = true → ∀ next ∈ units.head?, isLow next = false)
      (rest : Decodes units text) : Decodes (unit :: units) ('\uFFFD' :: text)
  | single (whole : isHigh unit = false ∧ isLow unit = false) (code : c.toNat = unit.toNat)
      (rest : Decodes units text) : Decodes (unit :: units) (c :: text)

theorem Decodes.cons (alone : isHigh unit = true → ∀ next ∈ units.head?, isLow next = false)
    (rest : Decodes units text) : Decodes (unit :: units) (Utf16.single unit :: text) := by
  cases high : isHigh unit with
  | true => exact single_of_half (.inl high) ▸ .lone (.inl high) alone rest
  | false =>
    cases low : isLow unit with
    | true => exact single_of_half (.inr low) ▸ .lone (.inr low) alone rest
    | false => exact .single ⟨high, low⟩ (toNat_single high low) rest

theorem decodes_decode (units : List UInt16) : Decodes units (decode units) := by
  fun_induction decode units with
  | case1 => exact .nil
  | case2 unit => exact .cons (by simp) .nil
  | case3 first second rest paired ih =>
    simp only [Bool.and_eq_true] at paired
    exact .pair paired.1 paired.2 (toNat_pair paired.1 paired.2) ih
  | case4 first second rest unpaired ih =>
    refine .cons (fun high next behind => ?_) ih
    obtain rfl : second = next := by simpa using behind
    simpa [high] using unpaired

/-- Units are decoded as what they stand for, and stand for nothing else. -/
theorem decodes_iff : Decodes units text ↔ decode units = text := by
  constructor
  · intro decodes
    induction decodes with
    | nil => rfl
    | pair high low code _ ih =>
      rw [decode_pair high low, ih, Char.toNat_inj.mp ((toNat_pair high low).trans code.symm)]
    | lone half alone _ ih => rw [decode_cons alone, ih, single_of_half half]
    | single whole code _ ih =>
      rw [decode_cons (by simp [whole.1]), ih,
        Char.toNat_inj.mp ((toNat_single whole.1 whole.2).trans code.symm)]
  · rintro rfl
    exact decodes_decode units

end PropertyStore.Text.Utf16
