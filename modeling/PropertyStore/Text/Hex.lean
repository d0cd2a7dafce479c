namespace PropertyStore.Text

/-- The value of an ASCII hexadecimal digit, in either case. -/
def hexDigit? (c : Char) : Option Nat :=
  if '0' ≤ c ∧ c ≤ '9' then some (c.toNat - '0'.toNat)
  else if 'a' ≤ c ∧ c ≤ 'f' then some (c.toNat - 'a'.toNat + 10)
  else if 'A' ≤ c ∧ c ≤ 'F' then some (c.toNat - 'A'.toNat + 10)
  else none

/-- The unit that four digits spell, most significant digit first. -/
def hexUnit? (a b c d : Char) : Option UInt16 := do
  let first ← hexDigit? a
  let second ← hexDigit? b
  let third ← hexDigit? c
  let fourth ← hexDigit? d
  return (((first * 16 + second) * 16 + third) * 16 + fourth).toUInt16

def upperHexDigit (value : Nat) : Char := (Nat.digitChar value).toUpper

def hexDigits (unit : UInt16) : List Char :=
  [unit.toNat / 4096, unit.toNat / 256, unit.toNat / 16, unit.toNat].map
    fun shifted => upperHexDigit (shifted % 16)

end PropertyStore.Text
