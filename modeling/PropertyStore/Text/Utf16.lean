/-! Sixteen-bit units of text. A high surrogate directly before a low one is one
supplementary character; any other surrogate stands for no character and is read as
the replacement character U+FFFD. -/

namespace PropertyStore.Text.Utf16

def isHigh (unit : UInt16) : Bool := 0xD800 ≤ unit && unit ≤ 0xDBFF

def isLow (unit : UInt16) : Bool := 0xDC00 ≤ unit && unit ≤ 0xDFFF

def replacement : Char := '\uFFFD'

/-- The character of a high surrogate and the low one after it. -/
def pair (high low : UInt16) : Char :=
  Char.ofNat (0x10000 + (high.toNat - 0xD800) * 0x400 + (low.toNat - 0xDC00))

/-- The character of a unit that is no half of a pair. -/
def single (unit : UInt16) : Char :=
  if isHigh unit || isLow unit then replacement else Char.ofNat unit.toNat

/-- The text of a run of units, pairs joined from left to right. -/
def decode : List UInt16 → List Char
  | [] => []
  | [unit] => [single unit]
  | first :: second :: rest =>
    if isHigh first && isLow second then pair first second :: decode rest
    else single first :: decode (second :: rest)

/-- The units of a character: one, or a surrogate pair from U+10000 on. -/
def encodeChar (c : Char) : List UInt16 :=
  if c.toNat < 0x10000 then [c.toNat.toUInt16]
  else
    let excess := c.toNat - 0x10000
    [(0xD800 + excess / 0x400).toUInt16, (0xDC00 + excess % 0x400).toUInt16]

def encode (text : List Char) : List UInt16 := text.flatMap encodeChar

end PropertyStore.Text.Utf16
