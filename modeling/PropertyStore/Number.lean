/-! Whole numbers as stored text: an optional sign and ASCII digits, nothing else. The
first position from the left at which a text stops being such a number, or leaves the
range, decides which fault is reported. -/

namespace PropertyStore

/-- The two ranges of numbers, signed 32-bit and 64-bit. -/
inductive Width where
  | int
  | long
  deriving Repr, DecidableEq

/-- The largest magnitude that a number of this width and sign may have. -/
def Width.limit (width : Width) (negative : Bool) : Nat :=
  let half := match width with
    | .int => 0x80000000
    | .long => 0x8000000000000000
  if negative then half else half - 1

inductive NumberFault where
  | empty
  | invalidDigit
  | tooLarge
  | tooSmall
  deriving Repr, DecidableEq

def NumberFault.message : NumberFault → String
  | .empty => "cannot parse integer from empty string"
  | .invalidDigit => "invalid digit found in string"
  | .tooLarge => "number too large to fit in target type"
  | .tooSmall => "number too small to fit in target type"

namespace Number

/-- The value of an ASCII digit. -/
def digit? (c : Char) : Option Nat :=
  if '0' ≤ c ∧ c ≤ '9' then some (c.toNat - '0'.toNat) else none

/-- Reads digits after those that spell `value`, as long as the value stays within `limit`;
`overflow` is the fault of leaving it. -/
def magnitude (limit : Nat) (overflow : NumberFault) (value : Nat) :
    List Char → Except NumberFault Nat
  | [] => .ok value
  | c :: rest =>
    match digit? c with
    | none => .error .invalidDigit
    | some digit =>
      let next := value * 10 + digit
      if next ≤ limit then magnitude limit overflow next rest else .error overflow

/-- The digits after a sign: at least one. -/
def unsigned (width : Width) (negative : Bool) (digits : List Char) : Except NumberFault Int :=
  if digits.isEmpty then .error .invalidDigit
  else
    let read := magnitude (width.limit negative) (if negative then .tooSmall else .tooLarge) 0 digits
    read.map fun value => if negative then -(value : Int) else value

def parse (width : Width) (text : String) : Except NumberFault Int :=
  match text.toList with
  | [] => .error .empty
  | '-' :: digits => unsigned width true digits
  | '+' :: digits => unsigned width false digits
  | digits => unsigned width false digits

def render (value : Int) : String :=
  if value < 0 then "-" ++ String.ofList (Nat.toDigits 10 value.natAbs)
  else String.ofList (Nat.toDigits 10 value.natAbs)

end Number

end PropertyStore
