/-! The texts that spell a number that need not be whole: a sign, digits with a point among
or around them, and a power of ten; only some digit is required. Infinity and what is no
number have names. -/

namespace PropertyStore.Text

/-- The text behind a sign, if it begins with one. -/
def unsigned : List Char → List Char
  | '+' :: rest | '-' :: rest => rest
  | text => text

/-- Whether a text is made of digits, and has one. -/
def isDigits (text : List Char) : Bool := !text.isEmpty && text.all Char.isDigit

/-- Whether a text, which may be empty, gives the power of ten of a number. -/
def isExponent : List Char → Bool
  | [] => true
  | mark :: power => (mark == 'e' || mark == 'E') && isDigits (unsigned power)

def isDecimal (text : List Char) : Bool :=
  let whole := (unsigned text).takeWhile Char.isDigit
  match (unsigned text).drop whole.length with
  | '.' :: rest =>
    let part := rest.takeWhile Char.isDigit
    isDigits (whole ++ part) && isExponent (rest.drop part.length)
  | rest => isDigits whole && isExponent rest

/-- Whether a text is the name of a number that no digits spell, in either case. -/
def isNamedNumber (text : List Char) : Bool :=
  ["inf", "infinity", "nan"].contains (String.ofList ((unsigned text).map Char.toLower))

def isNumber (text : List Char) : Bool := isDecimal text || isNamedNumber text

end PropertyStore.Text
