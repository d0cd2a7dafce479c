import PropertyStore.Text.WhiteSpace

/-! How a pattern is read from some place on. No table of the cases or the kinds of
characters of all scripts is at hand, so that a pattern that would need one cannot be used. -/

namespace PropertyStore.Log.Pattern

/-- The settings that a pattern can change for what follows. -/
structure Mode where
  /-- Upper and lower case are the same. -/
  caseless : Bool := false
  /-- What is matched are the characters of all scripts, not the bytes of ASCII. -/
  unicode : Bool := true
  /-- White space and comments stand between the parts of the pattern and mean nothing. -/
  spaced : Bool := false
  deriving Repr, DecidableEq

/-- What follows white space and comments, which reach from `#` to the end of the line. -/
def afterBlank (inComment : Bool) : List Char → List Char
  | [] => []
  | c :: rest =>
    if inComment then afterBlank (c != '\n') rest
    else if c == '#' then afterBlank true rest
    else if Text.isWhiteSpace c then afterBlank false rest
    else c :: rest

namespace Mode

/-- The text from the next character on that means something. -/
def skip (mode : Mode) (text : List Char) : List Char :=
  if mode.spaced then afterBlank false text else text

/-- The character that decides whether a hyphen in front of the text stands for itself.
White space and one `#` are passed over, but no comment. -/
def glimpse? (mode : Mode) (text : List Char) : Option Char :=
  if mode.spaced then
    match text.dropWhile Text.isWhiteSpace with
    | '#' :: rest => (rest.dropWhile Text.isWhiteSpace).head?
    | rest => rest.head?
  else text.head?

/-- The mode with the setting of a flag put on or off. The flags `m`, `s`, `U` and `R` only
change what is matched. -/
def withFlag (mode : Mode) (flag : Char) (on : Bool) : Mode :=
  match flag with
  | 'i' => { mode with caseless := on }
  | 'u' => { mode with unicode := on }
  | 'x' => { mode with spaced := on }
  | _ => mode

/-- Whether a character can be matched; one that is given as a byte must be ASCII where
bytes are matched. -/
def admits (mode : Mode) (c : Char) (isByte : Bool) : Bool :=
  if mode.unicode then !mode.caseless else !isByte || c.toNat < 0x80

/-- Whether a character can be in a set. -/
def admitsInSet (mode : Mode) (c : Char) : Bool :=
  if mode.unicode then !mode.caseless else c.toNat < 0x80

/-- Whether a kind of characters that is known for ASCII alone can be matched. Its
complement has bytes that are no characters. -/
def admitsKind (mode : Mode) (negated : Bool) : Bool := !mode.unicode && !negated

/-- Whether a set, or its complement, can be matched. -/
def admitsSet (mode : Mode) (negated : Bool) : Bool := mode.unicode || !negated

/-- Whether a class of ASCII characters with a name, or its complement, can be in a set. -/
def admitsNamed (mode : Mode) (negated : Bool) : Bool :=
  if mode.unicode then !mode.caseless else !negated

end Mode

end PropertyStore.Log.Pattern
