namespace PropertyStore.Text

/-- A blank: space, tab or form feed. No other character separates words of a line. -/
def isBlank (c : Char) : Bool := c == ' ' || c == '\t' || c == '\x0c'

def dropBlanks (line : List Char) : List Char := line.dropWhile isBlank

def unifyLineEnds : List Char → List Char
  | [] => []
  | '\r' :: '\n' :: rest => '\n' :: unifyLineEnds rest
  | '\r' :: rest => '\n' :: unifyLineEnds rest
  | c :: rest => c :: unifyLineEnds rest

/-- The natural lines of a text, without their ends; the last one may be empty. -/
def naturalLines (text : List Char) : List (List Char) := (unifyLineEnds text).splitOn '\n'

end PropertyStore.Text
