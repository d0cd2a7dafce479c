import PropertyStore.Log.Pattern.Mode
import PropertyStore.Text.Cut
import PropertyStore.Text.Letter

/-! What an open parenthesis begins: a group, which may have a name or a mode of its own, or
a change of mode for the rest of the group around it. -/

namespace PropertyStore.Log.Pattern

inductive Opening where
  | group (mode : Mode) (name : Option String)
  | change (mode : Mode)
  deriving Repr, DecidableEq

namespace Opening

/-- A name of a group begins with a letter or `_`. -/
def isName : List Char → Bool
  | [] => false
  | c :: rest =>
    (c == '_' || Text.isLetter c) &&
      rest.all fun c => ['_', '.', '[', ']'].contains c || Text.isAlphanumeric c

/-- Reads a name that ends with `>`. -/
def name? (text : List Char) : Option (String × List Char) := do
  let (name, rest) ← Text.cutAt? '>' text
  if isName name then some (String.ofList name, rest) else none

/-- Reads flags up to `:`, behind which a group follows, or `)`. Each flag is given once, those
behind a hyphen are put off, and there is one behind every hyphen. -/
def flags? (mode : Mode) (seen : List Char) : List Char → Option (Opening × List Char)
  | [] => none
  | ':' :: rest => if seen.head? = some '-' then none else some (group mode none, rest)
  | ')' :: rest =>
    if seen.isEmpty || seen.head? = some '-' then none else some (change mode, rest)
  | c :: rest =>
    if seen.contains c || !"imsUuRx-".contains c then none
    else flags? (mode.withFlag c (!seen.contains '-')) (c :: seen) rest

/-- Reads what stands behind an open parenthesis. -/
def read? (mode : Mode) (text : List Char) : Option (Opening × List Char) :=
  match mode.skip text with
  | '?' :: 'P' :: '<' :: rest | '?' :: '<' :: rest =>
    (name? rest).map fun (name, rest) => (group mode (some name), rest)
  | '?' :: rest => flags? mode [] rest
  | rest => some (group mode none, rest)

end Opening

end PropertyStore.Log.Pattern
