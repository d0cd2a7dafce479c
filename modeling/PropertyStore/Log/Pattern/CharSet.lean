import PropertyStore.Log.Pattern.Escape
import PropertyStore.Log.Pattern.Nesting
import PropertyStore.Text.Cut

/-! Sets of characters in brackets: characters, ranges of them, named classes and sets, with
`&&`, `--` and `~~` between two sets. Of a set only its depth is kept. -/

namespace PropertyStore.Log.Pattern.CharSet

def classNames : List String :=
  ["alnum", "alpha", "ascii", "blank", "cntrl", "digit", "graph", "lower", "print", "punct",
    "space", "upper", "word", "xdigit"]

/-- Reads a named class behind its bracket, `:name:]` or `:^name:]`: whether it stands for all
other characters, and what is left behind it. -/
def named? : List Char → Option (Bool × List Char)
  | ':' :: text =>
    let (negated, text) := match text with
      | '^' :: rest => (true, rest)
      | _ => (false, text)
    match Text.cutAt? ':' text with
    | some (name, ']' :: rest) =>
      if classNames.contains (String.ofList name) then some (negated, rest) else none
    | _ => none
  | _ => none

/-- Reads a character, which may be escaped. -/
def character? (mode : Mode) : List Char → Option (Escape × List Char)
  | [] => none
  | '\\' :: rest => Escape.read? mode rest
  | c :: rest => some (.literal c false, rest)

/-- Whether an item that is no range can be in a set. -/
def admitsSingle (mode : Mode) : Escape → Bool
  | .literal c _ => mode.admitsInSet c
  | .kind negated => mode.admitsKind negated
  | .anchor | .border => false

/-- Whether two items can be the ends of a range, which are characters in order. -/
def admitsRange (mode : Mode) : Escape → Escape → Bool
  | .literal first _, .literal last _ =>
    mode.admitsInSet first && mode.admitsInSet last && first ≤ last
  | _, _ => false

/-- Reads a range, or an item behind which no hyphen stands that makes one; what is left. -/
def item? (mode : Mode) (text : List Char) : Option (List Char) := do
  let (first, rest) ← character? mode text
  let rest := mode.skip rest
  let single := if admitsSingle mode first then some rest else none
  match rest with
  | '-' :: behind =>
    match mode.glimpse? behind with
    | some ']' | some '-' => single
    | _ =>
      let (last, rest) ← character? mode (mode.skip behind)
      if admitsRange mode first last then some rest else none
  | _ => single

/-- What is left behind the mark of a complement, if there is one. -/
def complement? (mode : Mode) (text : List Char) : Option (List Char) :=
  match mode.skip text with
  | '^' :: rest => if mode.admitsSet true then some rest else none
  | rest => some rest

/-- Reads up to the bracket that closes the outermost set: how deep it is, and what is left
behind it. While `leading`, nothing but hyphens has been read of the innermost set; then a
hyphen stands for itself, and so does a bracket in front. Every step takes a character at
least. -/
def contents? (mode : Mode) :
    (fuel : Nat) → (leading : Bool) → Parts → (around : List Parts) → List Char →
      Option (Nat × List Char)
  | 0, _, _, _, _ => none
  | fuel + 1, leading, parts, around, text =>
    match mode.skip text with
    | [] => none
    | c :: rest =>
      if leading && (c == '-' || c == ']' && parts.count == 0) then
        if mode.admitsInSet c then contents? mode fuel (c == '-') (parts.add 0) around rest
        else none
      else
        match c, rest with
        | ']', rest =>
          match around with
          | [] => some (parts.total + 1, rest)
          | outer :: around => contents? mode fuel false (outer.add (parts.total + 1)) around rest
        | '[', rest =>
          match named? rest with
          | some (negated, rest) =>
            if mode.admitsNamed negated then contents? mode fuel false (parts.add 0) around rest
            else none
          | none => do
            let rest ← complement? mode rest
            contents? mode fuel true {} (parts :: around) rest
        | '&', '&' :: rest | '-', '-' :: rest | '~', '~' :: rest =>
          contents? mode fuel false parts.operator around rest
        | c, rest => do
          let rest ← item? mode (c :: rest)
          contents? mode fuel false (parts.add 0) around rest

/-- Reads a set behind the bracket that opens it: its depth, and what is left behind it. -/
def read? (mode : Mode) (text : List Char) : Option (Nat × List Char) := do
  let rest ← complement? mode text
  contents? mode (rest.length + 1) true {} [] rest

end PropertyStore.Log.Pattern.CharSet
