namespace PropertyStore

inductive Json where
  | null
  | number (value : Nat)
  | text (value : String)
  | object (fields : List (String × Json))

namespace Json

/-- How one character is written inside quotes. -/
def escapeChar (c : Char) : List Char :=
  match c with
  | '"' => ['\\', '"']
  | '\\' => ['\\', '\\']
  | '\x08' => ['\\', 'b']
  | '\x0c' => ['\\', 'f']
  | '\n' => ['\\', 'n']
  | '\r' => ['\\', 'r']
  | '\t' => ['\\', 't']
  | c =>
    if c.toNat < 0x20 then
      ['\\', 'u', '0', '0', Nat.digitChar (c.toNat / 16), Nat.digitChar (c.toNat % 16)]
    else [c]

def quote (text : String) : String :=
  "\"" ++ String.ofList (text.toList.flatMap escapeChar) ++ "\""

mutual

def compact : Json → String
  | .null => "null"
  | .number value => toString value
  | .text value => quote value
  | .object fields => "\x7b" ++ ",".intercalate (compactFields fields) ++ "\x7d"

def compactFields : List (String × Json) → List String
  | [] => []
  | (name, value) :: rest => (quote name ++ ":" ++ value.compact) :: compactFields rest

end

def indent (level : Nat) : String := String.ofList (List.replicate (2 * level) ' ')

mutual

/-- The text over several lines, one field a line; `level` is how deep it stands. -/
def pretty (level : Nat) : Json → String
  | .null => "null"
  | .number value => toString value
  | .text value => quote value
  | .object [] => "\x7b\x7d"
  | .object (field :: rest) =>
    let lines := prettyFields (level + 1) (field :: rest)
    "\x7b\n" ++ ",\n".intercalate lines ++ "\n" ++ indent level ++ "\x7d"

def prettyFields (level : Nat) : List (String × Json) → List String
  | [] => []
  | (name, value) :: rest =>
    (indent level ++ quote name ++ ": " ++ value.pretty level) :: prettyFields level rest

end

end Json

end PropertyStore
