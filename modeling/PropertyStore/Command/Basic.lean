import PropertyStore.Number

namespace PropertyStore

inductive Format where
  | text
  | json
  deriving Repr, DecidableEq

inductive ValueType where
  | text
  | number (width : Width)
  | truth
  deriving Repr, DecidableEq

inductive Command where
  | get (key : String) (default : Option String) (type : ValueType)
  | set (expressions : List String)
  | remove (keys : List String)
  | list (format : Format)
  | check (keys : List String)
  | clear
  | version (format : Format)
  deriving Repr, DecidableEq

namespace Format

def all : List Format := [.text, .json]

def word : Format → String
  | .text => "text"
  | .json => "json"

def ofWord? (word : String) : Option Format := all.find? (·.word = word)

end Format

namespace ValueType

def all : List ValueType := [.text, .number .int, .number .long, .truth]

def word : ValueType → String
  | .text => "string"
  | .number .int => "int"
  | .number .long => "long"
  | .truth => "bool"

def ofWord? (word : String) : Option ValueType := all.find? (·.word = word)

end ValueType

end PropertyStore
