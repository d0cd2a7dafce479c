namespace PropertyStore.Usage

inductive ValueRule where
  | text
  | nonEmpty
  | oneOf (words : List String)
  deriving Repr, DecidableEq

def ValueRule.accepts (rule : ValueRule) (value : String) : Bool :=
  match rule with
  | .text => true
  | .nonEmpty => value != ""
  | .oneOf words => words.contains value

inductive Role where
  | flag
  | help
  | version
  | valued (rule : ValueRule)
  deriving Repr, DecidableEq

/-- An option. Its long name also tells it from the others. -/
structure Parameter where
  long : String
  short : Option Char := none
  role : Role
  /-- The environment variable that gives its value when the command line does not. -/
  variableName : Option String := none
  deriving Repr, DecidableEq

/-- How many operands a command takes; where it takes any it needs at least one. -/
inductive Operands where
  | none
  | one
  | many
  deriving Repr, DecidableEq

structure Form where
  parameters : List Parameter
  operands : Operands := .none
  /-- The commands one of which must follow, if there are any. -/
  commands : List String := []

def helpWord : String := "help"

namespace Form

def long? (form : Form) (name : String) : Option Parameter :=
  form.parameters.find? (·.long = name)

def short? (form : Form) (letter : Char) : Option Parameter :=
  form.parameters.find? (·.short = some letter)

/-- Whether a word is a command here; `help` is one wherever there are others. -/
def isCommand (form : Form) (word : String) : Bool :=
  form.commands.contains word || (!form.commands.isEmpty && word = helpWord)

end Form

/-- Why a command line is not carried out: it is wrong, or it asks for a text that is shown
instead. -/
inductive Refusal where
  | invalidValue
  | unknownArgument
  | invalidCommand
  | argumentConflict
  | missingOperand
  | missingCommand
  | tooManyValues
  | help
  | version
  /-- Nothing at all was asked for. -/
  | nothingAsked
  deriving Repr, DecidableEq

/-- Showing a text that was asked for is no failure. -/
def Refusal.exitCode : Refusal → Nat
  | .help | .version => 0
  | _ => 2

end PropertyStore.Usage
