import PropertyStore.Text.Cut
import PropertyStore.Usage.Form

/-! Reading the words of a command line. An option's value follows as a word of its own, or
after `=`, or directly behind a short name; a word of its own may not begin with `-` unless
it is just that. After `--` every word is an operand. An option's value is judged only when
the next option or operand comes, or at the end, so a wrong word in between is found first. -/

namespace PropertyStore.Usage

structure Reading where
  /-- The options given, by long name, each with its value if it has one. -/
  given : List (String × Option String) := []
  /-- The last option, not yet judged, and the value that came for it. -/
  pending : Option (Parameter × Option String) := none
  operands : List String := []

namespace Reading

def has (reading : Reading) (name : String) : Bool := reading.given.any (·.1 = name)

def value? (reading : Reading) (name : String) : Option String :=
  (List.lookup name reading.given).join

def awaitsValue (reading : Reading) : Bool :=
  match reading.pending with
  | some (_, none) => true
  | _ => false

/-- Keeps an option; none may be given twice. -/
def keep (reading : Reading) (parameter : Parameter) (value : Option String) :
    Except Refusal Reading :=
  if reading.has parameter.long then .error .argumentConflict
  else .ok { reading with given := reading.given ++ [(parameter.long, value)] }

def keepValue (reading : Reading) (parameter : Parameter) (value : String) :
    Except Refusal Reading := do
  let kept ← reading.keep parameter (some value)
  match parameter.role with
  | .valued rule => if rule.accepts value then return kept else .error .invalidValue
  | _ => .error .tooManyValues

def settle (reading : Reading) : Except Refusal Reading :=
  match reading.pending with
  | none => .ok reading
  | some (_, none) => .error .invalidValue
  | some (parameter, some value) => { reading with pending := none }.keepValue parameter value

def takeFlag (reading : Reading) (parameter : Parameter) : Except Refusal Reading := do
  let settled ← reading.settle
  match parameter.role with
  | .help => .error .help
  | .version => .error .version
  | _ => settled.keep parameter none

/-- Takes an option with the value that is joined to it, or leaves its value to come. -/
def takeValued (reading : Reading) (parameter : Parameter) (joined : Option String) :
    Except Refusal Reading := do
  let settled ← reading.settle
  match joined with
  | some value => settled.keepValue parameter value
  | none => return { settled with pending := some (parameter, none) }

def takeLong (reading : Reading) (form : Form) (name : String) (joined : Option String) :
    Except Refusal Reading :=
  match form.long? name with
  | none => .error .unknownArgument
  | some parameter =>
    match parameter.role, joined with
    | .valued _, _ => reading.takeValued parameter joined
    | _, some _ => .error .tooManyValues
    | _, none => reading.takeFlag parameter

/-- Takes short options in one word; what follows one that has a value is that value. -/
def takeShort (reading : Reading) (form : Form) : List Char → Except Refusal Reading
  | [] => .ok reading
  | letter :: rest =>
    match form.short? letter with
    | none => .error .unknownArgument
    | some parameter =>
      match parameter.role, rest with
      | .valued _, [] => reading.takeValued parameter none
      | .valued _, '=' :: value => reading.takeValued parameter (some (String.ofList value))
      | .valued _, value => reading.takeValued parameter (some (String.ofList value))
      | _, rest => do (← reading.takeFlag parameter).takeShort form rest

/-- Takes an operand; `escaped` says that it comes after `--`. -/
def takeOperand (reading : Reading) (form : Form) (escaped : Bool) (word : String) :
    Except Refusal Reading :=
  let taken := reading.settle.map fun settled =>
    { settled with operands := settled.operands ++ [word] }
  match form.operands with
  | .many => taken
  | .one => if reading.operands.isEmpty then taken else .error .unknownArgument
  | .none =>
    if form.commands.isEmpty || (escaped && form.isCommand word) then .error .unknownArgument
    else .error .invalidCommand

def takePlain (reading : Reading) (form : Form) (word : String) : Except Refusal Reading :=
  match reading.pending with
  | some (parameter, none) => .ok { reading with pending := some (parameter, some word) }
  | _ => reading.takeOperand form false word

end Reading

inductive Word where
  | escape
  | long (name : String) (joined : Option String)
  | short (letters : List Char)
  | plain
  deriving Repr, DecidableEq

def Word.ofText (text : String) : Word :=
  match text.toList with
  | ['-', '-'] => .escape
  | '-' :: '-' :: rest =>
    match Text.cutAt? '=' rest with
    | some (name, value) => .long (String.ofList name) (some (String.ofList value))
    | none => .long (String.ofList rest) none
  | ['-'] => .plain
  | '-' :: letters => .short letters
  | _ => .plain

/-- The answer to `help` and the words after it, each of which must name a command. There is
but one level of them. -/
def helpOn (form : Form) : List String → Refusal
  | [] => .help
  | [word] => if form.isCommand word then .help else .invalidCommand
  | _ => .invalidCommand

/-- Reads words up to the end or the first command, which is returned with the words after
it. -/
def Reading.readWords (form : Form) (reading : Reading) (escaped : Bool) :
    List String → Except Refusal (Reading × Option (String × List String))
  | [] => .ok (reading, none)
  | word :: rest =>
    if escaped then do
      (← reading.takeOperand form true word).readWords form true rest
    else if !reading.awaitsValue && form.commands.contains word then
      .ok (reading, some (word, rest))
    else if !reading.awaitsValue && form.isCommand word then .error (helpOn form rest)
    else match Word.ofText word with
      | .escape => reading.readWords form true rest
      | .long name joined => do
        (← reading.takeLong form name joined).readWords form false rest
      | .short letters => do
        (← reading.takeShort form letters).readWords form false rest
      | .plain => do
        (← reading.takePlain form word).readWords form false rest

def Form.read (form : Form) (words : List String) : Except Refusal Reading := do
  let (reading, _) ← ({} : Reading).readWords form false words
  let settled ← reading.settle
  if form.operands ≠ .none && settled.operands.isEmpty then .error .missingOperand
  else return settled

/-- Takes the value of an option from the environment where the command line gave none. -/
def Reading.takeVariable (environment : List (String × String)) (reading : Reading)
    (parameter : Parameter) : Except Refusal Reading :=
  match parameter.variableName.bind (List.lookup · environment) with
  | none => .ok reading
  | some value =>
    if reading.has parameter.long then .ok reading else reading.keepValue parameter value

end PropertyStore.Usage
