import PropertyStore.Usage.Invocation

namespace PropertyStore.Usage

namespace Word

theorem ofText_plain {text : String} (plain : text.toList.head? ≠ some '-') :
    ofText text = .plain := by
  unfold ofText
  split
  all_goals simp_all

theorem ofText_joined {name : String} (named : '=' ∉ name.toList) (value : String) :
    ofText ("--" ++ name ++ "=" ++ value) = .long name (some value) := by
  have text : ("--" ++ name ++ "=" ++ value).toList =
      '-' :: '-' :: (name.toList ++ '=' :: value.toList) := by
    simp
  have cut : Text.cutAt? '=' (name.toList ++ '=' :: value.toList) =
      some (name.toList, value.toList) :=
    (Text.cutAt?_eq_some_iff _ _ _ _).mpr ⟨named, rfl⟩
  unfold ofText
  rw [text]
  split
  case h_4 letters other _ same => exact (other _ (List.cons.inj same).2.symm).elim
  all_goals simp_all

theorem ofText_short {c : Char} (other : c ≠ '-') (letters : List Char) :
    ofText ("-" ++ String.ofList (c :: letters)) = .short (c :: letters) := by
  have text : ("-" ++ String.ofList (c :: letters)).toList = '-' :: c :: letters := by
    simp
  unfold ofText
  rw [text]
  split
  all_goals simp_all

end Word

variable {form : Form} {reading settled : Reading} {parameter : Parameter} {rule : ValueRule}
  {word value name : String} {rest : List String}

namespace Reading

theorem readWords_cons (simple : form.commands = []) (reading : Reading) (word : String)
    (rest : List String) : reading.readWords form false (word :: rest) =
      match Word.ofText word with
      | .escape => reading.readWords form true rest
      | .long name joined =>
        reading.takeLong form name joined >>= (readWords form · false rest)
      | .short letters =>
        reading.takeShort form letters >>= (readWords form · false rest)
      | .plain =>
        reading.takePlain form word >>= (readWords form · false rest) := by
  have commandless : ∀ name, form.isCommand name = false := by simp [Form.isCommand, simple]
  cases look : Word.ofText word <;>
    simp only [readWords, simple, commandless, look, List.contains_nil, Bool.and_false,
      Bool.false_eq_true, if_false]

private theorem readWords_awaiting
    (simple : form.commands = []) (judged : reading.settle = .ok settled)
    (looks : Word.ofText word = .long name none) (known : form.long? name = some parameter)
    (valued : parameter.role = .valued rule) : reading.readWords form false (word :: rest) =
      { settled with pending := some (parameter, none) }.readWords form false rest := by
  rw [readWords_cons simple, looks]
  simp only [takeLong, known, valued, takeValued, judged, bind, Except.bind, pure, Except.pure]

theorem readWords_separate (simple : form.commands = []) (judged : reading.settle = .ok settled)
    (looks : Word.ofText word = .long name none) (known : form.long? name = some parameter)
    (valued : parameter.role = .valued rule) (plain : Word.ofText value = .plain) :
    reading.readWords form false (word :: value :: rest) =
      { settled with pending := some (parameter, some value) }.readWords form false rest := by
  rw [readWords_awaiting simple judged looks known valued, readWords_cons simple, plain]
  rfl

/-- A word after an option is not its value if it looks like short names. If the first of these is
unknown, the words are refused. -/
theorem readWords_mistaken (simple : form.commands = []) (judged : reading.settle = .ok settled)
    (looks : Word.ofText word = .long name none) (known : form.long? name = some parameter)
    (valued : parameter.role = .valued rule) {letter : Char} {letters : List Char}
    (short : Word.ofText value = .short (letter :: letters)) (unknown : form.short? letter = none) :
    reading.readWords form false (word :: value :: rest) = .error .unknownArgument := by
  rw [readWords_awaiting simple judged looks known valued, readWords_cons simple, short]
  simp only [takeShort, unknown, bind, Except.bind]

theorem readWords_joined (simple : form.commands = []) (judged : reading.settle = .ok settled)
    (looks : Word.ofText word = .long name (some value)) (known : form.long? name = some parameter)
    (valued : parameter.role = .valued rule) : reading.readWords form false (word :: rest) =
      settled.keepValue parameter value >>= (readWords form · false rest) := by
  rw [readWords_cons simple, looks]
  simp only [takeLong, known, valued, takeValued, judged, bind, Except.bind]

end Reading

/-- The environment has no value that an option of the program may not have. -/
def EnvironmentInOrder (environment : List (String × String)) : Prop :=
  ∃ complete, mainForm.parameters.foldlM (Reading.takeVariable environment) {} = .ok complete

namespace Invocation

variable {environment : List (String × String)} {command : Command} {refusal : Refusal}

private theorem readWords_command (named : mainForm.commands.contains name = true)
    (rest : List String) :
    ({} : Reading).readWords mainForm false (name :: rest) = .ok ({}, some (name, rest)) := by
  simp only [Reading.readWords, Reading.awaitsValue, named]
  rfl

theorem ofWords_command (named : mainForm.commands.contains name = true)
    (read : (commandForm name).read rest = .ok reading)
    (asked : commandOf name reading = .ok command) (inOrder : EnvironmentInOrder environment) :
    ∃ invocation, ofWords (name :: rest) environment = .ok invocation ∧
      invocation.command = command := by
  obtain ⟨complete, options⟩ := inOrder
  simp only [ofWords, readWords_command named, Option.mapM_some, read, asked, Reading.settle, options,
    bind, Except.bind, pure, Except.pure, Functor.map, Except.map]
  exact ⟨_, rfl, rfl⟩

theorem ofWords_refused (named : mainForm.commands.contains name = true)
    (read : (commandForm name).read rest = .error refusal) (environment : List (String × String)) :
    ofWords (name :: rest) environment = .error refusal := by
  simp only [ofWords, readWords_command named, Option.mapM_some, read, bind, Except.bind, Functor.map,
    Except.map]

end Invocation

end PropertyStore.Usage
