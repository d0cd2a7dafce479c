import PropertyStore.Proofs.Command.Default
import PropertyStore.Proofs.Command.Refusal
import PropertyStore.Proofs.Program
import PropertyStore.Proofs.Usage.Reading

/-! Asking on the command line for a number, with another as its default. The default is taken as it
is spelled if it is joined to its option. As a word of its own it is taken unless it is negative, for
then it looks like options and is refused. -/

namespace PropertyStore

namespace Usage

variable {key value : String} {width : Width} {words : List String}

abbrev getForm : Form := commandForm "get"

def typeParameter : Parameter :=
  { long := "type", short := some 't', role := .valued (.oneOf (ValueType.all.map ValueType.word)) }

def defaultParameter : Parameter := { long := "default", short := some 'd', role := .valued .text }

/-- What has been read when a key was asked for as a number of a width. -/
def asking (key : String) (width : Width) : Reading where
  operands := [key]
  pending := some (typeParameter, some (ValueType.number width).word)

def asked (key : String) (width : Width) : Reading where
  operands := [key]
  given := [("type", some (ValueType.number width).word)]

theorem settle_asking (key : String) (width : Width) :
    (asking key width).settle = .ok (asked key width) := by
  cases width <;> rfl

theorem readWords_asking (named : key.toList.head? ≠ some '-') (width : Width)
    (rest : List String) :
    ({} : Reading).readWords getForm false
        (key :: "--type" :: (ValueType.number width).word :: rest) =
      (asking key width).readWords getForm false rest := by
  have word : Word.ofText (ValueType.number width).word = .plain := by
    cases width <;> rfl
  let keyed : Reading := { operands := [key] }
  have judged : keyed.settle = .ok keyed := rfl
  have known : getForm.long? "type" = some typeParameter := rfl
  rw [Reading.readWords_cons rfl, Word.ofText_plain named]
  change keyed.readWords getForm false ("--type" :: (ValueType.number width).word :: rest) = _
  exact Reading.readWords_separate rfl judged rfl known rfl word

def answerable (key : String) (width : Width) (value : String) : Reading :=
  { asked key width with given := (asked key width).given ++ [("default", some value)] }

private theorem commandOf_answerable (key : String) (width : Width) (value : String) :
    commandOf "get" (answerable key width value) =
      .ok (.get key (some value) (.number width)) := by
  cases width <;> rfl

private theorem read_separate (named : key.toList.head? ≠ some '-')
    (plain : Word.ofText value = .plain) :
    getForm.read (key :: "--type" :: (ValueType.number width).word :: "--default" :: [value]) =
      .ok (answerable key width value) := by
  have words : (asking key width).readWords getForm false ["--default", value] =
      .ok ({ asked key width with pending := some (defaultParameter, some value) }, none) :=
    Reading.readWords_separate rfl (settle_asking key width) rfl rfl rfl plain
  rw [Form.read, readWords_asking named, words]
  rfl

private theorem read_joined (named : key.toList.head? ≠ some '-') (value : String) :
    getForm.read (key :: "--type" :: (ValueType.number width).word :: ["--default=" ++ value]) =
      .ok (answerable key width value) := by
  have spelled : "--default=" = "--" ++ "default" ++ "=" := by decide
  have looks : Word.ofText ("--default=" ++ value) = .long "default" (some value) := by
    rw [spelled]
    exact Word.ofText_joined (by decide) value
  have known : getForm.long? "default" = some defaultParameter := rfl
  have words : (asking key width).readWords getForm false ["--default=" ++ value] = _ :=
    Reading.readWords_joined rfl (settle_asking key width) looks known rfl
  rw [Form.read, readWords_asking named, words]
  rfl

private theorem read_mistaken (named : key.toList.head? ≠ some '-') {letter : Char}
    {letters : List Char}
    (short : Word.ofText value = .short (letter :: letters)) (unknown : getForm.short? letter = none) :
    getForm.read (key :: "--type" :: (ValueType.number width).word :: "--default" :: [value]) =
      .error .unknownArgument := by
  have words : (asking key width).readWords getForm false ["--default", value] =
      .error .unknownArgument :=
    Reading.readWords_mistaken rfl (settle_asking key width) rfl rfl rfl short unknown
  rw [Form.read, readWords_asking named, words]
  rfl

private theorem short?_digit {c : Char} (digit : c.isDigit = true) : getForm.short? c = none := by
  have others : c ≠ 'd' ∧ c ≠ 't' ∧ c ≠ 'h' := by
    refine ⟨?_, ?_, ?_⟩ <;> rintro rfl <;> cases digit
  simp [getForm, commandForm, Form.short?, helpParameter, others.1.symm, others.2.1.symm,
    others.2.2.symm]

/-- The decimal text of a number looks like a value, unless the number is negative. Then it looks
like options, and the first is a digit. -/
theorem ofText_render (number : Int) :
    (0 ≤ number → Word.ofText (Number.render number) = .plain) ∧
      (number < 0 → ∃ c letters, c.isDigit = true ∧
        Word.ofText (Number.render number) = .short (c :: letters)) := by
  obtain ⟨c, letters, digits⟩ :=
    List.exists_cons_of_ne_nil (Nat.toDigits_ne_nil : Nat.toDigits 10 number.natAbs ≠ [])
  have digit : c.isDigit = true :=
    Nat.isDigit_of_mem_toDigits (by decide) (by decide) (digits ▸ List.mem_cons_self)
  have dashless : c ≠ '-' := by
    rintro rfl
    cases digit
  constructor
  · intro positive
    rw [Number.render, if_neg (Int.not_lt.mpr positive), digits]
    exact Word.ofText_plain (by simpa using dashless)
  · intro negative
    rw [Number.render, if_pos negative, digits]
    exact ⟨c, letters, digit, Word.ofText_short dashless letters⟩

end Usage

theorem Command.perform_get_absent {store : Store} {key text : String} {width : Width} {number : Int}
    (absent : store.get? key = none) (spells : Number.Spells text number) (fits : width.Holds number)
    (setting : Setting) : perform setting store (.get key (some text) (.number width)) =
      ⟨⟨store, .ok ()⟩, [.line (Number.render number)]⟩ := by
  have shown : shownValue store key (some text) (.number width) = .ok (Number.render number) := by
    simp only [shownValue, defaultNumber, Number.parse_of_spells spells fits, Store.number, absent,
      Except.mapError, bind, Except.bind, pure, Except.pure]
  rw [perform, shown]

namespace Program

variable {invocation : Usage.Invocation} {words : List String}
  {environment : List (String × String)} {key text : String}

private theorem start_prints {home : Option String} {tree : Files.Tree} {store : Store}
    (accepted : Usage.Invocation.ofWords words environment = .ok invocation)
    (fileless : invocation.logFile = none)
    (opened : (invocation.opening home tree .granted).value = .ok store)
    (said : ∀ setting, Command.perform setting store invocation.command =
      ⟨⟨store, .ok ()⟩, [.line text]⟩) (directives : String) (moment : Moment) :
    let ending := start words environment home directives moment tree
    ending.exitCode = 0 ∧ ending.session.output = text ++ "\n" := by
  intro ending
  have quiet := (invocation.told_opening home tree .granted).quiet
  have report := Command.carryOut_opened opened moment.stamp
  rw [said] at report
  obtain ⟨exitCode, _, output, _⟩ := run_onConsole invocation home directives moment tree fileless
  rw [report] at exitCode output
  rw [Report.output_eq, linesOf_append, quiet.linesOf_eq] at output
  have whole : ending = run invocation home directives moment tree := by
    simp only [ending, start, accepted]
  rw [whole]
  refine ⟨exitCode, output.trans ?_⟩
  simp [linesOf, Report.output, outputText, String.join_cons]

/-- The words of a command line are accepted in an environment, and a store that does not have the
key is answered with the text. -/
def AnswersDefault (environment : List (String × String)) (key text : String)
    (words : List String) : Prop :=
  ∃ invocation, Usage.Invocation.ofWords words environment = .ok invocation ∧
    (∀ setting store, store.get? key = none →
      Command.perform setting store invocation.command = ⟨⟨store, .ok ()⟩, [.line text]⟩) ∧
    ∀ home directives moment tree store, invocation.logFile = none →
      (invocation.opening home tree .granted).value = .ok store → store.get? key = none →
      let ending := start words environment home directives moment tree
      ending.exitCode = 0 ∧ ending.session.output = text ++ "\n"

private theorem answersDefault_of_read {width : Width} {number : Int} {given : List String}
    (read : Usage.getForm.read given = .ok (Usage.answerable key width (Number.render number)))
    (fits : width.Holds number) (inOrder : Usage.EnvironmentInOrder environment) :
    AnswersDefault environment key (Number.render number) ("get" :: given) := by
  obtain ⟨invocation, accepted, command⟩ :=
    Usage.Invocation.ofWords_command rfl read (Usage.commandOf_answerable key width _) inOrder
  have said (setting : Command.Setting) (store : Store) (absent : store.get? key = none) :
      Command.perform setting store invocation.command =
        ⟨⟨store, .ok ()⟩, [.line (Number.render number)]⟩ := by
    rw [command]
    exact Command.perform_get_absent absent (Number.spells_render number) fits setting
  refine ⟨invocation, accepted, said, ?_⟩
  intro home directives moment tree store fileless opened absent
  exact start_prints accepted fileless opened (fun setting => said setting store absent) directives
    moment

/-- A number that is given as a word of its own can be the default if and only if it is not
negative. A negative one ends the process before it does anything. Joined to its option every number
can be the default. -/
theorem number_default_accepted_iff (named : key.toList.head? ≠ some '-') {width : Width}
    {number : Int} (fits : width.Holds number) (inOrder : Usage.EnvironmentInOrder environment) :
    let text := Number.render number
    let words (given : List String) := "get" :: key :: "--type" :: (ValueType.number width).word :: given
    (AnswersDefault environment key text (words ["--default", text]) ↔ 0 ≤ number) ∧
      AnswersDefault environment key text (words ["--default=" ++ text]) ∧
      (number < 0 → ∀ home directives moment tree access,
        start (words ["--default", text]) environment home directives moment tree access =
          turnAway .unknownArgument tree) := by
  intro text words
  obtain ⟨plain, short⟩ := Usage.ofText_render number
  have refused (negative : number < 0) :
      Usage.Invocation.ofWords (words ["--default", text]) environment = .error .unknownArgument := by
    obtain ⟨c, letters, digit, looks⟩ := short negative
    exact Usage.Invocation.ofWords_refused rfl
      (Usage.read_mistaken named looks (Usage.short?_digit digit)) environment
  refine ⟨⟨?_, ?_⟩, ?_, ?_⟩
  · rintro ⟨invocation, accepted, _⟩
    by_contra negative
    cases accepted.symm.trans (refused (Int.not_le.mp negative))
  · intro positive
    exact answersDefault_of_read (Usage.read_separate named (plain positive)) fits inOrder
  · exact answersDefault_of_read (Usage.read_joined named text) fits inOrder
  · intro negative home directives moment tree access
    rw [start, refused negative]

/-- The least number of 64 bits can be joined to its option and cannot be a word of its own. -/
theorem number_default_accepted_iff_least :
    let text := "-9223372036854775808"
    let words (given : List String) := "get" :: "n" :: "--type" :: "long" :: given
    "n".toList.head? ≠ some '-' ∧ Width.long.Holds (-9223372036854775808) ∧
      Usage.EnvironmentInOrder [] ∧ ¬ AnswersDefault [] "n" text (words ["--default", text]) ∧
      AnswersDefault [] "n" text (words ["--default=" ++ text]) := by
  intro text words
  have named : "n".toList.head? ≠ some '-' := by decide
  have fits : Width.long.Holds (-9223372036854775808) := by decide
  have inOrder : Usage.EnvironmentInOrder [] := ⟨{}, rfl⟩
  have spelled : Number.render (-9223372036854775808) = text := by decide +kernel
  obtain ⟨separate, joined, _⟩ := number_default_accepted_iff named fits inOrder
  rw [spelled] at separate joined
  refine ⟨named, fits, inOrder, ?_, joined⟩
  intro answers
  exact absurd (separate.mp answers) (by decide)

/-- Not every number can be the default as a word of its own. -/
theorem negative_default_refused :
    ¬ ∀ (key : String) (width : Width) (number : Int), key ≠ "" → key.toList.head? ≠ some '-' →
      width.Holds number → AnswersDefault [] key (Number.render number)
        ["get", key, "--type", (ValueType.number width).word, "--default", Number.render number] := by
  intro law
  obtain ⟨invocation, accepted, _⟩ := law "k" .int (-5) (by decide) (by decide) (by decide)
  have refused : Usage.Invocation.ofWords ["get", "k", "--type", "int", "--default", "-5"] [] =
      .error .unknownArgument := by
    decide +kernel
  cases accepted.symm.trans refused

end Program

end PropertyStore
