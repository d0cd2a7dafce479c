import PropertyStore.Command.Run
import PropertyStore.Proofs.Number

/-! The default of a property that is asked for. A property that is there is read without it: all
defaults that can be read as the type asked for lead to the same answer, which is that of the store's
own reading. A default that cannot be read so is refused before the store is looked at. -/

namespace PropertyStore

/-- A default can be read as a type. Every text can be, unless a number is asked for. -/
def ValueType.Accepts (type : ValueType) (default : Option String) : Prop :=
  match type, default with
  | .number width, some spelt => ∃ number, Number.Spells spelt number ∧ width.Holds number
  | _, _ => True

/-- How a store itself reads a property as a type, and the text of what it reads. -/
def Store.readAs (store : Store) (key : String) : ValueType → Except Fault String
  | .text =>
    match store.get? key with
    | some value => .ok value
    | none => .error (.missing key)
  | .number .int => (store.getInt key).map Number.render
  | .number .long => (store.getLong key).map Number.render
  | .truth => .ok (if store.getBool key then "true" else "false")

namespace Command

variable {store : Store} {key value : String} {width : Width} {default : Option String}

private theorem defaultNumber_of_accepts (accepted : (ValueType.number width).Accepts default) :
    ∃ number, defaultNumber width default = .ok number := by
  cases default with
  | none => exact ⟨0, rfl⟩
  | some text =>
    obtain ⟨number, spells, fits⟩ := accepted
    refine ⟨number, ?_⟩
    rw [defaultNumber, Number.parse_of_spells spells fits]
    rfl

private theorem defaultNumber_of_not_accepts
    (refused : ¬ (ValueType.number width).Accepts default) :
    ∃ text cause, default = some text ∧ Number.Fails width text.toList cause ∧
      defaultNumber width default = .error (.badDefault width cause) := by
  cases default with
  | none => exact (refused trivial).elim
  | some text =>
    rcases Number.spells_or_fails width text with spells | ⟨cause, fails⟩
    · exact (refused spells).elim
    · refine ⟨text, cause, rfl, fails, ?_⟩
      rw [defaultNumber, Number.parse_of_fails fails]
      rfl

private theorem shownValue_of_held (held : store.get? key = some value) (type : ValueType)
    (accepted : type.Accepts default) :
    shownValue store key default type = (store.readAs key type).mapError Failure.store := by
  cases type with
  | text =>
    have present : store.get? key ≠ none := by simp [held]
    cases default <;>
      simp [shownValue, requiredText_of_present present, Store.readAs, Store.getD, held,
        Except.mapError]
  | number width =>
    obtain ⟨otherwise, read⟩ := defaultNumber_of_accepts accepted
    have number (default : Int) := Store.number_of_held held width default
    cases width <;>
      simp only [shownValue, read, Store.readAs, Store.getInt, Store.getLong, number, bind,
        Except.bind, pure, Except.pure] <;>
      cases Number.parse _ value <;> rfl
  | truth => simp [shownValue, Store.readAs, Store.getBool, held, Except.mapError]

private theorem shownValue_of_refused {type : ValueType} (refused : ¬ type.Accepts default) :
    ∃ width text cause, type = .number width ∧ default = some text ∧
      Number.Fails width text.toList cause ∧
      ∀ (store : Store) key, shownValue store key default type = .error (.badDefault width cause) := by
  cases type with
  | number width =>
    obtain ⟨text, cause, given, fails, read⟩ := defaultNumber_of_not_accepts refused
    refine ⟨width, text, cause, rfl, given, fails, ?_⟩
    intro store key
    simp only [shownValue, read, bind, Except.bind]
  | _ => exact (refused trivial).elim

/-- A command that asks for a property which is there says what the store itself reads, or fails with
the fault of that reading, whatever default it has, as long as that can be read as the type asked for.
With one that cannot, it fails for it on every store. -/
theorem get_default_unused (setting : Setting) (held : store.get? key = some value)
    (type : ValueType) :
    (∀ default, type.Accepts default → perform setting store (.get key default type) =
      match store.readAs key type with
      | .ok text => ⟨⟨store, .ok ()⟩, [.line text]⟩
      | .error fault => ⟨⟨store, .error (.store fault)⟩, []⟩) ∧
    (∀ first second, type.Accepts first → type.Accepts second →
      perform setting store (.get key first type) = perform setting store (.get key second type)) ∧
    ∀ default, ¬ type.Accepts default → ∃ width text cause,
      type = .number width ∧ default = some text ∧ Number.Fails width text.toList cause ∧
      ∀ (other : Store) key, perform setting other (.get key default type) =
        ⟨⟨other, .error (.badDefault width cause)⟩, []⟩ := by
  have read : ∀ default, type.Accepts default → perform setting store (.get key default type) =
      match store.readAs key type with
      | .ok text => ⟨⟨store, .ok ()⟩, [.line text]⟩
      | .error fault => ⟨⟨store, .error (.store fault)⟩, []⟩ := by
    intro default accepted
    rw [perform, shownValue_of_held held type accepted]
    cases store.readAs key type <;> rfl
  refine ⟨read, ?_, ?_⟩
  · intro first second firstAccepted secondAccepted
    rw [read first firstAccepted, read second secondAccepted]
  · intro default refused
    obtain ⟨width, text, cause, number, given, fails, shown⟩ := shownValue_of_refused refused
    refine ⟨width, text, cause, number, given, fails, ?_⟩
    intro other key
    rw [perform, shown]

/-- A number that does not fit its type is refused with any default that is a number. -/
theorem get_default_unused_beyond :
    let store := ({} : Store).set "n" "2147483648"
    let report := perform ⟨{}, "", false, false⟩ store (.get "n" (some "-7") (.number .int))
    store.get? "n" = some "2147483648" ∧ (ValueType.number .int).Accepts (some "-7") ∧
      report.value.result = .error (.store (.badNumber "n" "2147483648" .tooLarge)) ∧
      report.notices = [] := by
  intro store report
  have held : store.get? "n" = some "2147483648" := by simp [store]
  have accepted : (ValueType.number .int).Accepts (some "-7") := by
    refine ⟨-7, ?_, by decide⟩
    rw [← show Number.render (-7) = "-7" by decide]
    exact Number.spells_render (-7)
  have told := (get_default_unused ⟨{}, "", false, false⟩ held (.number .int)).1 _ accepted
  have read : store.readAs "n" (.number .int) =
      .error (.badNumber "n" "2147483648" .tooLarge) := by
    decide +kernel
  rw [read] at told
  rw [show report = _ from told]
  exact ⟨held, accepted, rfl, rfl⟩

/-- A default that is no number makes asking for one that is there fail. -/
theorem get_default_refused :
    ¬ ∀ (setting : Setting) (store : Store) (key value : String) (type : ValueType)
        (first second : Option String), store.get? key = some value →
      perform setting store (.get key first type) = perform setting store (.get key second type) := by
  intro law
  let store := ({} : Store).set "n" "5"
  have held : store.get? "n" = some "5" := by simp [store]
  have same := congrArg (fun report => report.value.result)
    (law ⟨{}, "", false, false⟩ store "n" "5" (.number .int) none (some "x") held)
  have read : (perform ⟨{}, "", false, false⟩ store (.get "n" none (.number .int))).value.result =
      .ok () := by
    decide +kernel
  have failed : (perform ⟨{}, "", false, false⟩ store
      (.get "n" (some "x") (.number .int))).value.result =
        .error (.badDefault .int .invalidDigit) := by
    decide +kernel
  cases read.symm.trans (same.trans failed)

end Command

end PropertyStore
