import PropertyStore.Command.Basic
import PropertyStore.Store.Basic

/-! Reading one property: as text, as a number of a width or as a truth value. A default for
a number must be a number itself, whether or not it comes to be used. -/

namespace PropertyStore.Command

/-- The text of a property without a default. The store is looked at twice, for whether the
property is there and for its value. -/
def requiredText (key : String) (first second : Store) : Except Fault String := do
  first.require key
  return second.getD key ""

theorem requiredText_of_absent {first : Store} (absent : first.get? key = none) (second : Store) :
    requiredText key first second = .error (.missing key) := by
  rw [requiredText, first.require_of_absent absent]
  rfl

theorem requiredText_of_present {first : Store} (present : first.get? key ≠ none) (second : Store) :
    requiredText key first second = .ok (second.getD key "") := by
  rw [requiredText, first.require_of_present present]
  rfl

/-- The number that a default spells; no default is nought. -/
def defaultNumber (width : Width) (default : Option String) : Except Failure Int :=
  match default with
  | none => .ok 0
  | some text => (Number.parse width text).mapError (Failure.badDefault width)

/-- The text in which a property of a type is shown. -/
def shownValue (store : Store) (key : String) (default : Option String) :
    ValueType → Except Failure String
  | .text =>
    match default with
    | some text => .ok (store.getD key text)
    | none => (requiredText key store store).mapError Failure.store
  | .number width => do
    let otherwise ← defaultNumber width default
    let value ← (store.number width key otherwise).mapError Failure.store
    return Number.render value
  | .truth => .ok (if store.getBool key (default.any Store.isTrue) then "true" else "false")

end PropertyStore.Command
