import PropertyStore.Fault
import PropertyStore.Properties
import PropertyStore.Text.Cut

/-! A store of properties: the properties themselves, the file they belong to by default,
and, if that file is there but could not be loaded, why. Values are kept as text and read
anew as numbers or truth values each time. -/

namespace PropertyStore

structure Store where
  properties : Properties := ∅
  defaultPath : Option String := none
  /-- Why the default file, which exists, could not be loaded. -/
  loadFailure : Option String := none

namespace Store

variable (store : Store)

def get? (key : String) : Option String := store.properties[key]?

def getD (key default : String) : String := (store.get? key).getD default

def contains (key : String) : Bool := (store.get? key).isSome

def size : Nat := store.properties.size

def isEmpty : Bool := store.properties.isEmpty

def keys : List String := store.properties.keys

def toList : List Document.Entry := store.properties.toList

def require (key : String) : Except Fault Unit :=
  if store.contains key then .ok () else .error (.missing key)

/-- The number of a width that a property holds, or `default` if there is no such property.
A property that holds something else is a fault whatever the default is. -/
def number (width : Width) (key : String) (default : Int) : Except Fault Int :=
  match store.get? key with
  | none => .ok default
  | some value => (Number.parse width value).mapError (Fault.badNumber key value)

def getInt (key : String) (default : Int := 0) : Except Fault Int := store.number .int key default

def getLong (key : String) (default : Int := 0) : Except Fault Int :=
  store.number .long key default

/-- Whether a text means true: the word `true` in any ASCII case. -/
def isTrue (value : String) : Bool := value.toLower = "true"

def getBool (key : String) (default : Bool := false) : Bool :=
  match store.get? key with
  | none => default
  | some value => isTrue value

def set (key value : String) : Store :=
  { store with properties := store.properties.insert key value }

/-- Sets a value that may be absent, which is kept as the empty text. -/
def setOptional (key : String) (value : Option String) : Store := store.set key (value.getD "")

def setBool (key : String) (value : Bool) : Store :=
  store.set key (if value then "true" else "false")

def remove (key : String) : Store := { store with properties := store.properties.erase key }

def clear : Store := { store with properties := ∅ }

def merge (entries : List Document.Entry) : Store :=
  { store with properties := store.properties.overlay entries }

/-- The key before the first `=` of an expression and the value after it. -/
def splitExpression? (expression : String) : Option Document.Entry :=
  (Text.cutAt? '=' expression.toList).map fun (key, value) =>
    (String.ofList key, String.ofList value)

def setExpression (expression : String) : Except Fault Store :=
  match splitExpression? expression with
  | some (key, value) => .ok (store.set key value)
  | none => .error (.badExpression expression)

/-- An expression states what stands around its first `=`. -/
theorem splitExpression?_eq_some_iff (expression key value : String) :
    splitExpression? expression = some (key, value) ↔
      '=' ∉ key.toList ∧ expression = key ++ "=" ++ value := by
  have text : expression = key ++ "=" ++ value ↔
      expression.toList = key.toList ++ '=' :: value.toList := by
    rw [← String.toList_inj]
    simp
  rw [text, ← Text.cutAt?_eq_some_iff, splitExpression?, Option.map_eq_some_iff]
  constructor
  · rintro ⟨⟨before, after⟩, cut, same⟩
    obtain ⟨rfl, rfl⟩ := Prod.mk.inj same
    simpa only [String.toList_ofList] using cut
  · exact fun cut => ⟨_, cut, by simp⟩

theorem require_of_absent (absent : store.get? key = none) :
    store.require key = .error (.missing key) := by
  simp [require, contains, absent]

theorem require_of_present (present : store.get? key ≠ none) : store.require key = .ok () :=
  if_pos (Option.isSome_iff_ne_none.mpr present)

@[simp] theorem get?_set (key value other : String) :
    (store.set key value).get? other = if key = other then some value else store.get? other := by
  simp [set, get?, Std.ExtTreeMap.getElem?_insert]

@[simp] theorem get?_remove (key other : String) :
    (store.remove key).get? other = if key = other then none else store.get? other := by
  simp [remove, get?, Std.ExtTreeMap.getElem?_erase]

@[simp] theorem get?_clear (key : String) : store.clear.get? key = none := by
  simp [clear, get?]

/-- Two stores with the same values have the same properties. -/
theorem properties_eq_of_get? (first second : Store)
    (same : ∀ key, first.get? key = second.get? key) : first.properties = second.properties :=
  Std.ExtTreeMap.ext_getElem? same

end Store

end PropertyStore
