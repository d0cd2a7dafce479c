import PropertyStore.Log.Directive
import PropertyStore.Log.Event

/-! Which records are kept. A filter is a list of directives; of those for a record the
narrowest decides: the one with the longest beginning of targets, and of such the one that
asks for a field. -/

namespace PropertyStore.Log

namespace Directive

/-- Whether a directive is for the record of an event. One for a span, or for a value of a
field, which is looked at in spans only, is for no record. -/
def isFor (directive : Directive) (event : Event) : Bool :=
  (match directive.target with
    | none => true
    | some beginning => beginning.toList.isPrefixOf event.target.toList) &&
  directive.span.isNone &&
  (match directive.field with
    | none => true
    | some field => event.fields.contains field.name && field.value.isNone)

/-- How narrowly a directive says which targets it is for. -/
def reach (directive : Directive) : Nat :=
  match directive.target with
  | none => 0
  | some beginning => beginning.utf8ByteSize + 1

/-- Whether a directive decides rather than another, both being for the same record. Of two
that ask for different fields it is the one with the later name. -/
def outranks (one other : Directive) : Bool :=
  let name (directive : Directive) := (directive.field.map Field.name).getD ""
  other.reach < one.reach || (one.reach == other.reach && name other < name one)

/-- Whether two directives say something of the same records and spans. -/
def sharesScope (one other : Directive) : Bool :=
  one.target == other.target && one.span == other.span && one.field == other.field

end Directive

abbrev Filter := List Directive

namespace Filter

/-- Adds a directive in place of one with the same scope. -/
def add (filter : Filter) (directive : Directive) : Filter :=
  directive :: filter.filter (!directive.sharesScope ·)

/-- The directive that decides about an event's record: of those for it, the narrowest. -/
def decisive? (filter : Filter) (event : Event) : Option Directive :=
  (filter.filter (·.isFor event)).foldl
    (fun best directive =>
      match best with
      | none => some directive
      | some chosen => if directive.outranks chosen then some directive else some chosen)
    none

def admits (filter : Filter) (event : Event) : Bool :=
  match filter.decisive? event with
  | none => false
  | some directive => directive.threshold.admits event.severity

/-- The non-empty parts of a filter's text, between commas. -/
def parts (text : String) : List String :=
  ((text.toList.splitOn ',').filter (!·.isEmpty)).map String.ofList

/-- The directives of a text; what is malformed in it is passed over. -/
def ofText (text : String) : Filter :=
  (parts text).foldl
    (fun filter part =>
      match Directive.ofText part with
      | .ok directive => filter.add directive
      | .error _ => filter)
    []

/-- What is said of each part of a filter's text that is passed over. -/
def complaints (text : String) : List String :=
  (parts text).filterMap fun part =>
    match Directive.ofText part with
    | .ok _ => none
    | .error fault => some s!"ignoring `{part}`: {fault.message}"

/-- The filter of a text with a threshold for all targets that have no directive. -/
def withDefault (text : String) (threshold : Threshold) : Filter :=
  (ofText text).add { threshold }

end Filter

end PropertyStore.Log
