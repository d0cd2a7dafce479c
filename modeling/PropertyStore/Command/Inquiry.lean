import PropertyStore.Command.Get
import PropertyStore.Store.Request

/-! Asking a store that others use as well for the text of a property, without a default. The store is
looked at twice, for whether the property is there and for its value, and each look is one step. Between
the two others can have their requests served. -/

namespace PropertyStore

/-- How far someone has come who asks for a property. -/
inductive Inquiry.Stage where
  /-- Has not looked yet. -/
  | begun
  /-- Has found the property there. -/
  | assured
  | answered (answer : Except Fault String)

/-- A store, how far someone is who asks it for a property, and the requests that others have still
to make of it. -/
structure Inquiry where
  store : Store
  stage : Inquiry.Stage := .begun
  programs : Nat → List Request := fun _ => []

/-- Whose step is next. -/
inductive Turn where
  | own
  | other (caller : Nat)
  deriving Repr, DecidableEq

namespace Inquiry

/-- Looks at the store. -/
def look (key : String) (inquiry : Inquiry) : Inquiry :=
  match inquiry.stage with
  | .begun =>
    match inquiry.store.require key with
    | .ok () => { inquiry with stage := .assured }
    | .error fault => { inquiry with stage := .answered (.error fault) }
  | .assured => { inquiry with stage := .answered (.ok (inquiry.store.getD key "")) }
  | .answered _ => inquiry

/-- The next step of whose turn it is. -/
def step (key : String) (inquiry : Inquiry) : Turn → Inquiry
  | .own => inquiry.look key
  | .other caller =>
    match inquiry.programs caller with
    | [] => inquiry
    | request :: rest =>
      { inquiry with
        store := inquiry.store.serve request
        programs := fun other => if other = caller then rest else inquiry.programs other }

/-- The moments of a run: what there is after each number of steps. -/
def run (key : String) (schedule : Nat → Turn) (start : Inquiry) : Nat → Inquiry
  | 0 => start
  | moment + 1 => (run key schedule start moment).step key (schedule moment)

end Inquiry

end PropertyStore
