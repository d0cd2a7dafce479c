import PropertyStore.Store.Basic

namespace PropertyStore

inductive Operation where
  | set (key value : String)
  | setOptional (key : String) (value : Option String)
  | setBool (key : String) (value : Bool)
  | setExpression (expression : String)
  | remove (key : String)
  | clear
  /-- Lays what a load has read over the properties. -/
  | merge (entries : List Document.Entry)
  deriving Repr, DecidableEq

/-- The store after an operation. An expression that states nothing changes nothing. -/
def Store.perform (store : Store) : Operation → Store
  | .set key value => store.set key value
  | .setOptional key value => store.setOptional key value
  | .setBool key value => store.setBool key value
  | .setExpression expression =>
    match store.setExpression expression with
    | .ok changed => changed
    | .error _ => store
  | .remove key => store.remove key
  | .clear => store.clear
  | .merge entries => store.merge entries

def Store.performAll (store : Store) (operations : List Operation) : Store :=
  operations.foldl perform store

theorem Store.performAll_cons (store : Store) (operation : Operation) (rest : List Operation) :
    store.performAll (operation :: rest) = (store.perform operation).performAll rest :=
  rfl

theorem Store.performAll_append (store : Store) (first second : List Operation) :
    store.performAll (first ++ second) = (store.performAll first).performAll second :=
  List.foldl_append

/-- Whether an operation can change the value of a key. -/
def Operation.Touches (key : String) : Operation → Prop
  | .set other _ | .setOptional other _ | .setBool other _ | .remove other => other = key
  | .setExpression expression => ∃ value, Store.splitExpression? expression = some (key, value)
  | .clear => True
  | .merge entries => ∃ value, (key, value) ∈ entries

/-- An order in which the operations of several programs can come: at each step one of them makes
its next operation. -/
inductive Interleaving : (Nat → List Operation) → List Operation → Prop where
  | done {programs : Nat → List Operation} (empty : ∀ caller, programs caller = []) :
      Interleaving programs []
  | step {programs : Nat → List Operation} {operation : Operation} {rest others : List Operation}
      (caller : Nat) (next : programs caller = operation :: rest)
      (further :
        Interleaving (fun other => if other = caller then rest else programs other) others) :
      Interleaving programs (operation :: others)

end PropertyStore
