import PropertyStore.Store.Operation
import PropertyStore.Store.Source

/-! What is asked of a store where it stands: operations on its properties, and loads. A request
that cannot be met is answered with a fault, and those after it are served all the same. -/

namespace PropertyStore

/-- A request to a store. A load finds the files as they are then. -/
inductive Request where
  | operate (operation : Operation)
  | load (tree : Files.Tree) (access : Access) (source : Source)

namespace InPlace

/-- Carries out an operation. An expression that states nothing is a fault. -/
def operate : Operation → InPlace Unit
  | .setExpression expression => do
    let changed ← liftExcept ((← get).setExpression expression)
    set changed
  | operation => modify (·.perform operation)

/-- Sets what expressions state, one after the other, as far as the first that states nothing. -/
def setExpressions : List String → InPlace Unit
  | [] => return
  | expression :: rest => do
    operate (.setExpression expression)
    setExpressions rest

def serve : Request → InPlace Unit
  | .operate operation => operate operation
  | .load tree access source => load tree access source

end InPlace

def Store.serve (store : Store) (request : Request) : Store :=
  ((InPlace.serve request).run store).2

def Store.serveAll (store : Store) (requests : List Request) : Store :=
  requests.foldl serve store

end PropertyStore
