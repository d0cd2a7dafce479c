import PropertyStore.Files.Tree

/-! Changes under way. They are made one after the other, and a write piece by piece, so others
can see the tree between any two of them, and a crash can leave it so. -/

namespace PropertyStore.Files

/-- A tree and the changes that are still to be made to it. -/
structure Progress where
  tree : Tree
  pending : List Change

namespace Progress

/-- Makes the next change. Of a write only the first `size` bytes may be done in one step. -/
def step (progress : Progress) (size : Nat) : Progress :=
  match progress.pending with
  | [] => progress
  | .append place bytes :: rest =>
    ⟨progress.tree.apply (.append place (bytes.take size)),
      if bytes.length ≤ size then rest else .append place (bytes.drop size) :: rest⟩
  | change :: rest => ⟨progress.tree.apply change, rest⟩

/-- Goes on for as many steps as there are sizes. -/
def run (progress : Progress) (sizes : List Nat) : Progress := sizes.foldl step progress

end Progress

end PropertyStore.Files
