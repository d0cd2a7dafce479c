import PropertyStore.Files.Fault
import PropertyStore.Files.Path
import PropertyStore.Files.Tree

/-! From paths to places. A walk goes through a path segment by segment from the root or
the working directory; each place it leaves must be a directory, and a link sends it on
through the segments of the link's text. A walk follows at most `linkLimit` links. -/

namespace PropertyStore.Files

/-- The most links that one walk follows. -/
def linkLimit : Nat := 40

/-- The most bytes that a name may have. -/
def nameLimit : Nat := 255

/-- The number of bytes at which a path is too long for any operation but resolving it. -/
def pathLimit : Nat := 4096

/-- What a path leads to: something that is there, or a free name in a directory. -/
inductive Destination where
  | existing (place : Place)
  | free (place : Place)
  deriving Repr, DecidableEq

/-- What a walk is for. A walk to create a file refuses a last name with a slash after it. -/
inductive Purpose where
  | find
  | create
  deriving Repr, DecidableEq

namespace Tree

def isDirectory (tree : Tree) (place : Place) : Bool :=
  match tree.find? place with
  | some (.directory _) => true
  | _ => false

/-- Walks from a place, leaving the first link to `follow`: the place that the link's text
starts from, and the segments from there on. -/
def walkWith (tree : Tree) (purpose : Purpose)
    (follow : Place → List String → Except Fault Destination) (place : Place) :
    List String → Except Fault Destination
  | [] => .ok (.existing place)
  | segment :: rest =>
    if !tree.isDirectory place then .error .notDirectory
    else if Path.isIdle segment then tree.walkWith purpose follow place rest
    else if segment = ".." then tree.walkWith purpose follow place.dropLast rest
    else
      let last := rest.all (· = "")
      if purpose = .create && last && !rest.isEmpty then .error .isDirectory
      else if nameLimit < segment.utf8ByteSize then .error .nameTooLong
      else match tree.find? (place ++ [segment]) with
        | none => if last then .ok (.free (place ++ [segment])) else .error .notFound
        | some (.link target) =>
          follow (if Path.isAbsolute target then [] else place) (Path.segments target ++ rest)
        | some _ => tree.walkWith purpose follow (place ++ [segment]) rest

/-- Walks with at most `budget` links to follow. -/
def walk (tree : Tree) (purpose : Purpose) :
    (budget : Nat) → Place → List String → Except Fault Destination
  | 0 => tree.walkWith purpose fun _ _ => .error .linkLoop
  | budget + 1 => tree.walkWith purpose (tree.walk purpose budget)

def origin (tree : Tree) (path : String) : Place :=
  if Path.isAbsolute path then [] else tree.workingDirectory

/-- Where a path leads, links followed, whatever its length. -/
def resolve (tree : Tree) (purpose : Purpose) (path : String) : Except Fault Destination :=
  if path.toList.contains '\x00' then .error .nulInName
  else if path = "" then .error .notFound
  else tree.walk purpose linkLimit (tree.origin path) (Path.segments path)

/-- Where a path leads, links followed; too long a path is not even looked at. -/
def locate (tree : Tree) (purpose : Purpose) (path : String) : Except Fault Destination :=
  if pathLimit ≤ path.utf8ByteSize && !path.toList.contains '\x00' then .error .nameTooLong
  else tree.resolve purpose path

def lookup (tree : Tree) (path : String) : Except Fault (Place × Entry) := do
  match ← tree.locate .find path with
  | .free _ => .error .notFound
  | .existing place =>
    match tree.find? place with
    | none => .error .notFound
    | some entry => return (place, entry)

/-- Whether a path leads to anything, links followed. -/
def leadsSomewhere (tree : Tree) (path : String) : Bool := (tree.lookup path).isOk

/-- The content of the regular file that a path leads to. -/
def content? (tree : Tree) (path : String) : Option Text.Bytes :=
  match tree.lookup path with
  | .ok (_, .file content _) => some content
  | _ => none

def mode? (tree : Tree) (path : String) : Option Nat :=
  match tree.lookup path with
  | .ok (_, entry) => entry.mode?
  | .error _ => none

/-- The path of an existing place from the root: no link and no idle segment in it. -/
def canonical (tree : Tree) (path : String) : Except Fault String := do
  match ← tree.resolve .find path with
  | .free _ => .error .notFound
  | .existing place => return "/" ++ "/".intercalate place

/-- The place that the last name of a path stands for, itself not followed, and whether a
slash comes after it. -/
def slot (tree : Tree) (path : String) : Except Fault (Place × Bool) :=
  if path.toList.contains '\x00' then .error .nulInName
  else if path = "" then .error .notFound
  else if pathLimit ≤ path.utf8ByteSize then .error .nameTooLong
  else
    let parts := Path.segments path
    match parts.reverse.dropWhile (· = "") with
    | [] => .error .busy
    | name :: above => do
      match ← tree.walk .find linkLimit (tree.origin path) above.reverse with
      | .free _ => .error .notFound
      | .existing place =>
        if !tree.isDirectory place then .error .notDirectory
        else if name = "." || name = ".." then .error .busy
        else if nameLimit < name.utf8ByteSize then .error .nameTooLong
        else return (place ++ [name], parts.getLast? = some "")

end Tree

end PropertyStore.Files
