/-! Paths as text. A path is read as segments between slashes; empty segments and `.` lead
nowhere and count for nothing when the last name is looked for. -/

namespace PropertyStore.Files.Path

/-- The segments of a path, empty ones included. -/
def segments (path : String) : List String :=
  (path.toList.splitOn '/').map String.ofList

def isAbsolute (path : String) : Bool := path.toList.head? = some '/'

/-- A segment that leads nowhere. -/
def isIdle (segment : String) : Bool := segment = "" || segment = "."

/-- The segments up to the last one that leads somewhere, the last first. -/
def climb (path : String) : List String := (segments path).reverse.dropWhile isIdle

/-- The last name of a path; there is none in a path to a root or that ends in `..`. -/
def fileName? (path : String) : Option String :=
  match climb path with
  | [] | ".." :: _ => none
  | name :: _ => some name

def parent (path : String) : String :=
  match (climb path).tail.dropWhile isIdle with
  | [] =>
    if isAbsolute path then "/"
    else if (segments path).head? = some "." then "." else ""
  | above => "/".intercalate above.reverse

def join (directory name : String) : String :=
  if directory = "" || directory.toList.getLast? = some '/' then directory ++ name
  else directory ++ "/" ++ name

/-- The file beside the one a path names whose name is longer by `suffix`. -/
def sibling? (path suffix : String) : Option String :=
  (fileName? path).map fun name => join (parent path) (name ++ suffix)

end PropertyStore.Files.Path
