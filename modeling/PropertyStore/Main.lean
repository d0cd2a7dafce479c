import Std.Time.Zoned
import PropertyStore.Program

/-! The command line program. It looks up in the real file system what a run may need to
know, runs, and writes out what is to be seen of the run. A file that was there is written
in place and so keeps its permission bits; a new one is put in its place as a whole. -/

namespace PropertyStore.Disk

def pathOf (place : Files.Place) : String := "/" ++ "/".intercalate place

/-- The place of a path that leads somewhere, links followed. -/
def realPlace? (path : String) : IO (Option Files.Place) := do
  try
    let real ← IO.FS.realPath path
    return some ((Files.Path.segments (toString real)).filter fun segment =>
      !Files.Path.isIdle segment)
  catch _ => return none

/-- What stands at a place to which no link leads. A file that cannot be read counts as
something that is no file. -/
def entryAt (place : Files.Place) : IO Files.Entry := do
  try
    let real ← IO.FS.realPath (pathOf place)
    match (← real.metadata).type with
    | .dir => return .directory Files.newDirectoryMode
    | .file => return .file (← IO.FS.readBinFile real).data.toList Files.newFileMode
    | _ => return .device
  catch _ => return .device

/-- Adds a place to which no link leads and the directories on the way to it. -/
def addPlace (tree : Files.Tree) (place : Files.Place) : IO Files.Tree := do
  let entry ← entryAt place
  let above := (List.range place.length).foldl
    (fun tree length => tree.put (place.take length) (.directory Files.newDirectoryMode)) tree
  return above.put place entry

/-- Adds what a walk from a place along the segments of a path comes across. -/
def addWalk (tree : Files.Tree) (place : Files.Place) : List String → IO Files.Tree
  | [] => return tree
  | segment :: rest => do
    if Files.Path.isIdle segment then addWalk tree place rest
    else if segment = ".." then addWalk tree place.dropLast rest
    else
      let next := place ++ [segment]
      match ← realPlace? (pathOf next) with
      | none => return tree
      | some real =>
        let reached ← addPlace tree real
        let linked := if real = next then reached else reached.put next (.link (pathOf real))
        addWalk linked real rest

def addPath (tree : Files.Tree) (path : String) : IO Files.Tree :=
  addWalk tree (tree.origin path) (Files.Path.segments path)

/-- Adds what a save to a path looks at: the file and the temporary one beside it. -/
def addTarget (tree : Files.Tree) (path : String) : IO Files.Tree := do
  let found ← addPath tree path
  match Files.Replacement.targetOf found path with
  | .error _ => return found
  | .ok target =>
    match Files.Path.sibling? target Files.temporarySuffix with
    | none => return found
    | some temporary => addPath found temporary

/-- The part of the file system that a run on a file, with a log, may look at. -/
def treeFor (file log : Option String) : IO Files.Tree := do
  let here := (← realPlace? ".").getD []
  let mut tree ← addPlace { workingDirectory := here } here
  for path in log do
    tree ← addPath tree path
  for path in file do
    tree ← addTarget tree path
  return tree

def write (path : String) (mode : IO.FS.Mode) (bytes : Text.Bytes) : IO Unit := do
  let handle ← IO.FS.Handle.mk path mode
  handle.write ⟨bytes.toArray⟩
  handle.flush

/-- Makes a place hold what it holds after a run. -/
def settle (before after : Files.Tree) (place : Files.Place) : IO Unit := do
  let path := pathOf place
  match before.find? place, after.find? place with
  | some (.file old _), some (.file new _) =>
    if old = new then return
    else if old.isPrefixOf new then write path .append (new.drop old.length)
    else write path .write new
  | some (.directory _), _ | some .device, _ => return
  | _, some (.file new _) =>
    let temporary := path ++ Files.temporarySuffix
    write temporary .write new
    IO.FS.rename temporary path
  | some _, none => IO.FS.removeFile path
  | _, _ => return

/-- Makes the file system what it is after a run. -/
def settleAll (before after : Files.Tree) : IO Unit := do
  for place in before.entries.keys ++ after.entries.keys.filter (!before.entries.contains ·) do
    settle before after place

def now : IO Moment := do
  let time := Std.Time.DateTime.ofTimestamp (← Std.Time.Timestamp.now) .UTC
  let calendar : Calendar :=
    { year := time.year.toInt.toNat
      month := time.month.val.toNat
      day := time.day.val.toNat
      weekday := time.weekday.toOrdinal.val.toNat
      hour := time.hour.val.toNat
      minute := time.minute.val.toNat
      second := time.second.val.toNat
      microsecond := time.nanosecond.val.toNat / 1000 }
  return calendar.moment

/-- The environment variables that the options may take their values from. -/
def environment : IO (List (String × String)) := do
  let names := Usage.mainForm.parameters.filterMap Usage.Parameter.variableName
  let mut found := []
  for name in names do
    for value in ← IO.getEnv name do
      found := found ++ [(name, value)]
  return found

/-- The part of the file system that a process may look at. -/
def treeOf (words : List String) (environment : List (String × String)) (home : Option String) :
    IO Files.Tree :=
  match Usage.Invocation.ofWords words environment with
  | .error _ => return {}
  | .ok invocation =>
    treeFor (invocation.file <|> home.map Program.defaultPath) invocation.logConfig.openFile?

end PropertyStore.Disk

open PropertyStore in
def main (words : List String) : IO UInt32 := do
  let environment ← Disk.environment
  let home := (← IO.getEnv "HOME").filter (· ≠ "")
  let directives := (← IO.getEnv "RUST_LOG").getD ""
  let before ← Disk.treeOf words environment home
  let ending := Program.start words environment home directives (← Disk.now) before
  Disk.settleAll before ending.session.tree
  IO.print ending.session.output
  IO.eprint ending.session.complaints
  return ending.exitCode.toUInt32
