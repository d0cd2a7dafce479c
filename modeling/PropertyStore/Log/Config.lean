import PropertyStore.Log.Severity

namespace PropertyStore.Log

structure Config where
  level : Threshold := some .info
  /-- The file that records are added to, unless they go to the console. -/
  file : Option String := none
  /-- Whether records go to the console, which is the stream for complaints. -/
  console : Bool := true
  /-- Whether records and audit entries are written as objects. -/
  asObjects : Bool := false
  deriving Repr, DecidableEq

/-- The file of a log that does not go to the console. -/
def Config.openFile? (config : Config) : Option String :=
  if config.console then none else config.file

end PropertyStore.Log
