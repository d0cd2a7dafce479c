import Std.Data.ExtTreeMap
import PropertyStore.Document.Parse

namespace PropertyStore

/-- Values by key. -/
abbrev Properties := Std.ExtTreeMap String String

namespace Properties

/-- Lays entries over a set from left to right: the last value of a key wins. -/
def overlay (properties : Properties) (entries : List Document.Entry) : Properties :=
  entries.foldl (fun current entry => current.insert entry.1 entry.2) properties

/-- The set of a list of entries, the last value of a key winning. -/
def ofEntries (entries : List Document.Entry) : Properties := overlay ∅ entries

end Properties

end PropertyStore
