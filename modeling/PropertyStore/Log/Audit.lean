import PropertyStore.Json

namespace PropertyStore.Log

structure AuditEntry where
  operation : String
  target : String
  result : String
  details : String
  deriving Repr, DecidableEq

namespace AuditEntry

def sentence (entry : AuditEntry) : String :=
  s!"AUDIT: {entry.operation} on {entry.target} - {entry.result} ({entry.details})"

/-- The entry as an object on one line, its fields in alphabetical order. -/
def object (entry : AuditEntry) (clock : String) : String :=
  Json.compact <| .object [
    ("details", .text entry.details),
    ("operation", .text entry.operation),
    ("result", .text entry.result),
    ("target", .text entry.target),
    ("timestamp", .text clock),
    ("type", .text "audit")]

end AuditEntry

end PropertyStore.Log
