import PropertyStore.Document.Parse
import PropertyStore.Document.Print
import PropertyStore.Store.Load
import PropertyStore.Store.Source
import PropertyStore.Store.Save
import PropertyStore.Files.Progress
import PropertyStore.Store.Sharing
import PropertyStore.Command.Run
import PropertyStore.Command.Inquiry
import PropertyStore.Usage.Invocation
import PropertyStore.Log.Setup
import PropertyStore.Log.Callers
import PropertyStore.Program
import PropertyStore.Main
import PropertyStore.Proofs.Document.Reading
import PropertyStore.Proofs.Document.RoundTrip
import PropertyStore.Proofs.Document.Concatenation
import PropertyStore.Proofs.Files.Target
import PropertyStore.Proofs.Simulation
import PropertyStore.Proofs.Files.Goal
import PropertyStore.Proofs.Files.Linked
import PropertyStore.Proofs.Store.Loading
import PropertyStore.Proofs.Store.Opening
import PropertyStore.Proofs.Store.Saving
import PropertyStore.Proofs.Store.Saved
import PropertyStore.Proofs.Store.Written
import PropertyStore.Proofs.Command.Ending
import PropertyStore.Proofs.Command.AllOrNothing
import PropertyStore.Proofs.Command.Refusal
import PropertyStore.Proofs.Command.Audit
import PropertyStore.Proofs.LogFile
import PropertyStore.Proofs.Log.FirstSetUp
import PropertyStore.Proofs.Log.Overlap
import PropertyStore.Proofs.Log.AuditLine
import PropertyStore.Proofs.Refusal
import PropertyStore.Proofs.Session
import PropertyStore.Proofs.Files.Progress
import PropertyStore.Proofs.Store.Interruption
import PropertyStore.Proofs.Store.Sharing
import PropertyStore.Proofs.Store.Version
import PropertyStore.Proofs.Store.Succession
import PropertyStore.Proofs.Store.Chronicle
import PropertyStore.Proofs.Files.Shadowed
import PropertyStore.Proofs.Files.Placed
import PropertyStore.Proofs.Store.Interleaving
import PropertyStore.Proofs.Properties
import PropertyStore.Proofs.Command.Failing
import PropertyStore.Proofs.Command.Default
import PropertyStore.Proofs.Command.Inquiry
import PropertyStore.Proofs.Usage.Reading
import PropertyStore.Proofs.Usage.NumberDefault
import PropertyStore.Proofs.Process
import PropertyStore.Proofs.Document.PropertyLine
import PropertyStore.Proofs.Document.Layout
import PropertyStore.Proofs.Document.LineEnd
import PropertyStore.Store.Request
import PropertyStore.Proofs.Store.Request
import PropertyStore.Proofs.Document.UnitRun
import PropertyStore.Proofs.ByteStream
import PropertyStore.Proofs.Document.LinePerProperty
import PropertyStore.Proofs.Number
import PropertyStore.Proofs.Document.Cautious
